import Stencil.Text.Quoted

/-!
# Why variables cannot be loaded

The causes, and the message of each.
-/

namespace Stencil

/-- The forms in which variables are stored. -/
inductive Format
  | json
  /-- Fields with semicolons between them. -/
  | csv
  /-- A workbook. -/
  | xlsx
  deriving DecidableEq, Repr

/-- Why a document does not give the variables that are asked for. -/
inductive DocumentFault
  /-- A workbook has no sheet. -/
  | noSheet
  /-- Nothing is where the pointer points. -/
  | nothingAt (pointer : Text)
  /-- One output for each item is asked for, and the document is no list. -/
  | notList
  /-- One output for each item is asked for, and an item is no map. -/
  | notListOfMaps
  /-- The document is a scalar. -/
  | scalar
  deriving DecidableEq, Repr

/-- Why variables cannot be loaded. -/
inductive SourceError
  /-- The content does not have its format. -/
  | malformed (format : Format)
  /-- The query cannot be read. -/
  | malformedQuery
  /-- The extension of a path tells no format. -/
  | unknownFormat (path : Text)
  /-- The header of a sheet does not have the key column. -/
  | noKeyColumn (column : Text)
  /-- The document does not have the right shape. -/
  | unusable (fault : DocumentFault)
  deriving DecidableEq, Repr

/-- What a format is called in messages. -/
def Format.title : Format → Text
  | .json => "JSON".toList
  | .csv => "CSV".toList
  | .xlsx => "Spreadsheet".toList

/-- What is wrong with a document, in words. -/
def DocumentFault.message : DocumentFault → Text
  | .noSheet => "spreadsheet has no sheet".toList
  | .nothingAt pointer =>
    "pointer ".toList ++ Text.quoted pointer ++ " does not address any value".toList
  | .notList => "multiple output requires list data type".toList
  | .notListOfMaps => "multiple output requires a list of objects".toList
  | .scalar => "variables must be an object or a list".toList

/-- Why variables cannot be loaded, in words. -/
def SourceError.message : SourceError → Text
  | .malformed format => format.title ++ " error".toList
  | .malformedQuery => "JSONPath error".toList
  | .unknownFormat path => "Unsupported variables format: ".toList ++ path
  | .noKeyColumn column => "Key column not found: ".toList ++ column
  | .unusable fault => "Invalid variables: ".toList ++ fault.message

end Stencil
