import Stencil.FilePath
import Stencil.Json.Reader
import Stencil.Pointer
import Stencil.Query.Reader
import Stencil.Query.Select
import Stencil.Sheet
import Stencil.Sheet.Separated
import Stencil.Sheet.Workbook
import Stencil.Source.Error

/-!
# Sources of variables

A source is a file in one of three formats. It is read as a document, the document is narrowed by a
pointer and then by a query, and what is left becomes sets of variables: one set for each item of a
list where several outputs are asked for, and one set otherwise.
-/

namespace Stencil

/-- The format that the extension of a path tells, in letters of any case. -/
def Format.ofPath? (path : Text) : Option Format :=
  match (FilePath.extension? path).map fun e => String.ofList (e.map Char.toLower) with
  | some "json" => some .json
  | some "csv" => some .csv
  | some "xlsx" => some .xlsx
  | _ => none

/-- What is taken from a source. -/
structure Extract where
  /-- The column of a sheet whose cells name variables. -/
  keyColumn : Text := "key".toList
  /-- Where the part of the document is that is used. -/
  pointer : Option Text := none
  /-- A query whose matches are used. -/
  query : Option Text := none
  /-- Whether each item of a list is a set of its own. -/
  multiple : Bool := false
  /-- The variable that a list is bound to where it is not taken apart. -/
  listName : Text := "root".toList
  deriving DecidableEq, Repr

namespace Source

/-- The document of a sheet: the list of its records. -/
def ofSheet (s : Sheet) (keyColumn : Text) : Except SourceError Value :=
  match s.records? keyColumn with
  | some records => .ok (.list (records.map .map))
  | none => .error (.noKeyColumn keyColumn)

/-- The document of a JSON file. -/
def ofJson (data : ByteArray) : Except SourceError Value :=
  match (Text.ofBytes? data).bind fun t => Json.parse? (Text.dropMark t) with
  | some v => .ok v
  | none => .error (.malformed .json)

/-- The document of a file of separated values. -/
def ofCsv (data : ByteArray) (keyColumn : Text) : Except SourceError Value :=
  match Separated.rows? data with
  | none => .error (.malformed .csv)
  | some rows => ofSheet (Sheet.ofRows rows) keyColumn

/-- The document of a workbook: that of its first sheet. -/
def ofWorkbook (reader : WorkbookReader) (data : ByteArray) (keyColumn : Text) :
    Except SourceError Value :=
  match reader.openBook? data with
  | none => .error (.malformed .xlsx)
  | some book =>
    match reader.range? book 0 with
    | none => .error (.unusable .noSheet)
    | some none => .error (.malformed .xlsx)
    | some (some range) => ofSheet (Sheet.ofRows (reader.texts range)) keyColumn

/-- The document of a file. -/
def document (reader : WorkbookReader) (data : ByteArray) (format : Format) (keyColumn : Text) :
    Except SourceError Value :=
  match format with
  | .json => ofJson data
  | .csv => ofCsv data keyColumn
  | .xlsx => ofWorkbook reader data keyColumn

/-- The part of a document that a pointer addresses. -/
def part (document : Value) (pointer : Text) : Except SourceError Value :=
  match Pointer.find? document pointer with
  | some v => .ok v
  | none => .error (.unusable (.nothingAt pointer))

/-- The list of what a query matches in a document. -/
def hits (document : Value) (query : Text) : Except SourceError Value :=
  match Query.parse? query with
  | some q => .ok (.list (q.run document))
  | none => .error .malformedQuery

/-- The items of a list of maps. -/
def maps : List Value → Except SourceError (List Variables)
  | [] => .ok []
  | .map entries :: rest => (maps rest).map (entries :: ·)
  | _ :: _ => .error (.unusable .notListOfMaps)

/-- The sets of variables that a document gives. -/
def sets (document : Value) (extract : Extract) : Except SourceError (List Variables) :=
  match document with
  | .list items =>
    if extract.multiple then maps items else .ok [[(extract.listName, .list items)]]
  | .map entries => if extract.multiple then .error (.unusable .notList) else .ok [entries]
  | _ => .error (.unusable (if extract.multiple then .notList else .scalar))

/-- A document narrowed by the pointer and the query of an extract; an empty query is none. -/
def narrow (document : Value) (extract : Extract) : Except SourceError Value := do
  let pointed ← match extract.pointer with
    | some pointer => part document pointer
    | none => .ok document
  match extract.query with
  | some (c :: query) => hits pointed (c :: query)
  | _ => .ok pointed

/-- The sets of variables in a file. -/
def load (reader : WorkbookReader) (data : ByteArray) (format : Format) (extract : Extract) :
    Except SourceError (List Variables) := do
  sets (← narrow (← document reader data format extract.keyColumn) extract) extract

end Source

end Stencil
