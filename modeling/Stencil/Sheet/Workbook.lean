import Stencil.Text

/-!
# Workbooks

Opening a workbook and telling what is in it is the work of a reader, which everything that takes
variables from a file is given. It gives the used part of a sheet, a rectangle of cells. Each row is cut
off after its last cell that is not empty, and the cells before are taken as the text that they show.
-/

namespace Stencil

/-- The used part of a sheet. -/
structure CellRange (Cell : Type) where
  /-- The number of its columns. -/
  width : Nat
  /-- Its rows from the top. -/
  rows : List (List Cell)
  /-- Every row has a cell in each column. -/
  length_of_mem : ∀ row ∈ rows, row.length = width

/-- A reader of workbooks. -/
structure WorkbookReader where
  /-- What is known of a workbook that is open. -/
  Book : Type
  /-- What stands at one place of a sheet. -/
  Cell : Type
  /-- Whether nothing stands there. -/
  isEmpty : Cell → Bool
  /-- The text that a cell shows. -/
  shown : Cell → Text
  /-- Open the workbook that the bytes of a file are, if they are one. -/
  openBook? : ByteArray → Option Book
  /-- The used part of a sheet by its number: nothing if the workbook has no such sheet, and nothing
  in its place if the sheet cannot be read. -/
  range? : Book → Nat → Option (Option (CellRange Cell))

namespace WorkbookReader

/-- The cells of a row as text, up to the last one that is not empty. -/
def rowText (reader : WorkbookReader) (row : List reader.Cell) : List Text :=
  (row.reverse.dropWhile reader.isEmpty).reverse.map reader.shown

/-- The rows of the used part of a sheet as text. -/
def texts (reader : WorkbookReader) (range : CellRange reader.Cell) : List (List Text) :=
  range.rows.map reader.rowText

end WorkbookReader

end Stencil
