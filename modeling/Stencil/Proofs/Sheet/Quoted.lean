import Mathlib.Data.List.DropRight
import Stencil.Source

/-!
# One grid in two formats

A grid of texts can be written as separated values, every field in quotation marks, or put into the
first sheet of a workbook. Both are read as the grid: the marks keep semicolons, line breaks and
byte order marks inside their fields, and the missing cells that fill up the short rows of a sheet
are cut off again. So both files are the same document, or both lack the key column.
-/

namespace Stencil

namespace Separated

/-- A quotation mark inside quotation marks is written twice. -/
def double (c : Char) : Text := if c = '"' then ['"', '"'] else [c]

/-- A field in quotation marks. -/
def quotedField (field : Text) : Text := '"' :: (field.flatMap double ++ ['"'])

/-- A row of fields in quotation marks, with its line break. -/
def quotedRow (row : List Text) : Text := List.intercalate [';'] (row.map quotedField) ++ ['\n']

/-- Rows of fields in quotation marks. -/
def quotedRows (grid : List (List Text)) : Text := grid.flatMap quotedRow

/-! ## Reading -/

/-- A separator behind a quoted field begins another field. -/
@[simp] theorem rowsFrom_closed_separator (rest : Text) :
    rowsFrom .closed (';' :: rest) = addField (rowsFrom .fieldStart rest) := by
  simp [rowsFrom]

/-- A line break behind a quoted field begins another row. -/
@[simp] theorem rowsFrom_closed_lineFeed (rest : Text) :
    rowsFrom .closed ('\n' :: rest) = addRow (rowsFrom .rowStart rest) := by
  simp [rowsFrom]

/-- A quotation mark at the start of a field opens it. -/
@[simp] theorem rowsFrom_fieldStart_mark (rest : Text) :
    rowsFrom .fieldStart ('"' :: rest) = rowsFrom .quoted rest := by
  simp [rowsFrom]

/-- A quotation mark at the start of a row opens its first field. -/
@[simp] theorem rowsFrom_rowStart_mark (rest : Text) :
    rowsFrom .rowStart ('"' :: rest) = rowsFrom .quoted rest := by
  simp [rowsFrom]

/-- A character inside quotation marks is read as itself, and a doubled mark as one. -/
theorem rowsFrom_quoted_double (c : Char) (rest : Text) :
    rowsFrom .quoted (double c ++ rest) = addChar c (rowsFrom .quoted rest) := by
  by_cases hc : c = '"'
  · simp [double, hc, rowsFrom]
  · simp [double, hc, rowsFrom]

/-- Inside quotation marks a field is read to the mark that closes it. -/
theorem rowsFrom_quoted_append {field rest : Text} {fields : List Text} {more : List (List Text)}
    (h : rowsFrom .closed rest = ([] :: fields) :: more) :
    rowsFrom .quoted (field.flatMap double ++ '"' :: rest) = (field :: fields) :: more := by
  induction field with
  | nil =>
    rw [List.flatMap_nil, List.nil_append, rowsFrom, if_pos rfl]
    exact h
  | cons c field ih =>
    rw [List.flatMap_cons, List.append_assoc, rowsFrom_quoted_double, ih, addChar]

/-- A row begins with the mark of its first field. -/
theorem exists_quotedRow_eq_cons {row : List Text} (h : row ≠ []) :
    ∃ t, quotedRow row = '"' :: t := by
  obtain ⟨field, row, rfl⟩ := List.exists_cons_of_ne_nil h
  cases row with
  | nil => exact ⟨field.flatMap double ++ '"' :: ['\n'], by simp [quotedRow, quotedField]⟩
  | cons next row =>
    exact ⟨field.flatMap double ++ '"' :: ';' :: quotedRow (next :: row),
      by simp [quotedRow, quotedField]⟩

/-- A row is read to its line break. -/
theorem rowsFrom_quotedRow {row : List Text} (h : row ≠ []) (rest : Text) :
    rowsFrom .fieldStart (quotedRow row ++ rest) = row :: rowsFrom .rowStart rest := by
  induction row with
  | nil => exact absurd rfl h
  | cons field row ih =>
    cases row with
    | nil =>
      have hclosed : rowsFrom .closed ('\n' :: rest) = [[]] :: rowsFrom .rowStart rest :=
        rowsFrom_closed_lineFeed rest
      simpa [quotedRow, quotedField] using rowsFrom_quoted_append hclosed
    | cons next row =>
      have ih := ih (List.cons_ne_nil next row)
      have hclosed : rowsFrom .closed (';' :: (quotedRow (next :: row) ++ rest)) =
          ([] :: next :: row) :: rowsFrom .rowStart rest := by
        rw [rowsFrom_closed_separator, ih, addField]
      simpa [quotedRow, quotedField] using rowsFrom_quoted_append hclosed

variable {grid : List (List Text)}

/-- Rows in quotation marks are read as they were. -/
theorem rows_quotedRows (h : ∀ row ∈ grid, row ≠ []) : rows (quotedRows grid) = grid := by
  rw [rows]
  induction grid with
  | nil => rfl
  | cons row grid ih =>
    obtain ⟨hrow, hgrid⟩ := List.forall_mem_cons.mp h
    have hread := rowsFrom_quotedRow hrow (quotedRows grid)
    obtain ⟨t, ht⟩ := exists_quotedRow_eq_cons hrow
    rw [quotedRows, List.flatMap_cons, ← quotedRows]
    -- The first mark of a row ends the place between rows as it begins a field.
    rw [ht, List.cons_append, rowsFrom_fieldStart_mark] at hread
    rw [ht, List.cons_append, rowsFrom_rowStart_mark, hread, ih hgrid]

/-- Rows in quotation marks do not begin with a byte order mark, whatever their fields begin
with. -/
theorem dropMark_quotedRows (h : ∀ row ∈ grid, row ≠ []) :
    Text.dropMark (quotedRows grid) = quotedRows grid := by
  cases grid with
  | nil => rfl
  | cons row grid =>
    obtain ⟨t, ht⟩ := exists_quotedRow_eq_cons (List.forall_mem_cons.mp h).1
    rw [quotedRows, List.flatMap_cons, ht]
    rfl

/-- The bytes of rows in quotation marks are read as those rows. -/
theorem rows?_quotedRows (h : ∀ row ∈ grid, row ≠ []) :
    rows? (Text.bytes (quotedRows grid)) = some grid := by
  simp only [rows?, Text.ofBytes?_bytes, dropMark_quotedRows h, rows_quotedRows h]

end Separated

/-! ## Workbooks -/

namespace WorkbookReader

/-- What a reader makes of the cells that hold a text, `string`, and of the places without a cell,
`missing`: a text is shown as it is, and its cell is there even if the text is empty. -/
structure StringCells (reader : WorkbookReader) (string : Text → reader.Cell)
    (missing : reader.Cell) : Prop where
  /-- A cell that holds a text is not empty. -/
  isEmpty_string (t : Text) : reader.isEmpty (string t) = false
  /-- A cell that holds a text shows it. -/
  shown_string (t : Text) : reader.shown (string t) = t
  /-- Nothing stands where a cell is missing. -/
  isEmpty_missing : reader.isEmpty missing = true

/-- The row of a sheet that begins with a row of texts and holds nothing else. -/
def filledUp {Cell : Type} (string : Text → Cell) (missing : Cell) (width : Nat)
    (row : List Text) : List Cell :=
  row.map string ++ List.replicate (width - row.length) missing

/-- Bytes are opened as a workbook whose first sheet holds a grid of texts from the top left corner
on; where a row is shorter than the sheet, its last cells are missing. -/
def HoldsGrid (reader : WorkbookReader) (string : Text → reader.Cell) (missing : reader.Cell)
    (data : ByteArray) (grid : List (List Text)) : Prop :=
  ∃ book range, reader.openBook? data = some book ∧ reader.range? book 0 = some (some range) ∧
    range.rows = grid.map (filledUp string missing range.width)

variable {reader : WorkbookReader} {string : Text → reader.Cell} {missing : reader.Cell}
variable {range : CellRange reader.Cell} {grid : List (List Text)} {data : ByteArray}

/-- The cells that a row is filled up with are cut off again. -/
theorem rowText_filledUp (h : reader.StringCells string missing) (width : Nat) (row : List Text) :
    reader.rowText (filledUp string missing width row) = row := by
  have hfill : ∀ cell ∈ (List.replicate (width - row.length) missing).reverse,
      reader.isEmpty cell = true := by
    intro cell hcell
    rw [List.eq_of_mem_replicate (List.mem_reverse.mp hcell)]
    exact h.isEmpty_missing
  have hlast (hne : row.map string ≠ []) : ¬reader.isEmpty ((row.map string).getLast hne) := by
    obtain ⟨t, _, ht⟩ := List.mem_map.mp (List.getLast_mem hne)
    rw [← ht, h.isEmpty_string]
    exact Bool.false_ne_true
  have hcut : ((filledUp string missing width row).reverse.dropWhile reader.isEmpty).reverse =
      row.map string := by
    rw [filledUp, List.reverse_append, List.dropWhile_append_of_pos hfill]
    exact List.rdropWhile_eq_self_iff.mpr hlast
  have hshown : reader.shown ∘ string = id := funext h.shown_string
  rw [rowText, hcut, List.map_map, hshown, List.map_id]

/-- A sheet is read as the grid that it holds. -/
theorem texts_eq_grid (h : reader.StringCells string missing)
    (hrows : range.rows = grid.map (filledUp string missing range.width)) :
    reader.texts range = grid := by
  have hrow : reader.rowText ∘ filledUp string missing range.width = id :=
    funext (rowText_filledUp h range.width)
  rw [texts, hrows, List.map_map, hrow, List.map_id]

end WorkbookReader

/-! ## Documents -/

/-- A grid in quotation marks and a workbook that holds it are the same document: the records of the
grid, or neither has the key column. -/
theorem document_quotedRows {reader : WorkbookReader} {string : Text → reader.Cell}
    {missing : reader.Cell} (hcells : reader.StringCells string missing)
    {grid : List (List Text)} (hgrid : ∀ row ∈ grid, row ≠ []) {data : ByteArray}
    (hdata : reader.HoldsGrid string missing data grid) (keyColumn : Text) :
    Source.document reader (Text.bytes (Separated.quotedRows grid)) .csv keyColumn =
        Source.document reader data .xlsx keyColumn ∧
      Source.document reader data .xlsx keyColumn =
        match (Sheet.ofRows grid).records? keyColumn with
        | some records => .ok (.list (records.map .map))
        | none => .error (.noKeyColumn keyColumn) := by
  have hcsv : Source.document reader (Text.bytes (Separated.quotedRows grid)) .csv keyColumn =
      Source.ofSheet (Sheet.ofRows grid) keyColumn := by
    simp only [Source.document, Source.ofCsv, Separated.rows?_quotedRows hgrid]
  obtain ⟨book, range, hopen, hrange, hrows⟩ := hdata
  have hworkbook : Source.document reader data .xlsx keyColumn =
      Source.ofSheet (Sheet.ofRows grid) keyColumn := by
    simp only [Source.document, Source.ofWorkbook, hopen, hrange,
      WorkbookReader.texts_eq_grid hcells hrows]
  exact ⟨hcsv.trans hworkbook.symm, hworkbook⟩

/-- Rows of three lengths, whose cells hold semicolons, quotation marks, a line break, a byte order
mark, or nothing. -/
def raggedGrid : List (List Text) :=
  [["\uFEFFa;b".toList, "key".toList],
    ["\"1\"".toList, "x\ny".toList, "beyond".toList],
    [[]]]

/-- The sheet that the ragged grid is in, with two rows filled up. -/
def raggedRange : CellRange (Option Text) where
  width := 3
  rows := [[some "\uFEFFa;b".toList, some "key".toList, none],
    [some "\"1\"".toList, some "x\ny".toList, some "beyond".toList],
    [some [], none, none]]
  length_of_mem := by decide

/-- A workbook whose only sheet holds the ragged grid, as an archive that is not compressed; every
character stands for one byte. -/
def raggedWorkbook : ByteArray :=
  let archive :=
    "PK\x03\x04\x14\x00\x00\x00\x00\x00\x00\x00!\x00\xd4\xc4\xadYW\x00\x00\x00W\x00\x00\x00" ++
    "\x1a\x00\x00\x00xl/_rels/workbook.xml.rels" ++
    "<Relationships><Relationship Id=\"rId1\" Target=\"worksheets/sheet1.xml\"/>" ++
    "</Relationships>" ++
    "PK\x03\x04\x14\x00\x00\x00\x00\x00\x00\x00!\x00\x03\xccG6T\x00\x00\x00T\x00\x00\x00\x0f" ++
    "\x00\x00\x00xl/workbook.xml" ++
    "<workbook><sheets><sheet name=\"Sheet1\" sheetId=\"1\" r:id=\"rId1\"/></sheets>" ++
    "</workbook>" ++
    "PK\x03\x04\x14\x00\x00\x00\x00\x00\x00\x00!\x00t\x0c\x81J\x87\x01\x00\x00\x87\x01\x00" ++
    "\x00\x18\x00\x00\x00xl/worksheets/sheet1.xml" ++
    "<worksheet><sheetData>" ++
    "<row r=\"1\"><c r=\"A1\" t=\"inlineStr\"><is><t>&#xFEFF;a;b</t></is></c>" ++
    "<c r=\"B1\" t=\"inlineStr\"><is><t>key</t></is></c></row>" ++
    "<row r=\"2\"><c r=\"A2\" t=\"inlineStr\"><is><t>\"1\"</t></is></c>" ++
    "<c r=\"B2\" t=\"inlineStr\"><is><t>x&#10;y</t></is></c><c r=\"C2\" t=\"inlineStr\"><is>" ++
    "<t>beyond</t></is></c></row>" ++
    "<row r=\"3\"><c r=\"A3\" t=\"inlineStr\"><is><t></t></is></c></row>" ++
    "</sheetData></worksheet>" ++
    "PK\x01\x02\x14\x00\x14\x00\x00\x00\x00\x00\x00\x00!\x00\xd4\xc4\xadYW\x00\x00\x00W\x00" ++
    "\x00\x00\x1a\x00\x00\x00\x00\x00\x00\x00\x00\x00\x00\x00\x80\x01\x00\x00\x00\x00" ++
    "xl/_rels/workbook.xml.rels" ++
    "PK\x01\x02\x14\x00\x14\x00\x00\x00\x00\x00\x00\x00!\x00\x03\xccG6T\x00\x00\x00T\x00\x00" ++
    "\x00\x0f\x00\x00\x00\x00\x00\x00\x00\x00\x00\x00\x00\x80\x01\x8f\x00\x00\x00" ++
    "xl/workbook.xml" ++
    "PK\x01\x02\x14\x00\x14\x00\x00\x00\x00\x00\x00\x00!\x00t\x0c\x81J\x87\x01\x00\x00\x87" ++
    "\x01\x00\x00\x18\x00\x00\x00\x00\x00\x00\x00\x00\x00\x00\x00\x80\x01\x10\x01\x00\x00" ++
    "xl/worksheets/sheet1.xml" ++
    "PK\x05\x06\x00\x00\x00\x00\x03\x00\x03\x00\xcb\x00\x00\x00\xcd\x02\x00\x00\x00\x00"
  ⟨(archive.toList.map fun c => c.toNat.toUInt8).toArray⟩

/-- A reader that knows one workbook, whose only sheet is given. -/
def soleReader (data : ByteArray) (range : CellRange (Option Text)) : WorkbookReader where
  Book := CellRange (Option Text)
  Cell := Option Text
  isEmpty := Option.isNone
  shown cell := cell.getD []
  openBook? other := if other.data = data.data then some range else none
  range? book number := if number = 0 then some (some book) else none

/-- The reader of one workbook tells texts from missing cells. -/
theorem stringCells_soleReader (data : ByteArray) (range : CellRange (Option Text)) :
    (soleReader data range).StringCells some none :=
  ⟨fun _ => rfl, fun _ => rfl, rfl⟩

/-- The reader of one workbook opens it as the grid that its sheet holds. -/
theorem holdsGrid_soleReader {data : ByteArray} {range : CellRange (Option Text)}
    {grid : List (List Text)}
    (h : range.rows = grid.map (WorkbookReader.filledUp some none range.width)) :
    (soleReader data range).HoldsGrid some none data grid :=
  ⟨range, range, if_pos rfl, rfl, h⟩

/-- The ragged grid is read alike from both files, and the key column is looked for in both. -/
theorem document_quotedRows_raggedGrid :
    let reader := soleReader raggedWorkbook raggedRange
    let separated := Text.bytes (Separated.quotedRows raggedGrid)
    let document := Value.list [.map [("x\ny".toList, .string "\"1\"".toList)]]
    reader.StringCells some none ∧ (∀ row ∈ raggedGrid, row ≠ []) ∧
      reader.HoldsGrid some none raggedWorkbook raggedGrid ∧
      Source.document reader separated .csv "key".toList = .ok document ∧
      Source.document reader raggedWorkbook .xlsx "key".toList = .ok document ∧
      Source.document reader separated .csv "a;b".toList = .error (.noKeyColumn "a;b".toList) := by
  intro reader separated document
  have hcells : reader.StringCells some none := stringCells_soleReader raggedWorkbook raggedRange
  have hgrid : ∀ row ∈ raggedGrid, row ≠ [] := by decide
  have hdata : reader.HoldsGrid some none raggedWorkbook raggedGrid :=
    holdsGrid_soleReader (by rfl)
  obtain ⟨hsame, hworkbook⟩ := document_quotedRows hcells hgrid hdata "key".toList
  have hdocument : Source.document reader raggedWorkbook .xlsx "key".toList = .ok document :=
    hworkbook.trans (by rfl)
  obtain ⟨hsame', hworkbook'⟩ := document_quotedRows hcells hgrid hdata "a;b".toList
  exact ⟨hcells, hgrid, hdata, hsame.trans hdocument, hdocument,
    hsame'.trans (hworkbook'.trans (by rfl))⟩

end Stencil
