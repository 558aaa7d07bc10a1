import Stencil.Value

/-!
# Sheets

A sheet is a header row and further rows of cells. One column names variables; each other column of
the header is a record, and a row gives every record the field that its key cell names. Rows without a
key cell, and cells beyond the header, are left out.
-/

namespace Stencil

/-- A sheet of text cells. Rows may be shorter or longer than the header. -/
structure Sheet where
  /-- The first row. -/
  header : List Text
  /-- The rows after it. -/
  rows : List (List Text)
  deriving DecidableEq, Repr

namespace Sheet

/-- The sheet whose rows are given, the header first; without rows the header is empty. -/
def ofRows : List (List Text) → Sheet
  | [] => ⟨[], []⟩
  | header :: rows => ⟨header, rows⟩

/-- Enter what a row says about a column: nothing if its key cell is missing or empty, or the row does
not reach the column. -/
def enter (key column : Nat) (record : Variables) (row : List Text) : Variables :=
  match row[key]?, row[column]? with
  | some name, some cell =>
    if name.isEmpty then record else Dictionary.insert name (.string cell) record
  | _, _ => record

/-- The record of a column. -/
def record (rows : List (List Text)) (key column : Nat) : Variables :=
  rows.foldl (enter key column) []

/-- One record for each column of the header but the key column; none if no column has the name
`keyColumn`. The first column of that name is the key column. -/
def records? (s : Sheet) (keyColumn : Text) : Option (List Variables) :=
  match s.header.idxOf? keyColumn with
  | none => none
  | some key =>
    some (((List.range s.header.length).filter (· ≠ key)).map (record s.rows key))

end Sheet

end Stencil
