import Stencil.Text.Bytes

/-!
# Separated values

Rows of fields with semicolons between them. A row ends at a line break of any kind, and lines without
a character are no rows. A field that begins with a quotation mark runs to the next single one, where
two in a row stand for one; what follows the closing mark is taken as it is, and so is a quotation
mark anywhere else.
-/

namespace Stencil

namespace Separated

/-- Where a reader stands. -/
inductive Place
  /-- Between rows. -/
  | rowStart
  /-- At the first character of a field. -/
  | fieldStart
  /-- Inside a field. -/
  | plain
  /-- Inside quotation marks. -/
  | quoted
  /-- After a quotation mark inside quotation marks. -/
  | closed
  deriving DecidableEq, Repr

/-- Put a character in front of the first field of the first row. -/
def addChar (c : Char) : List (List Text) → List (List Text)
  | (field :: fields) :: rows => ((c :: field) :: fields) :: rows
  | rows => rows

/-- Put an empty field in front of the first row. -/
def addField : List (List Text) → List (List Text)
  | fields :: rows => ([] :: fields) :: rows
  | [] => []

/-- Put a row with an empty field in front of the rows. -/
def addRow (rows : List (List Text)) : List (List Text) := [[]] :: rows

/-- The rows a text holds from a place on. Inside a field, the first field of the first row is the rest
of that field. -/
def rowsFrom : Place → Text → List (List Text)
  | .rowStart, [] => []
  | _, [] => [[[]]]
  | .quoted, c :: rest =>
    if c = '"' then rowsFrom .closed rest else addChar c (rowsFrom .quoted rest)
  | place, c :: rest =>
    if c = '"' ∧ place = .closed then addChar c (rowsFrom .quoted rest)
    else if c = '"' ∧ place ≠ .plain then rowsFrom .quoted rest
    else if c = ';' then addField (rowsFrom .fieldStart rest)
    else if c = '\n' ∨ c = '\r' then
      if place = .rowStart then rowsFrom .rowStart rest else addRow (rowsFrom .rowStart rest)
    else addChar c (rowsFrom .plain rest)

/-- The rows of a text. -/
def rows (t : Text) : List (List Text) := rowsFrom .rowStart t

/-- Bytes as characters of the same numbers. -/
def ofBytes (data : ByteArray) : Text := data.toList.map fun b => Char.ofNat b.toNat

/-- Characters below 256 as bytes of the same numbers. -/
def toBytes (t : Text) : ByteArray := ⟨(t.map fun c => c.toNat.toUInt8).toArray⟩

/-- Drop a byte order mark whose bytes stand as characters. -/
def dropLooseMark (t : Text) : Text :=
  (Text.stripPrefix? (ofBytes (Text.bytes Text.byteOrderMark)) t).getD t

/-- The rows of a file, without two byte order marks at its beginning. Bytes that are not text as a
whole are cut into fields, and each field is read as text: a character may come together from both
sides of a closing quotation mark. -/
def rows? (data : ByteArray) : Option (List (List Text)) :=
  match Text.ofBytes? data with
  | some t => some (rows (Text.dropMark (Text.dropMark t)))
  | none =>
    (rows (dropLooseMark (dropLooseMark (ofBytes data)))).mapM fun row =>
      row.mapM fun field => Text.ofBytes? (toBytes field)

end Separated

end Stencil
