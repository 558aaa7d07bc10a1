import Stencil.Text

/-!
# Alignment

Moving a text to a column. The first line that is not blank decides: when it is indented further than
the column, that much indentation is taken from every line that has it, never any text; when it is
indented less, a policy decides between leaving the text, padding its lines, and giving up. Blank
lines always stay as they are.
-/

namespace Stencil

/-- What to do with a text that is indented less than its column. -/
inductive Shortfall
  /-- Leave it as it is. -/
  | preserve
  /-- Put spaces before its lines. -/
  | pad
  /-- Give up. -/
  | fail
  deriving DecidableEq, Repr

namespace Alignment

/-- Indentation is white space that does not break a line. -/
def isIndent (c : Char) : Bool := Text.isSpace c && c != '\n' && c != '\r'

/-- The number of indentation characters at the beginning of a text. -/
def indentation (t : Text) : Nat := (t.takeWhile isIndent).length

/-- The indentation of the first line that is not blank. -/
def contentIndentation? (t : Text) : Option Nat :=
  ((Text.lines t).find? fun line => !Text.isBlank line).map indentation

/-- Take indentation off a line, at most `count` characters of it. -/
def strip : Nat → Text → Text
  | 0, line => line
  | _, [] => []
  | count + 1, c :: rest => if isIndent c then strip count rest else c :: rest

/-- Put spaces before a line. -/
def padLine (count : Nat) (line : Text) : Text := List.replicate count ' ' ++ line

/-- Change the lines that are not blank. -/
def mapLines (f : Text → Text) (t : Text) : Text :=
  Text.unlines ((Text.lines t).map fun line => if Text.isBlank line then line else f line)

end Alignment

open Stencil.Alignment

/-- Move a text to a column. The error is the text's own indentation. -/
def align (t : Text) (column : Nat) (policy : Shortfall) : Except Nat Text :=
  match contentIndentation? t with
  | none => .ok t
  | some own =>
    if column < own then .ok (mapLines (strip (own - column)) t)
    else if own < column then
      match policy with
      | .preserve => .ok t
      | .pad => .ok (mapLines (padLine (column - own)) t)
      | .fail => .error own
    else .ok t

end Stencil
