import Stencil.Grammar
import Stencil.Pattern.Match

/-!
# Variable tokens

The variable tokens that a text holds, in order and without overlap.
-/

namespace Stencil

/-- A variable token found in a text. -/
structure Token where
  /-- The position of its first character. -/
  start : Nat
  /-- The position just after its last character. -/
  stop : Nat
  /-- The text between its delimiters. -/
  body : Text
  deriving DecidableEq, Repr

namespace Token

/-- The name under which the body of a variable token is captured. -/
def nameGroup : Text := "name".toList

/-- All tokens of a text, from left to right without overlap. -/
def all (pair : Pair) (t : Text) : List Token :=
  ((Grammar.inline pair nameGroup).occurrences t).map fun m =>
    ⟨m.start, m.stop, m.group nameGroup⟩

/-- The first token of a text. -/
def first? (pair : Pair) (t : Text) : Option Token := (all pair t).head?

end Token

end Stencil
