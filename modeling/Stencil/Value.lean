import Stencil.Dictionary
import Stencil.Number

/-!
# Values

What a name can stand for: a scalar, a list, or a dictionary of values. Only scalars can be loop
variables of an iteration; lists of dictionaries drive loops.
-/

namespace Stencil

/-- A value of a document. -/
inductive Value
  | null
  | bool (b : Bool)
  | number (n : Number)
  | string (s : Text)
  | list (items : List Value)
  | map (entries : List (Text × Value))
  deriving Repr

/-- The variables a template is rendered with. -/
abbrev Variables := Dictionary Value

namespace Value

instance : Inhabited Value := ⟨null⟩

/-- Scalars are all values but lists and maps. -/
def isScalar : Value → Bool
  | list _ | map _ => false
  | _ => true

/-- Whether a value is a map. -/
def isMap : Value → Bool
  | map _ => true
  | _ => false

/-- The items of a list. -/
def asList? : Value → Option (List Value)
  | list items => some items
  | _ => none

/-- The entries of a map. -/
def asMap? : Value → Option Variables
  | map entries => some entries
  | _ => none

/-- A double as a value; infinities and no number become null. -/
def ofFloat (x : Float) : Value :=
  if (Binary.ofFloat? x).isSome then number (.real x) else null

/-- A whole number as a value, where it fits in 64 bits. -/
def ofInt? (n : Int) : Option Value := (Whole.ofInt? n).map fun w => number (.whole w)

end Value

end Stencil
