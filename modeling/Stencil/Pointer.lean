import Stencil.Value

/-!
# Pointers

A pointer addresses a value inside a document by a path of keys and positions, each after a slash. In
a step, `~1` stands for a slash and `~0` for a tilde.
-/

namespace Stencil

namespace Pointer

/-- A step without its escapes. -/
def unescape (step : Text) : Text := (step.replace ['~', '1'] ['/']).replace ['~', '0'] ['~']

/-- The steps of a pointer; a pointer is empty or begins with a slash. -/
def steps? : Text → Option (List Text)
  | [] => some []
  | '/' :: rest => some ((Text.split '/' rest).map unescape)
  | _ => none

/-- A position in a list: decimal digits without a leading zero. -/
def position? (step : Text) : Option Nat :=
  if step.isEmpty ∨ !step.all Char.isDigit ∨ (step.head? = some '0' ∧ step.length ≠ 1) then none
  else some (step.foldl (fun n c => n * 10 + (c.toNat - '0'.toNat)) 0)

/-- The value one step further in. -/
def step? (v : Value) (step : Text) : Option Value :=
  match v with
  | .map entries => Dictionary.find? step entries
  | .list items => (position? step).bind fun n => items[n]?
  | _ => none

/-- The value a path leads to. -/
def follow? (v : Value) : List Text → Option Value
  | [] => some v
  | step :: rest => (step? v step).bind fun next => follow? next rest

/-- The value a pointer addresses. -/
def find? (v : Value) (pointer : Text) : Option Value := (steps? pointer).bind (follow? v)

end Pointer

end Stencil
