import Stencil.Json
import Stencil.Render.Error
import Stencil.Token

/-!
# Substitution

Replacing tokens by the text of what they name. The variables are applied one after another in the
order of their names, so a value that looks like the token of a later name is replaced as well. In
strict mode no token may be left.
-/

namespace Stencil

/-- Replace the tokens of a name by a value's text. -/
def substitute (pair : Pair) (t : Text) (entry : Text × Value) : Text :=
  t.replace (pair.wrap entry.1) entry.2.display

/-- Replace the tokens of all variables, in the order given. -/
def substituteAll (pair : Pair) (vars : List (Text × Value)) (t : Text) : Text :=
  vars.foldl (substitute pair) t

/-- Replace the tokens of all variables and, in strict mode, refuse a text that still holds a token. -/
def fillTokens (t : Text) (vars : Variables) (pair : Pair) (strict : Bool) :
    Except RenderError Text :=
  let result := substituteAll pair vars t
  if strict then
    match Token.first? pair result with
    | some token => .error (.missingVariable token.body)
    | none => .ok result
  else .ok result

end Stencil
