import Mathlib.Data.List.DropRight
import Stencil.Expansion
import Stencil.Proofs.Text.Cut
import Stencil.Substitution

/-!
# Scopes

What a template says when its names are resolved by scope. Inside an iteration a name stands for the
entry of the element under that key, or under the key that follows the name of the loop; every other
name stands for what it stands for outside. Tokens are resolved where they stand, before anything is
written out, so iterations need no names of their own.
-/

namespace Stencil

/-- What names stand for. -/
abbrev Scope := Text → Option Value

/-- A character, or a token together with what its name stands for. -/
inductive Piece
  /-- A character of the template. -/
  | char (c : Char)
  /-- A token. -/
  | token (name : Text) (value : Option Value)

namespace Piece

/-- The pieces of a text after the next `skip` characters. -/
def readFrom (pair : Pair) (scope : Scope) : (skip : Nat) → Text → List Piece
  | _, [] => []
  | skip + 1, _ :: rest => readFrom pair scope skip rest
  | 0, c :: rest =>
    match pair.enclosed? (c :: rest) with
    | none => char c :: readFrom pair scope 0 rest
    | some (name, _) =>
      token name (scope name) :: readFrom pair scope ((pair.wrap name).length - 1) rest

/-- The pieces of a text, each token resolved in a scope. -/
def read (pair : Pair) (scope : Scope) (t : Text) : List Piece := readFrom pair scope 0 t

/-- White space of the template; tokens never are. -/
def isSpace : Piece → Bool
  | char c => Text.isSpace c
  | token _ _ => false

/-- Drop white space from the end. -/
def trimEnd (ps : List Piece) : List Piece := ps.rdropWhile isSpace

/-- What is written for a piece: a token whose name stands for nothing is left as it is. -/
def written (pair : Pair) : Piece → Text
  | char c => [c]
  | token name none => pair.wrap name
  | token _ (some value) => value.display

/-- The name of a token that stands for nothing. -/
def missing? : Piece → Option Text
  | token name none => some name
  | _ => none

/-- Write out pieces; in strict mode every name has to stand for something. -/
def writeAll (pair : Pair) (strict : Bool) (ps : List Piece) : Except RenderError Text :=
  match if strict then ps.findSome? missing? else none with
  | some name => .error (.missingVariable name)
  | none => .ok (ps.flatMap (written pair))

end Piece

namespace Loop

/-- What names stand for in an iteration. -/
def scope (l : Loop) (element : Variables) (outside : Scope) : Scope := fun name =>
  (Dictionary.find? name element).or <|
    ((Text.stripPrefix? (l.name ++ ['_']) name).bind (Dictionary.find? · element)).or
      (outside name)

/-- One iteration: the block moved to the column of the tag, without white space at its end, and
resolved in the scope of the iteration. -/
def scopedIteration (l : Loop) (pair : Pair) (policy : Shortfall) (outside : Scope)
    (element : Variables) : Except RenderError (List Piece) :=
  match align l.block l.offset policy with
  | .ok t => .ok (Piece.read pair (l.scope element outside) t.trimEnd)
  | .error indent => .error (.underIndented l.name l.offset indent)

/-- The pieces of all iterations and what stands between them. -/
def scopedIterations (l : Loop) (lineBreak : Text) (pair : Pair) (policy : Shortfall)
    (outside : Scope) : Except RenderError (List Piece) := do
  let iterations ← l.elements.mapM (l.scopedIteration pair policy outside)
  .ok (Piece.trimEnd (List.intercalate ((joint l.joiner lineBreak).map Piece.char) iterations))

end Loop

/-- The pieces of a template from a position on. -/
def scopedFrom (template : Text) (pair : Pair) (policy : Shortfall) (outside : Scope) :
    Nat → List Loop → Except RenderError (List Piece)
  | position, [] => .ok (Piece.read pair outside (template.drop position))
  | position, l :: rest => do
    let lineBreak := lineBreakOf (template.between l.start l.stop)
    let iterations ← l.scopedIterations lineBreak pair policy outside
    let more ← scopedFrom template pair policy outside l.stop rest
    .ok (Piece.read pair outside (template.between position l.start) ++ iterations ++ more)

/-- What names stand for outside the loops: the variables that are not maps. -/
def topScope (vars : Variables) : Scope := fun name =>
  Dictionary.find? name (vars.filter fun entry => !entry.2.isMap)

/-- What names stand for outside the loops when the names that iterations are given count too. -/
def indexedScope (vars : Variables) (loops : List Loop) : Scope := fun name =>
  (topScope vars name).or (Dictionary.find? name (loops.flatMap Loop.bindings))

end Stencil
