import Stencil.Text

/-!
# File paths

A path is a text whose parts stand between slashes. The parts that matter are the root, the names, the
steps up, and one dot at the very beginning: other dots, and slashes in a row, say nothing.
-/

namespace Stencil

namespace FilePath

/-- A part of a path. -/
inductive Part
  /-- The slash at the beginning. -/
  | root
  /-- A dot at the beginning of a path without a root. -/
  | here
  /-- Two dots. -/
  | up
  | name (n : Text)
  deriving DecidableEq, Repr

/-- What a piece after the first says. -/
def part? (piece : Text) : Option Part :=
  if piece = [] ∨ piece = ['.'] then none
  else if piece = ['.', '.'] then some .up
  else some (.name piece)

/-- What the first piece says: the text before the slash of the root, or a part that may be a dot. -/
def firstPart? (path : Text) (piece : Text) : Option Part :=
  if path.head? = some '/' then some .root
  else if piece = ['.'] then some .here
  else part? piece

/-- The parts of a path. -/
def parts (path : Text) : List Part :=
  match Text.split '/' path with
  | [] => []
  | piece :: more => (firstPart? path piece).toList ++ more.filterMap part?

/-- Whether a path begins at the root. -/
def isAbsolute (path : Text) : Bool := path.head? = some '/'

/-- How a part is written. -/
def Part.text : Part → Text
  | .root => []
  | .here => ['.']
  | .up => ['.', '.']
  | .name n => n

/-- Parts with slashes between them. -/
def ofParts : List Part → Text
  | [.root] => ['/']
  | ps => List.intercalate ['/'] (ps.map Part.text)

/-- The name that a path ends in, if it does not end in a step up. -/
def name? (path : Text) : Option Text :=
  match (parts path).getLast? with
  | some (.name n) => some n
  | _ => none

/-- The path without its last part; the root and the empty path have none. -/
def parent? (path : Text) : Option Text :=
  let ps := parts path
  match ps.getLast? with
  | none | some .root => none
  | some _ => some (ofParts ps.dropLast)

/-- What follows the last dot of a name, where something stands before that dot. -/
def extensionOfName? (name : Text) : Option Text :=
  let back := name.reverse
  match back.dropWhile (· ≠ '.') with
  | _ :: _ :: _ => some (back.takeWhile (· ≠ '.')).reverse
  | _ => none

/-- The extension of the name that a path ends in. -/
def extension? (path : Text) : Option Text := (name? path).bind extensionOfName?

/-- One path after another. An absolute path stays as it is; a slash is written between the two where
the first does not end in one. -/
def join (base path : Text) : Text :=
  if isAbsolute path then path
  else if base = [] ∨ base.getLast? = some '/' then base ++ path
  else base ++ '/' :: path

end FilePath

end Stencil
