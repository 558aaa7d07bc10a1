import Stencil.Failure
import Stencil.FileTree

/-!
# The folder of named templates

A name stands for a file below one folder. The path it describes is followed to its end, so that no
way of writing a name, with dots or slashes, leads to a file outside that folder. The last name need
not be there yet.
-/

namespace Stencil

/-- The file that a name stands for. -/
structure Named where
  /-- Where it is. -/
  location : Location
  /-- Whether a slash stands after it, so that only a folder can be there. -/
  slash : Bool := false
  deriving DecidableEq, Repr

namespace Named

/-- The path of a named file. -/
def path (n : Named) : Text := if n.slash then FilePath.join n.location.path [] else n.location.path

/-- The way to a named file. -/
def route (n : Named) : Route := ⟨[], if n.slash then n.location ++ [[]] else n.location⟩

/-- The name without the slashes, and then the backslashes, that it begins with. -/
def trimmed (name : Text) : Text := (name.dropWhile (· = '/')).dropWhile (· = '\\')

/-- What a path leads to, or would lead to if its last name were there. -/
def follow (t : FileTree) (path : Text) : Except FileError Named :=
  match t.locate (t.route path) with
  | .ok p => .ok ⟨p, false⟩
  | .error _ =>
    match FilePath.parent? path with
    | none => .error .noName
    | some parent =>
      match t.locate (t.route parent) with
      | .error e => .error e
      | .ok p =>
        match FilePath.name? path with
        | some name => .ok ⟨p ++ [name], false⟩
        | none => .ok ⟨p, true⟩

/-- The file below a folder that a name stands for. -/
def find (t : FileTree) (folder name : Text) : Except Failure Named :=
  match follow t (FilePath.join folder (trimmed name)), t.locate (t.route folder) with
  | .error e, _ => .error (.file e)
  | _, .error e => .error (.file e)
  | .ok found, .ok base =>
    if found.location = base ∨ !base.isPrefixOf found.location then .error (.outside found.path)
    else .ok found

end Named

end Stencil
