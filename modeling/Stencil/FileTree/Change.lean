import Stencil.FileTree

/-!
# Changing a file tree

Steps that change a tree one after another. A step that fails leaves the changes made before it.
-/

namespace Stencil

/-- A step that changes a tree and may fail. -/
abbrev Change (ε α : Type) := EStateM ε FileTree α

namespace Change

/-- A step with a single change: all of it is made, or none. -/
def ofTry {ε : Type} (f : FileTree → Except ε FileTree) : Change ε Unit := fun t =>
  match f t with
  | .ok t => .ok () t
  | .error e => .error e t

/-- A question to the tree. -/
def ask {ε α : Type} (f : FileTree → Except ε α) : Change ε α := fun t =>
  match f t with
  | .ok x => .ok x t
  | .error e => .error e t

/-- Make a folder; one that is there already will do. -/
def ensureFolder (path : Text) : Change FileError Unit := fun t =>
  match t.makeFolder (t.route path) with
  | .ok t => .ok () t
  | .error e => if t.isFolder (t.route path) then .ok () t else .error e t

/-- Make a folder; where the one that it lies in is missing, take a step first that makes that one. -/
def ensureBelow (path : Text) (above : Change FileError Unit) : Change FileError Unit := fun t =>
  match ensureFolder path t with
  | .error .missing t =>
    match above t with
    | .ok _ t => ensureFolder path t
    | .error e t => .error e t
  | result => result

/-- Make the folder that the parts of a path lead to, given from the last part backwards, and before it
those that it lies in where they are missing. -/
def makeFoldersBack : List FilePath.Part → Change FileError Unit
  | [] => pure ()
  | part :: before =>
    ensureBelow (FilePath.ofParts (part :: before).reverse) (makeFoldersBack before)

/-- Make the folder that a path leads to, with the folders it lies in. Nothing is made for the empty
path. -/
def makeFolders (path : Text) : Change FileError Unit :=
  if path = [] then pure ()
  else ensureBelow path (makeFoldersBack (FilePath.parts path).reverse.tail)

/-- Write a file, with the folders it lies in. -/
def writeFile (path content : Text) : Change FileError Unit := do
  makeFolders ((FilePath.parent? path).getD [])
  ofTry fun t => t.write (t.route path) (Text.bytes content)

end Change

end Stencil
