import Stencil.Dictionary
import Stencil.FilePath
import Stencil.FileTree.Error
import Stencil.Text.Bytes

/-!
# File trees

Folders and files, each at the location that the names on the way from the root give it. A path is
followed name by name: a dot stays, two dots go up, and every step needs a folder to start from. What
is written at a location is read there, and no other one changes.
-/

namespace Stencil

/-- The names on the way from the root. -/
abbrev Location := List Text

/-- What is at a location. -/
inductive Node
  | folder
  | file (data : ByteArray)

instance : DecidableEq Node
  | .folder, .folder => isTrue rfl
  | .file a, .file b =>
    match ByteArray.instDecidableEq a b with
    | isTrue h => isTrue (congrArg Node.file h)
    | isFalse h => isFalse fun e => h (Node.file.inj e)
  | .folder, .file _ => isFalse nofun
  | .file _, .folder => isFalse nofun

/-- A tree of folders and files. -/
structure FileTree where
  /-- What is at each location but the root, in the order of their locations. -/
  nodes : List (Location × Node) := []
  /-- The folder that relative paths start from. -/
  here : Location := []

/-- A way through a tree: the texts between the slashes of a path, and where they start. -/
structure Route where
  /-- The location that the way starts from. -/
  start : Location
  /-- The texts between slashes. -/
  pieces : List Text

namespace Location

/-- The path of a location from the root. -/
def path (p : Location) : Text := '/' :: List.intercalate ['/'] p

/-- The way to a location from the root. -/
def route (p : Location) : Route := ⟨[], p⟩

end Location

namespace FileTree

/-- What is at a location, if anything is. The root is a folder. -/
def at? (t : FileTree) (p : Location) : Option Node :=
  if p = [] then some .folder else Dictionary.find? p t.nodes

/-- Whether a folder is at a location. -/
def hasFolder (t : FileTree) (p : Location) : Bool :=
  match t.at? p with
  | some .folder => true
  | _ => false

/-- Whether a file is at a location. -/
def hasFile (t : FileTree) (p : Location) : Bool :=
  match t.at? p with
  | some (.file _) => true
  | _ => false

/-- A tree with something put at a location. -/
def put (t : FileTree) (p : Location) (node : Node) : FileTree :=
  { t with nodes := Dictionary.insert p node t.nodes }

/-- What was put at a location is there. -/
theorem at?_put_self (t : FileTree) {p : Location} (node : Node) (h : p ≠ []) :
    (t.put p node).at? p = some node := by
  simp [at?, put, h, Dictionary.find?_insert_self]

/-- The other locations stay as they were. -/
theorem at?_put_of_ne (t : FileTree) {p q : Location} (node : Node) (h : q ≠ p) :
    (t.put p node).at? q = t.at? q := by
  simp [at?, put, Dictionary.find?_insert_of_ne _ _ h]

/-- The greatest number of bytes in a name. -/
def maxName : Nat := 255

/-- The location one piece further on. -/
def step (t : FileTree) (p : Location) (piece : Text) : Except FileError Location :=
  match t.at? p with
  | none => .error .missing
  | some (.file _) => .error .notFolder
  | some .folder =>
    if piece = [] ∨ piece = ['.'] then .ok p
    else if piece = ['.', '.'] then .ok p.dropLast
    else if maxName < Text.byteLength piece then .error .nameTooLong
    else if (t.at? (p ++ [piece])).isNone then .error .missing
    else .ok (p ++ [piece])

/-- The location that pieces lead to from a location. -/
def walk (t : FileTree) : Location → List Text → Except FileError Location
  | p, [] => .ok p
  | p, piece :: rest =>
    match t.step p piece with
    | .ok next => walk t next rest
    | .error e => .error e

/-- The way that a path describes. -/
def route (t : FileTree) (path : Text) : Route :=
  ⟨if FilePath.isAbsolute path then [] else t.here, Text.split '/' path⟩

/-- Why no system would follow a way: it holds the character zero, or it is that of the empty path. -/
def refusal? (r : Route) : Option FileError :=
  if r.pieces.any fun piece => List.contains piece '\x00' then some .zeroInName
  else if r.pieces = [[]] then some .missing
  else none

/-- The location that a way leads to. -/
def locate (t : FileTree) (r : Route) : Except FileError Location :=
  match refusal? r with
  | some e => .error e
  | none => t.walk r.start r.pieces

/-- Whether a way leads to a folder. -/
def isFolder (t : FileTree) (r : Route) : Bool :=
  match t.locate r with
  | .ok p => t.hasFolder p
  | .error _ => false

/-- Whether a way leads to a file. -/
def isFile (t : FileTree) (r : Route) : Bool :=
  match t.locate r with
  | .ok p => t.hasFile p
  | .error _ => false

/-- What the file holds that a way leads to. -/
def read (t : FileTree) (r : Route) : Except FileError ByteArray :=
  match t.locate r with
  | .error e => .error e
  | .ok p =>
    match t.at? p with
    | some (.file data) => .ok data
    | some .folder => .error .isFolder
    | none => .error .missing

/-- The text of the file that a way leads to. -/
def readText (t : FileTree) (r : Route) : Except FileError Text :=
  match t.read r with
  | .error e => .error e
  | .ok data =>
    match Text.ofBytes? data with
    | some text => .ok text
    | none => .error .notText

/-- The pieces of a way before its last one, the last one, and whether slashes follow it. -/
def lastPiece? (pieces : List Text) : Option (List Text × Text × Bool) :=
  let back := pieces.reverse
  match back.dropWhile List.isEmpty with
  | [] => none
  | piece :: before => some (before.reverse, piece, back.head? = some [])

/-- The location of a new name at the end of a way. -/
def vacancy (t : FileTree) (p : Location) (name : Text) : Except FileError Location :=
  match t.at? p with
  | none => .error .missing
  | some (.file _) => .error .notFolder
  | some .folder => if maxName < Text.byteLength name then .error .nameTooLong else .ok (p ++ [name])

/-- The location where a file can be written at the end of a way: its folder is there, and it is no folder
itself. -/
def target (t : FileTree) (r : Route) : Except FileError Location :=
  match refusal? r, lastPiece? r.pieces with
  | some e, _ => .error e
  | none, none => .error .isFolder
  | none, some (before, piece, slash) =>
    match t.walk r.start before with
    | .error e => .error e
    | .ok p =>
      if piece = ['.'] ∨ piece = ['.', '.'] then
        match t.step p piece with
        | .error e => .error e
        | .ok _ => .error .isFolder
      else
        match t.vacancy p piece with
        | .error .nameTooLong => .error (if slash then .isFolder else .nameTooLong)
        | .error e => .error e
        | .ok q => if slash ∨ t.hasFolder q then .error .isFolder else .ok q

/-- A tree with a file written at the end of a way. -/
def write (t : FileTree) (r : Route) (data : ByteArray) : Except FileError FileTree :=
  match t.target r with
  | .ok p => .ok (t.put p (.file data))
  | .error e => .error e

/-- A tree with a new folder at the end of a way. -/
def makeFolder (t : FileTree) (r : Route) : Except FileError FileTree :=
  match refusal? r, lastPiece? r.pieces with
  | some e, _ => .error e
  | none, none => .error .occupied
  | none, some (before, piece, _) =>
    match t.walk r.start before with
    | .error e => .error e
    | .ok p =>
      if piece = ['.'] ∨ piece = ['.', '.'] then
        match t.step p piece with
        | .error e => .error e
        | .ok _ => .error .occupied
      else
        match t.vacancy p piece with
        | .error e => .error e
        | .ok q => if (t.at? q).isSome then .error .occupied else .ok (t.put q .folder)

/-- The files below a location, each by the names that lead to it from there, in the order of names with
the files of a folder at its place. -/
def filesBelow (t : FileTree) (p : Location) : List (Location × ByteArray) :=
  t.nodes.filterMap fun (q, node) =>
    match p.isPrefixOf? q, node with
    | some (name :: names), .file data => some (name :: names, data)
    | _, _ => none

end FileTree

end Stencil
