import Stencil.Program

/-!
# Running the program

The outer layer. What the program looks at on disk is read into a file tree, the program runs on it, and
the changes that it makes to the tree are made on disk. Workbooks are read by the reader it is run with.
-/

open Stencil

/-- The variables of the environment that the program looks at. -/
def environmentNames : List String :=
  ["WEFT_LEFT_DELIMITER", "WEFT_RIGHT_DELIMITER", "WEFT_LEFT_LOOP_VARIABLE_DELIMITER",
    "WEFT_RIGHT_LOOP_VARIABLE_DELIMITER", "WEFT_LEFT_LOOP_BLOCK_DELIMITER",
    "WEFT_RIGHT_LOOP_BLOCK_DELIMITER", "WEFT_TEMPLATE_DIR"]

/-- What is set in the environment. -/
def readEnvironment : IO CommandLine.Environment := do
  let found ← environmentNames.mapM fun name => do
    return (← IO.getEnv name).map fun value => (name.toList, value.toList)
  return found.reduceOption

/-- The names in a folder on disk, if there is one. -/
def folderNames? (p : Location) : IO (Option (List Text)) := do
  try
    let entries ← (System.mkFilePath [String.ofList p.path]).readDir
    return some (entries.toList.map fun e => e.fileName.toList)
  catch _ => return none

/-- The bytes of a file on disk, if there is one. -/
def fileBytes? (p : Location) : IO (Option ByteArray) := do
  try return some (← IO.FS.readBinFile (String.ofList p.path))
  catch _ => return none

/-- Read into a tree what is on disk at a location. -/
def look (t : FileTree) (p : Location) : IO FileTree := do
  if p.isEmpty ∨ (t.at? p).isSome then return t
  else if (← folderNames? p).isSome then return t.put p .folder
  else
    match ← fileBytes? p with
    | some data => return t.put p (.file data)
    | none => return t

/-- Read into a tree what is on disk on the way that pieces describe. -/
def lookAlong : FileTree → Location → List Text → IO FileTree
  | t, _, [] => return t
  | t, p, piece :: rest => do
    let t ← if piece.isEmpty then pure t else look t (p ++ [piece])
    match t.step p piece with
    | .ok next => lookAlong t next rest
    | .error _ => return t

/-- Read into a tree what a path leads through. -/
def lookAt (t : FileTree) (path : Text) : IO FileTree :=
  lookAlong t (t.route path).start (t.route path).pieces

/-- Read into a tree all that is on disk below a folder. -/
partial def lookBelow (t : FileTree) (p : Location) : IO FileTree := do
  match ← folderNames? p with
  | none => return t
  | some names =>
    names.foldlM (fun t name => do lookBelow (← look t (p ++ [name])) (p ++ [name])) t

/-- Read into a tree all that a rendering looks at. -/
def lookFor (reader : WorkbookReader) (t : FileTree) (input : ByteArray) (c : RenderCommand) :
    IO FileTree := do
  let t ← lookAt (← lookAt t c.data) c.input
  let t ← match c.folder, t.locate (t.route c.input) with
    | true, .ok p => lookBelow t p
    | _, _ => pure t
  match Program.outputs reader t input c with
  | .ok outputs => outputs.foldlM (fun t output => lookAt t output.path) t
  | .error _ => return t

/-- The tree that holds the current folder and nothing else. -/
def currentTree : IO FileTree := do
  let here := (Text.split '/' (← IO.currentDir).toString.toList).filter fun name => !name.isEmpty
  let t ← lookAlong {} [] here
  return { t with here := here }

/-- Make on disk what is new or changed in a tree. -/
def apply (before after : FileTree) : IO Unit := do
  for (p, node) in after.nodes do
    unless before.at? p = some node do
      match node with
      | .folder => IO.FS.createDirAll (String.ofList p.path)
      | .file data => IO.FS.writeBinFile (String.ofList p.path) data

/-- Render or serve as the command line says. -/
def runWith (reader : WorkbookReader) (args : List String) : IO UInt32 := do
  let args := args.map String.toList
  let environment ← readEnvironment
  let here ← currentTree
  let (t, input) ← match CommandLine.read environment args with
    | .ok (.render c) =>
      let input ← if Program.isDash c.input then (← IO.getStdin).readBinToEnd else pure .empty
      pure (← lookFor reader here input c, input)
    | .ok (.serve c) => pure (← lookAt here c.folder, ByteArray.empty)
    | .error _ => pure (here, ByteArray.empty)
  let (outcome, after) := Program.run reader t environment input args
  apply t after
  IO.print (String.ofList outcome.shown)
  match outcome.complaint with
  | some complaint => IO.eprintln (String.ofList complaint)
  | none => pure ()
  return outcome.status.toUInt32
