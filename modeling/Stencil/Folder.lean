import Stencil.FileTree.Change
import Stencil.Output
import Stencil.Source

/-!
# Folders of templates

Every file below a folder is a template, but for the excluded ones. Its outputs lie below the output
folder as the template lies below its own; where each set has outputs of its own, each set has its own
output folder.
-/

namespace Stencil

namespace FileTree

/-- The text of a template. -/
def template (t : FileTree) (path : Text) : Except Failure Text :=
  if t.isFile (t.route path) then (t.readText (t.route path)).mapError .file
  else .error (.noTemplate path)

/-- The paths of the templates below a folder, from that folder on. A file in place of the folder is a
template with the empty path. -/
def templates (t : FileTree) (root : Text) (exclude : List Glob) : Except Failure (List Text) :=
  match t.locate (t.route root) with
  | .error _ => .error .noFolder
  | .ok p =>
    let paths :=
      if t.hasFolder p then
        (t.filesBelow p).map fun file => List.intercalate ['/'] file.1
      else [[]]
    .ok (paths.filter fun path => !exclude.any (Glob.covers · path))

/-- The outputs of the template at a path below a folder. -/
def outputsOf (t : FileTree) (input output : Text) (sets : List Variables) (production : Production)
    (path : Text) : Except Failure (List Output) := do
  let template ← t.template (FilePath.join input path)
  if production.multiple then
    Output.eachFrom template production
      (fun name => FilePath.join (FilePath.join output name) path) 0 sets
  else Output.single template (FilePath.join output path) sets production

/-- The outputs of all templates of a folder. -/
def folderOutputs (t : FileTree) (input output : Text) (sets : List Variables)
    (production : Production) : Except Failure (List Output) := do
  let paths ← t.templates input production.exclude
  let outputs ← paths.mapM (t.outputsOf input output sets production)
  return outputs.flatten

/-- The sets of variables in the file at a path. -/
def variableSets (t : FileTree) (reader : WorkbookReader) (path : Text) (extract : Extract) :
    Except Failure (List Variables) :=
  match Format.ofPath? path with
  | none => .error (.source (.unknownFormat path))
  | some format =>
    match t.read (t.route path) with
    | .error e => .error (.file e)
    | .ok data => (Source.load reader data format extract).mapError .source

end FileTree

/-- Write outputs one after another, up to the first that cannot be written. -/
def Change.writeAll : List Output → Change FileError Unit
  | [] => pure ()
  | output :: rest => do
    Change.writeFile output.path output.content
    writeAll rest

end Stencil
