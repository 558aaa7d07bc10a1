import Stencil.CommandLine
import Stencil.Folder
import Stencil.Glob.Reader

/-!
# The program

What the program does with its command line: it reads a file tree and what is fed to it, writes files
or shows a text, and ends with a status. A dash in place of a path stands for what is fed to the program
and for what it shows.
-/

namespace Stencil

/-- How a run of the program ends. -/
structure Outcome where
  /-- The status: zero, one after a failure, and two after a wrong command line. -/
  status : Nat
  /-- What is shown. -/
  shown : Text := []
  /-- What is said about a failure. -/
  complaint : Option Text := none
  deriving DecidableEq, Repr

namespace Program

/-- The name and the version of the program. -/
def title : Text := "weft 0.1.0".toList

/-- Whether a path is a dash. -/
def isDash (path : Text) : Bool := FilePath.parts path = [.name ['-']]

/-- The template of a rendering. -/
def templateOf (t : FileTree) (input : ByteArray) (path : Text) : Except Failure Text :=
  if isDash path then
    match Text.ofBytes? input with
    | some text => .ok text
    | none => .error (.file .notText)
  else t.template path

/-- The outputs of a rendering. -/
def outputs (reader : WorkbookReader) (t : FileTree) (input : ByteArray) (c : RenderCommand) :
    Except Failure (List Output) := do
  let sets ← t.variableSets reader c.data c.extract
  match Glob.parseAll? c.exclude with
  | none => .error .malformedGlob
  | some globs =>
    let production : Production := ⟨c.options, c.extract.multiple, c.pattern, globs⟩
    if c.folder then t.folderOutputs c.input c.output sets production
    else Output.ofTemplate (← templateOf t input c.input) c.input c.output sets production

/-- Whether the output of a rendering is shown and not written. -/
def isShown (c : RenderCommand) : Bool := isDash c.output && !c.extract.multiple && !c.folder

/-- How a run ends that failed. -/
def failed (e : Failure) : Outcome := ⟨1, [], some ("Error: ".toList ++ e.message)⟩

/-- Render. -/
def rendering (reader : WorkbookReader) (t : FileTree) (input : ByteArray) (c : RenderCommand) :
    Outcome × FileTree :=
  match outputs reader t input c with
  | .error e => (failed e, t)
  | .ok outputs =>
    if isShown c then (⟨0, outputs.flatMap Output.content, none⟩, t)
    else
      match Change.writeAll outputs t with
      | .ok _ t => (⟨0, [], none⟩, t)
      | .error e t => (failed (.file e), t)

/-- Make the folder that is to be served. -/
def serving (t : FileTree) (c : ServeCommand) : Outcome × FileTree :=
  match Change.makeFolders c.folder t with
  | .ok _ t => (⟨0, [], none⟩, t)
  | .error e t => (failed (.file e), t)

/-- Run the program. -/
def run (reader : WorkbookReader) (t : FileTree) (environment : CommandLine.Environment)
    (input : ByteArray) (args : List Text) : Outcome × FileTree :=
  match CommandLine.read environment args with
  | .error .usage => (⟨2, [], none⟩, t)
  | .error .help => (⟨0, [], none⟩, t)
  | .error .version => (⟨0, title ++ ['\n'], none⟩, t)
  | .ok (.render c) => rendering reader t input c
  | .ok (.serve c) => serving t c

end Program

end Stencil
