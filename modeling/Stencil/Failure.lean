import Stencil.FileTree.Error
import Stencil.Render.Error
import Stencil.Source.Error

/-!
# Failures

Everything that can go wrong between the files of a template and its outputs, in one type, with the
message that is shown.
-/

namespace Stencil

/-- Why something asked for cannot be done. -/
inductive Failure
  /-- A template does not render. -/
  | render (e : RenderError)
  /-- Variables cannot be loaded. -/
  | source (e : SourceError)
  /-- A file cannot be used. -/
  | file (e : FileError)
  /-- There is no such template. -/
  | noTemplate (name : Text)
  /-- A path leads out of the folder of templates. -/
  | outside (path : Text)
  /-- A folder of templates cannot be listed. -/
  | noFolder
  /-- A glob cannot be read. -/
  | malformedGlob
  deriving DecidableEq, Repr

/-- Why something cannot be done, in words. -/
def Failure.message : Failure → Text
  | .render e => e.message
  | .source e => e.message
  | .file e => "IO error: ".toList ++ e.message
  | .noTemplate name => "Template not found: ".toList ++ name
  | .outside path =>
    "Path traversal detected (trying to access files outside template directory): ".toList ++ path
  | .noFolder => "Directory traversal error".toList
  | .malformedGlob => "Glob error".toList

end Stencil
