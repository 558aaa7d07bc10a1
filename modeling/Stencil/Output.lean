import Stencil.Failure
import Stencil.FilePath
import Stencil.Glob
import Stencil.Render

/-!
# Outputs

A template gives one output, or one for each set of variables. In the second case a pattern names the
outputs: its tokens stand in single braces and take their values from the set, and `i` is the number
of the set.
-/

namespace Stencil

/-- How templates become files. -/
structure Production where
  /-- How they are rendered. -/
  options : Settings := {}
  /-- Whether each set of variables gives an output of its own. -/
  multiple : Bool := false
  /-- The pattern of output names. -/
  pattern : Text := "\x7bi\x7d".toList
  /-- The templates of a folder that are passed over. -/
  exclude : List Glob := []

/-- A rendered template and where it belongs. -/
structure Output where
  /-- The path of the file. -/
  path : Text
  /-- The rendered text. -/
  content : Text
  deriving DecidableEq, Repr

namespace Output

/-- The delimiters of tokens in output names. -/
def nameDelimiters : Pair := ⟨['\x7b'], ['\x7d']⟩

/-- The name in output names for the number of a set. -/
def indexName : Text := ['i']

/-- The variables of an output name: the scalars of a set, and its number over all of them. -/
def nameVariables (vars : Variables) (index : Nat) : Variables :=
  Dictionary.insert indexName ((Value.ofInt? index).getD .null) (Loop.scalars vars)

/-- The name of an output. -/
def name (pattern : Text) (vars : Variables) (index : Nat) : Text :=
  substituteAll nameDelimiters (nameVariables vars index) pattern

/-- A name with the extension of a path. -/
def extended (path name : Text) : Text :=
  match FilePath.extension? path with
  | some extension => name ++ '.' :: extension
  | none => name

/-- The outputs of a template, one for each set from number `index` on. `pathOf` tells where an output
belongs from its name. -/
def eachFrom (template : Text) (production : Production) (pathOf : Text → Text) :
    Nat → List Variables → Except Failure (List Output)
  | _, [] => .ok []
  | index, vars :: rest =>
    match render template vars production.options with
    | .error e => .error (.render e)
    | .ok content =>
      let output : Output := ⟨pathOf (name production.pattern vars index), content⟩
      (eachFrom template production pathOf (index + 1) rest).map (output :: ·)

/-- The one output of a template, from the first set or from no variables. -/
def single (template path : Text) (sets : List Variables) (production : Production) :
    Except Failure (List Output) :=
  match render template (sets.head?.getD []) production.options with
  | .ok content => .ok [⟨path, content⟩]
  | .error e => .error (.render e)

/-- The outputs of a template that was read from the path `input`: at the path `output`, or in that
folder, with the extension of the input. -/
def ofTemplate (template input output : Text) (sets : List Variables) (production : Production) :
    Except Failure (List Output) :=
  if production.multiple then
    eachFrom template production
      (fun name => FilePath.join output (extended input name)) 0 sets
  else single template output sets production

end Output

end Stencil
