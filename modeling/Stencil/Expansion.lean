import Stencil.Loop
import Stencil.Alignment
import Stencil.Render.Error

/-!
# Loop expansion

Writing loops out. Each iteration is a copy of the loop's block in which the tokens of the element's
keys are renamed to names of their own, one for each loop, key and iteration; `flatVariables` binds
those names to the values. After both, a template is plain text with plain tokens.
-/

namespace Stencil

/-- The name of a key of an iteration. -/
def iterationName (loop key : Text) (index : Nat) : Text :=
  loop ++ '_' :: key ++ '_' :: Text.ofNat index

/-- Give tokens new names, one after another. -/
def renameTokens (pair : Pair) (renames : List (Text × Text)) (t : Text) : Text :=
  renames.foldl (fun t r => t.replace (pair.wrap r.1) (pair.wrap r.2)) t

/-- The first rename is applied first. -/
theorem renameTokens_cons (pair : Pair) (r : Text × Text) (renames : List (Text × Text))
    (t : Text) : renameTokens pair (r :: renames) t =
      renameTokens pair renames (t.replace (pair.wrap r.1) (pair.wrap r.2)) := rfl

namespace Loop

/-- The name of a key together with the name of its loop. -/
def qualifiedName (loop key : Text) : Text := loop ++ '_' :: key

/-- The renames of an iteration: first every key by itself, then every key with the name of the loop
in front, unless that is itself a key. -/
def renames (l : Loop) (element : Variables) (index : Nat) : List (Text × Text) :=
  (Dictionary.keys element).map (fun key => (key, iterationName l.name key index)) ++
    ((Dictionary.keys element).filter fun key =>
        !Dictionary.contains (qualifiedName l.name key) element).map
      fun key => (qualifiedName l.name key, iterationName l.name key index)

/-- One iteration: the block with its tokens renamed, moved to the column of the tag, and without
white space at its end. -/
def iteration (l : Loop) (pair : Pair) (policy : Shortfall) (element : Variables)
    (index : Nat) : Except RenderError Text :=
  match align (renameTokens pair (l.renames element index) l.block) l.offset policy with
  | .ok t => .ok t.trimEnd
  | .error indent => .error (.underIndented l.name l.offset indent)

/-- The iterations from `index` on. -/
def iterationsFrom (l : Loop) (pair : Pair) (policy : Shortfall) :
    Nat → List Variables → Except RenderError (List Text)
  | _, [] => .ok []
  | index, element :: rest =>
    match l.iteration pair policy element index with
    | .error e => .error e
    | .ok t =>
      match l.iterationsFrom pair policy (index + 1) rest with
      | .error e => .error e
      | .ok ts => .ok (t :: ts)

/-- All iterations, in order. -/
def iterations (l : Loop) (pair : Pair) (policy : Shortfall) :
    Except RenderError (List Text) :=
  l.iterationsFrom pair policy 0 l.elements

end Loop

/-- The line break that a text uses. -/
def lineBreakOf (t : Text) : Text := if Text.contains ['\r', '\n'] t then ['\r', '\n'] else ['\n']

/-- A text without the line break at its end. -/
def withoutLineBreak (t : Text) : Text :=
  match Text.stripSuffix? ['\n'] t with
  | none => t
  | some t => (Text.stripSuffix? ['\r'] t).getD t

/-- What is put between iterations: the joiner and one line break. -/
def joint (joiner lineBreak : Text) : Text := withoutLineBreak joiner ++ lineBreak

/-- A loop written out. -/
def Loop.expand (l : Loop) (lineBreak : Text) (pair : Pair) (policy : Shortfall) :
    Except RenderError Text :=
  match l.iterations pair policy with
  | .error e => .error e
  | .ok ts => .ok (Text.trimEnd (List.intercalate (joint l.joiner lineBreak) ts))

/-- The text from a position on with its loops written out. -/
def expandFrom (template : Text) (pair : Pair) (policy : Shortfall) :
    Nat → List Loop → Except RenderError Text
  | position, [] => .ok (template.drop position)
  | position, l :: rest =>
    match l.expand (lineBreakOf (template.between l.start l.stop)) pair policy with
    | .error e => .error e
    | .ok t =>
      match expandFrom template pair policy l.stop rest with
      | .error e => .error e
      | .ok more => .ok (template.between position l.start ++ t ++ more)

/-- A template with its loops written out. -/
def expandLoops (template : Text) (loops : List Loop) (pair : Pair) (policy : Shortfall) :
    Except RenderError Text :=
  expandFrom template pair policy 0 loops

/-- The bindings of an iteration under its own names. -/
def Loop.iterationBindings (l : Loop) (element : Variables) (index : Nat) : List (Text × Value) :=
  element.map fun (key, value) => (iterationName l.name key index, value)

/-- The bindings of all iterations of a loop. -/
def Loop.bindings (l : Loop) : List (Text × Value) :=
  l.elements.zipIdx.flatMap fun (element, index) => l.iterationBindings element index

/-- The variables of a template without loops: the entries of all iterations under their own names,
and over them everything that was bound before except maps. -/
def flatVariables (vars : Variables) (loops : List Loop) : Variables :=
  Dictionary.insertAll (vars.filter fun entry => !entry.2.isMap)
    (Dictionary.ofList (loops.flatMap Loop.bindings))

end Stencil
