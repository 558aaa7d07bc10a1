import Stencil.Grammar
import Stencil.Pattern.Match
import Stencil.Value

/-!
# Loops

A loop starts a line: a tag with the name of a list, perhaps a tag with a joiner, and a block. It runs
once for each element of the list, provided that the name stands for a list of maps; otherwise it does
not run at all. Loops do not nest.
-/

namespace Stencil

/-- A loop found in a template. -/
structure Loop where
  /-- The position of its first character, which starts a line. -/
  start : Nat
  /-- The position just after its last character. -/
  stop : Nat
  /-- The name of the list it runs over. -/
  name : Text
  /-- The scalar entries of each element. -/
  elements : List Variables
  /-- The text between the delimiters of its block. -/
  block : Text
  /-- The column of its tag. -/
  offset : Nat
  /-- What stands between iterations, before the line break. -/
  joiner : Text
  deriving Repr

namespace Grammar

/-- The spaces and tabs before a loop, from the start of its line on. -/
def offsetGroup : Text := "offset".toList

/-- The name of a loop. -/
def variableGroup : Text := "variable".toList

/-- The joiner of a loop. -/
def joinerGroup : Text := "joiner".toList

/-- The body of a loop. -/
def blockGroup : Text := "block".toList

/-- A loop: indentation from the start of a line, the tag with its name, perhaps a tag with its
joiner, and a block. -/
def loop (tag body : Pair) : Pattern :=
  .seq (.group (some offsetGroup)
      (.seq (.boundary .lineStart) (.star .longest (.one .blank))))
    (.seq (inline tag variableGroup)
      (.seq (.optional .longest (.group none (inline tag joinerGroup)))
        (block body blockGroup)))

end Grammar

namespace Loop

/-- The joiner of a loop that names none. -/
def standardJoiner : Text := ['\n']

/-- The scalar entries of a map. -/
def scalars (entries : Variables) : Variables := entries.filter fun entry => entry.2.isScalar

/-- What a loop over a name runs over: the scalar entries of each element of a list of maps, and
nothing for any other value or none. -/
def elementsOf (vars : Variables) (name : Text) : List Variables :=
  match (Dictionary.find? name vars).bind Value.asList? with
  | none => []
  | some items => ((items.mapM Value.asMap?).getD []).map scalars

/-- The loop that a match of the loop grammar describes. -/
def ofMatch (vars : Variables) (m : Match) : Loop where
  start := m.start
  stop := m.stop
  name := m.group Grammar.variableGroup
  elements := elementsOf vars (m.group Grammar.variableGroup)
  block := m.group Grammar.blockGroup
  offset := (m.group Grammar.offsetGroup).length
  joiner := (m.group? Grammar.joinerGroup).getD standardJoiner

/-- The loops of a template, from top to bottom. -/
def all (template : Text) (vars : Variables) (tag body : Pair) : List Loop :=
  ((Grammar.loop tag body).occurrences template).map (ofMatch vars)

end Loop

end Stencil
