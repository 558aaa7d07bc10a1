import Stencil.Expansion
import Stencil.Substitution

/-!
# Rendering

A template is rendered in three steps: its loops are found, they are written out with names of their
own for each iteration, and the tokens are replaced by values.
-/

namespace Stencil

/-- How a template is rendered. -/
structure Settings where
  /-- The delimiters it is written with. -/
  delimiters : Delimiters := .standard
  /-- Whether every token must have a value. -/
  strict : Bool := false
  /-- What to do with loop bodies indented less than their tag. -/
  shortfall : Shortfall := .preserve
  deriving DecidableEq, Repr

/-- The options under which every token must have a value. -/
def Settings.strictly : Settings := { strict := true }

/-- Check the delimiters. -/
def Delimiters.check (d : Delimiters) : Except RenderError Unit :=
  match d.fault? with
  | none => .ok ()
  | some (role, fault) => .error (.malformedDelimiters role fault)

/-- The text of a template with its variables filled in. -/
def render (template : Text) (vars : Variables) (options : Settings) :
    Except RenderError Text := do
  let d := options.delimiters
  d.check
  let loops := Loop.all template vars d.tag d.body
  let expanded ← expandLoops template loops d.token options.shortfall
  fillTokens expanded (flatVariables vars loops) d.token options.strict

end Stencil
