import Stencil.Proofs.Delimiter
import Stencil.Render

/-!
# The stages of a render

A render checks the delimiters first and gives up on unusable ones. With usable delimiters it is the
expansion of the loops followed by the filling of the tokens, so later modules reason about these
two and never about the check.
-/

namespace Stencil

namespace Delimiters

variable {d : Delimiters}

/-- The check finds nothing just in usable delimiters. -/
theorem check_eq_ok_iff : d.check = .ok () ↔ d.Usable := by
  unfold check Usable
  cases d.fault? <;> simp

end Delimiters

variable {d : Delimiters} {template out : Text} {vars : Variables} {strict : Bool}
  {policy : Shortfall}

/-- The text of a template with its loops written out and its tokens filled. -/
def filled (d : Delimiters) (strict : Bool) (policy : Shortfall) (template : Text)
    (vars : Variables) : Except RenderError Text :=
  let loops := Loop.all template vars d.tag d.body
  (expandLoops template loops d.token policy).bind fun expanded =>
    fillTokens expanded (flatVariables vars loops) d.token strict

private theorem render_eq (d : Delimiters) (strict : Bool) (policy : Shortfall) (template : Text)
    (vars : Variables) : render template vars ⟨d, strict, policy⟩ =
      d.check.bind fun _ => filled d strict policy template vars := rfl

/-- With usable delimiters a render is an expansion and a substitution. -/
theorem render_of_usable (h : d.Usable) (template : Text) (vars : Variables) (strict : Bool)
    (policy : Shortfall) : render template vars ⟨d, strict, policy⟩ =
      filled d strict policy template vars := by
  rw [render_eq, Delimiters.check_eq_ok_iff.mpr h]
  rfl

/-- Only usable delimiters give a text. -/
theorem usable_of_render (h : render template vars ⟨d, strict, policy⟩ = .ok out) : d.Usable := by
  rw [← Delimiters.check_eq_ok_iff]
  rw [render_eq] at h
  cases hcheck : d.check with
  | ok u => rfl
  | error e =>
    rw [hcheck] at h
    cases h

private theorem exists_of_iterationsFrom_error {l : Loop} {pair : Pair} {elements : List Variables}
    {index : Nat} {e : RenderError} (h : l.iterationsFrom pair policy index elements = .error e) :
    ∃ indent, e = .underIndented l.name l.offset indent := by
  induction elements generalizing index with
  | nil => cases h
  | cons element elements ih =>
    rw [Loop.iterationsFrom] at h
    cases hone : l.iteration pair policy element index with
    | error e' =>
      simp only [hone, Except.error.injEq] at h
      rw [Loop.iteration] at hone
      split at hone
      · cases hone
      · next indent _ => exact ⟨indent, h ▸ (Except.error.inj hone).symm⟩
    | ok t =>
      cases hmore : l.iterationsFrom pair policy (index + 1) elements with
      | error e' =>
        simp only [hone, hmore, Except.error.injEq] at h
        exact ih (h ▸ hmore)
      | ok ts =>
        simp only [hone, hmore] at h
        cases h

private theorem exists_of_expandFrom_error {loops : List Loop} {pair : Pair} {position : Nat}
    {e : RenderError} (h : expandFrom template pair policy position loops = .error e) :
    ∃ l ∈ loops, ∃ indent, e = .underIndented l.name l.offset indent := by
  induction loops generalizing position with
  | nil => cases h
  | cons l loops ih =>
    rw [expandFrom, Loop.expand] at h
    cases hiterations : l.iterations pair policy with
    | error e' =>
      simp only [hiterations, Except.error.injEq] at h
      obtain ⟨indent, hindent⟩ := exists_of_iterationsFrom_error hiterations
      exact ⟨l, List.mem_cons_self, indent, h ▸ hindent⟩
    | ok ts =>
      cases hmore : expandFrom template pair policy l.stop loops with
      | error e' =>
        simp only [hiterations, hmore, Except.error.injEq] at h
        obtain ⟨l', hl', hindent⟩ := ih (h ▸ hmore)
        exact ⟨l', List.mem_cons_of_mem _ hl', hindent⟩
      | ok more =>
        simp only [hiterations, hmore] at h
        cases h

/-- Loops cannot be written out only where the body of one is indented less than its tag. -/
theorem exists_of_expandLoops_error {loops : List Loop} {pair : Pair} {e : RenderError}
    (h : expandLoops template loops pair policy = .error e) :
    ∃ l ∈ loops, ∃ indent, e = .underIndented l.name l.offset indent :=
  exists_of_expandFrom_error h

/-- A rendered text comes from an expansion whose tokens could be filled. -/
theorem exists_of_render (h : render template vars ⟨d, strict, policy⟩ = .ok out) :
    ∃ expanded, expandLoops template (Loop.all template vars d.tag d.body) d.token policy =
        .ok expanded ∧
      fillTokens expanded (flatVariables vars (Loop.all template vars d.tag d.body)) d.token
        strict = .ok out := by
  rw [render_of_usable (usable_of_render h), filled] at h
  cases hexpand : expandLoops template (Loop.all template vars d.tag d.body) d.token policy with
  | ok expanded =>
    rw [hexpand] at h
    exact ⟨expanded, rfl, h⟩
  | error e =>
    rw [hexpand] at h
    cases h

end Stencil
