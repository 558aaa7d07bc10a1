import Stencil.Proofs.Render.Stages
import Stencil.Proofs.Scope.Shortfall

/-!
# Renders that fail for indentation

Under the failing policy a render reports the first loop of the template that runs and whose block,
as it is written, begins to the left of the tag: before any token is looked at, so also where strict
rendering would miss a variable. Without such a loop the policy does not matter, and the other
policies never report one.
-/

namespace Stencil

open Stencil.Alignment Text

/-- A loop that runs and whose block is indented less than its tag: its first line that is not blank
begins with fewer characters of indentation than the tag does. -/
structure Loop.Short (l : Loop) (indent : Nat) : Prop where
  runs : l.elements ≠ []
  line : ∃ before line after, lines l.block = before ++ line :: after ∧
    (∀ blank ∈ before, blank.isBlank = true) ∧ line.isBlank = false ∧ indentation line = indent
  less : indent < l.offset

/-- A loop is at fault with the indentation of its block if that is too little. -/
theorem Loop.fault?_eq_some_iff {l : Loop} {e : RenderError} :
    l.fault? = some e ↔ ∃ indent, l.Short indent ∧ e = .underIndented l.name l.offset indent := by
  have hline (indent : Nat) : contentIndentation? l.block = some indent ↔
      ∃ before line after, lines l.block = before ++ line :: after ∧
        (∀ blank ∈ before, blank.isBlank = true) ∧ line.isBlank = false ∧
        indentation line = indent := by
    simp only [contentIndentation?, Option.map_eq_some_iff, List.find?_eq_some_iff_append,
      Bool.not_eq_true', Bool.not_not]
    constructor
    · rintro ⟨line, ⟨hline, before, after, hsplit, hbefore⟩, hindent⟩
      exact ⟨before, line, after, hsplit, hbefore, hline, hindent⟩
    · rintro ⟨before, line, after, hsplit, hbefore, hline, hindent⟩
      exact ⟨line, ⟨hline, before, after, hsplit, hbefore⟩, hindent⟩
  rw [fault?]
  constructor
  · intro h
    by_cases hruns : l.elements = []
    · simp [hruns] at h
    · simp only [List.isEmpty_iff, hruns, ite_false, Option.map_eq_some_iff, shortIndentation?,
        Option.filter_eq_some_iff, decide_eq_true_eq] at h
      obtain ⟨indent, ⟨hindent, hless⟩, rfl⟩ := h
      exact ⟨indent, ⟨hruns, (hline indent).mp hindent, hless⟩, rfl⟩
  · rintro ⟨indent, ⟨hruns, hlines, hless⟩, rfl⟩
    simp only [List.isEmpty_iff, hruns, ite_false, Option.map_eq_some_iff, shortIndentation?,
      Option.filter_eq_some_iff, decide_eq_true_eq]
    exact ⟨indent, ⟨(hline indent).mpr hlines, hless⟩, rfl⟩

/-- A loop is not at fault if its block has enough indentation. -/
theorem Loop.fault?_eq_none_iff {l : Loop} : l.fault? = none ↔ ∀ indent, ¬ l.Short indent := by
  rw [Option.eq_none_iff_forall_ne_some]
  constructor
  · exact fun h indent hshort => h _ (fault?_eq_some_iff.mpr ⟨indent, hshort, rfl⟩)
  · intro h e he
    obtain ⟨indent, hshort, _⟩ := fault?_eq_some_iff.mp he
    exact h indent hshort

variable {d : Delimiters} {template : Text} {vars : Variables} {strict : Bool} {policy : Shortfall}

/-- Filling tokens finds no fault with indentation. -/
theorem fillTokens_ne_underIndented {t : Text} {pair : Pair} {name : Text} {offset indent : Nat} :
    fillTokens t vars pair strict ≠ .error (.underIndented name offset indent) := by
  rw [fillTokens]
  split
  · split <;> nofun
  · nofun

/-- Only the failing policy reports a loop for its indentation. -/
theorem render_ne_underIndented (hd : d.Usable) (h : policy ≠ .fail) {name : Text}
    {offset indent : Nat} :
    render template vars ⟨d, strict, policy⟩ ≠ .error (.underIndented name offset indent) := by
  obtain ⟨expanded, hexpanded⟩ := exists_expandFrom_of_ne_fail h template d.token
    (Loop.all template vars d.tag d.body) 0
  rw [render_of_usable hd, filled, expandLoops, hexpanded]
  exact fillTokens_ne_underIndented

/-- Under the failing policy the first loop with a fault is reported. -/
theorem render_fail (hd : d.Usable) (hopen : d.token.opening.isBlank = false)
    (h : policy ≠ .fail) : render template vars ⟨d, strict, .fail⟩ =
      match (Loop.all template vars d.tag d.body).findSome? Loop.fault? with
      | some e => .error e
      | none => render template vars ⟨d, strict, policy⟩ := by
  rw [render_of_usable hd, render_of_usable hd, filled, filled, expandLoops, expandLoops,
    expandFrom_fail hopen h]
  cases (Loop.all template vars d.tag d.body).findSome? Loop.fault? <;> rfl

/-- Under the failing policy a rendering reports the first loop at fault. -/
theorem render_fail_eq_error_iff (hd : d.Usable) (hopen : d.token.opening.isBlank = false)
    {name : Text} {offset indent : Nat} :
    render template vars ⟨d, strict, .fail⟩ = .error (.underIndented name offset indent) ↔
      (Loop.all template vars d.tag d.body).findSome? Loop.fault? =
        some (.underIndented name offset indent) := by
  have hpreserve : Shortfall.preserve ≠ .fail := by decide
  rw [render_fail hd hopen hpreserve]
  cases (Loop.all template vars d.tag d.body).findSome? Loop.fault? with
  | some e => simp only [Except.error.injEq, Option.some.injEq]
  | none => exact iff_of_false (render_ne_underIndented hd hpreserve) nofun

/-- The first fault is that of the first loop that is too far to the left. -/
theorem Loop.findSome?_fault?_eq_some_iff {loops : List Loop} {name : Text} {offset indent : Nat} :
    loops.findSome? Loop.fault? = some (.underIndented name offset indent) ↔
      ∃ before l after, loops = before ++ l :: after ∧ (∀ m ∈ before, ∀ i, ¬ m.Short i) ∧
        l.Short indent ∧ l.name = name ∧ l.offset = offset := by
  simp only [List.findSome?_eq_some_iff, fault?_eq_some_iff, fault?_eq_none_iff]
  constructor
  · rintro ⟨before, l, after, hloops, ⟨i, hshort, he⟩, hbefore⟩
    obtain ⟨rfl, rfl, rfl⟩ := RenderError.underIndented.inj he
    exact ⟨before, l, after, hloops, hbefore, hshort, rfl, rfl⟩
  · rintro ⟨before, l, after, hloops, hbefore, hshort, rfl, rfl⟩
    exact ⟨before, l, after, hloops, ⟨indent, hshort, rfl⟩, hbefore⟩

/-- Some loop is reported, or none is too far to the left. -/
theorem Loop.findSome?_fault?_cases (loops : List Loop) :
    (∃ name offset indent,
        loops.findSome? Loop.fault? = some (.underIndented name offset indent)) ∨
      loops.findSome? Loop.fault? = none ∧ ∀ l ∈ loops, ∀ indent, ¬ l.Short indent := by
  cases hfound : loops.findSome? Loop.fault? with
  | none =>
    exact .inr ⟨rfl, fun l hl => fault?_eq_none_iff.mp (List.findSome?_eq_none_iff.mp hfound l hl)⟩
  | some e =>
    obtain ⟨l, _, hl⟩ := List.exists_of_findSome?_eq_some hfound
    obtain ⟨indent, _, rfl⟩ := fault?_eq_some_iff.mp hl
    exact .inl ⟨_, _, _, rfl⟩

/-- A render fails for indentation just under the failing policy and if a loop of the template that
runs is indented less than its tag; the first such loop is reported. In all other cases the policy
does not matter. -/
theorem render_underIndented_iff (hd : d.Usable)
    (hopen : ∃ c ∈ d.token.opening, isSpace c = false) (template : Text) (vars : Variables)
    (strict : Bool) :
    ((∃ name offset indent, render template vars ⟨d, strict, .fail⟩ =
          .error (.underIndented name offset indent)) ↔
        ∃ l ∈ Loop.all template vars d.tag d.body, ∃ indent, l.Short indent) ∧
      (∀ name offset indent, render template vars ⟨d, strict, .fail⟩ =
          .error (.underIndented name offset indent) ↔
        ∃ before l after, Loop.all template vars d.tag d.body = before ++ l :: after ∧
          (∀ m ∈ before, ∀ i, ¬ m.Short i) ∧ l.Short indent ∧ l.name = name ∧
          l.offset = offset) ∧
      (∀ policy, policy ≠ .fail → ∀ name offset indent,
        render template vars ⟨d, strict, policy⟩ ≠ .error (.underIndented name offset indent)) ∧
      ((∀ name offset indent, render template vars ⟨d, strict, .fail⟩ ≠
          .error (.underIndented name offset indent)) →
        ∀ policy, render template vars ⟨d, strict, policy⟩ =
          render template vars ⟨d, strict, .fail⟩) := by
  have hopen : d.token.opening.isBlank = false := by
    obtain ⟨c, hc, hspace⟩ := hopen
    rw [← Bool.not_eq_true, isBlank_iff]
    exact fun h => absurd (h c hc) (by simp [hspace])
  have hreport (name : Text) (offset indent : Nat) :
      render template vars ⟨d, strict, .fail⟩ = .error (.underIndented name offset indent) ↔
        (Loop.all template vars d.tag d.body).findSome? Loop.fault? =
          some (.underIndented name offset indent) := render_fail_eq_error_iff hd hopen
  have hcases := Loop.findSome?_fault?_cases (Loop.all template vars d.tag d.body)
  simp only [hreport, ne_eq]
  refine ⟨⟨?_, ?_⟩, fun _ _ _ => Loop.findSome?_fault?_eq_some_iff,
    fun policy h _ _ _ => render_ne_underIndented hd h, ?_⟩
  · rintro ⟨name, offset, indent, hfound⟩
    obtain ⟨before, l, after, hloops, _, hshort, _⟩ := Loop.findSome?_fault?_eq_some_iff.mp hfound
    exact ⟨l, hloops ▸ List.mem_append_right _ List.mem_cons_self, indent, hshort⟩
  · rintro ⟨l, hl, indent, hshort⟩
    exact hcases.resolve_right fun hnone => hnone.2 l hl indent hshort
  · intro hnot policy
    have hnone : (Loop.all template vars d.tag d.body).findSome? Loop.fault? = none :=
      (hcases.resolve_left fun ⟨name, offset, indent, hfound⟩ => hnot name offset indent hfound).1
    by_cases hpolicy : policy = .fail
    · rw [hpolicy]
    · rw [render_fail hd hopen hpolicy, hnone]

/-- Delimiters of tokens that begin with a space. -/
def spacedTokens : Delimiters := { token := ⟨" <".toList, ">".toList⟩ }

/-- A list with an empty map, and a list with a map whose key is broken over two lines. -/
def brokenKey : Variables :=
  [(['a'], .list [.map []]), (['v'], .list [.map [("k\n l".toList, .string ['1'])]])]

/-- Two loops, of which the second is too far to the left, and a token without a value. -/
def shortLoops : Text := "(a)[\n  x\n]\n  (v)[\n\n <k\n l>\n  ]\n <z>".toList

/-- The second loop is reported, and not the missing variable, though its first line that is not
blank is part of a token. -/
theorem render_underIndented_shortLoops :
    spacedTokens.Usable ∧ (∃ c ∈ spacedTokens.token.opening, isSpace c = false) ∧
      render shortLoops brokenKey ⟨spacedTokens, true, .fail⟩ =
        .error (.underIndented ['v'] 2 1) ∧
      render shortLoops brokenKey ⟨spacedTokens, true, .preserve⟩ =
        .error (.missingVariable ['z']) := by
  have hd : spacedTokens.Usable := by rfl
  have hopen : ∃ c ∈ spacedTokens.token.opening, isSpace c = false := ⟨'<', by decide, by decide⟩
  have hloops : Loop.all shortLoops brokenKey spacedTokens.tag spacedTokens.body =
      [⟨0, 10, ['a'], [[]], "  x".toList, 0, ['\n']⟩,
        ⟨11, 30, ['v'], [[("k\n l".toList, .string ['1'])]], "\n <k\n l>".toList, 2, ['\n']⟩] := by
    rfl
  refine ⟨hd, hopen, ?_, by rfl⟩
  refine ((render_underIndented_iff hd hopen shortLoops brokenKey true).2.1 _ _ _).mpr
    ⟨[_], _, [], hloops, ?_, ⟨List.cons_ne_nil _ _, ?_, by decide⟩, rfl, rfl⟩
  · intro m hm
    rw [List.mem_singleton.mp hm]
    exact Loop.fault?_eq_none_iff.mp (by rfl)
  · exact ⟨[[]], " <k".toList, [" l>".toList], by decide, by decide, by decide, by decide⟩

end Stencil
