import Stencil.Proofs.Render.Stages
import Stencil.Proofs.Scope.LineEnding
import Stencil.Proofs.Scope.Lookup

/-!
# Rendering and line endings

A template without carriage returns may be written with either line ending: its `crlf` form renders
to the `crlf` form of what it renders to itself, and fails where it fails.
-/

namespace Stencil

open Text

variable {d : Delimiters} {c : Char} {template : Text} {vars : Variables} {pair : Pair}

/-! ## Tokens -/

private theorem oneLine_display {entry : Text × Value} (hv : vars.OneLine) (h : entry ∈ vars)
    (hmap : entry.2.isMap = false) : '\n' ∉ entry.2.display := by
  obtain ⟨name, value⟩ := entry
  cases value with
  | list items => exact (Json.controlFree_print (.list items)).lineFeed_notMem
  | map entries => exact nomatch hmap
  | _ => exact hv.scalar _ h rfl

/-- No flat variable has a line feed in its name or in its text. -/
theorem oneLine_of_mem_flatVariables (hv : vars.OneLine) {tag body : Pair} {entry : Text × Value}
    (h : entry ∈ flatVariables vars (Loop.all template vars tag body)) :
    '\n' ∉ entry.1 ∧ '\n' ∉ entry.2.display := by
  rcases Dictionary.mem_insertAll h with h | h
  · obtain ⟨hentry, hmap⟩ := List.mem_filter.mp h
    exact ⟨hv.key entry hentry, oneLine_display hv hentry (by simpa using hmap)⟩
  · obtain h := (Dictionary.mem_insertAll h).resolve_right List.not_mem_nil
    obtain ⟨l, hl, i, element, helement, key, hkey, hname⟩ := mem_bindings_iff.mp h
    have hmem := List.mem_of_getElem? helement
    rw [Loop.elements_of_mem_all hl] at hmem
    obtain ⟨hkey, hdisplay⟩ := Loop.oneLine_of_mem_elementsOf hv hmem _ hkey
    have hloop : '\n' ∉ l.name := fun hm => by
      rw [Loop.elementsOf_eq_nil_of_lineFeed hv hm] at hmem
      exact absurd hmem List.not_mem_nil
    exact ⟨hname ▸ lineFeed_notMem_iterationName hloop hkey i, hdisplay⟩

/-- Values on one line are put into the `crlf` form of a text as into the text. -/
theorem substituteAll_crlf (hp : Delimiters.pairFault? pair = none) {entries : List (Text × Value)}
    (h : ∀ entry ∈ entries, '\n' ∉ entry.1 ∧ '\n' ∉ entry.2.display) (t : Text) :
    substituteAll pair entries (crlf t) = crlf (substituteAll pair entries t) := by
  induction entries generalizing t with
  | nil => rfl
  | cons entry entries ih =>
    obtain ⟨⟨hname, hdisplay⟩, hrest⟩ := List.forall_mem_cons.mp h
    have hone : substitute pair (crlf t) entry = crlf (substitute pair t entry) :=
      Pair.replace_wrap_crlf hp hname hdisplay t
    simp only [substituteAll, List.foldl_cons] at ih ⊢
    rw [hone, ih hrest]

/-- The first token is the same, up to line endings. -/
theorem Token.first?_crlf (hp : Delimiters.pairFault? pair = none) (t : Text) :
    (first? pair (crlf t)).map Token.body = ((first? pair t).map Token.body).map crlf := by
  have hmatches := (Grammar.inStep_inline (t := t) hp nameGroup).forall₂_occurrences
  rw [first?, first?, all, all]
  generalize (Grammar.inline pair nameGroup).occurrences t = ms at hmatches ⊢
  generalize (Grammar.inline pair nameGroup).occurrences (crlf t) = ms' at hmatches ⊢
  cases hmatches with
  | nil => rfl
  | cons h _ => exact congrArg some (h.group_eq nameGroup)

/-! ## Renders -/

/-- The outcome of a render with its line endings written out, in its text or in the name that has
no value. -/
def crlfOutcome : Except RenderError Text → Except RenderError Text
  | .ok t => .ok (crlf t)
  | .error (.missingVariable name) => .error (.missingVariable (crlf name))
  | .error e => .error e

private theorem fillTokens_strict (t : Text) (entries : Variables) (pair : Pair) :
    fillTokens t entries pair true =
      match (Token.first? pair (substituteAll pair entries t)).map Token.body with
      | some name => .error (.missingVariable name)
      | none => .ok (substituteAll pair entries t) := by
  rw [fillTokens]
  cases Token.first? pair (substituteAll pair entries t) <;> rfl

/-- Filling tokens goes along with the choice of line endings. -/
theorem fillTokens_crlf (hp : Delimiters.pairFault? pair = none) {entries : Variables}
    (h : ∀ entry ∈ entries, '\n' ∉ entry.1 ∧ '\n' ∉ entry.2.display) (t : Text) (strict : Bool) :
    fillTokens (crlf t) entries pair strict = crlfOutcome (fillTokens t entries pair strict) := by
  cases strict with
  | false => exact congrArg Except.ok (substituteAll_crlf hp h t)
  | true =>
    rw [fillTokens_strict, fillTokens_strict, substituteAll_crlf hp h, Token.first?_crlf hp]
    cases (Token.first? pair (substituteAll pair entries t)).map Token.body <;> rfl

private theorem filled_crlf (hd : d.Usable) (hc : d.body.closing = [c]) (hv : vars.OneLine)
    (hreturn : '\r' ∉ template) (strict : Bool) (policy : Shortfall) :
    filled d strict policy (crlf template) vars =
      crlfOutcome (filled d strict policy template vars) := by
  have hflat : ∀ entry ∈ flatVariables vars (Loop.all template vars d.tag d.body),
      '\n' ∉ entry.1 ∧ '\n' ∉ entry.2.display := fun _ h => oneLine_of_mem_flatVariables hv h
  rw [filled, filled, expandLoops_crlf hd hc hv hreturn, flatVariables_crlf hd hc hv hreturn]
  cases hexpand : expandLoops template (Loop.all template vars d.tag d.body) d.token policy with
  | ok expanded => exact fillTokens_crlf hd.pairFault?.1 hflat expanded strict
  | error e =>
    obtain ⟨l, _, indent, rfl⟩ := exists_of_expandLoops_error hexpand
    rfl

/-- A template renders with one line ending as it does with the other: to the same text with its
line endings written out, or to the same error. -/
theorem render_crlf (hd : d.Usable) (hc : d.body.closing = [c]) (hreturn : '\r' ∉ template)
    (hv : vars.OneLine) (strict : Bool) (policy : Shortfall) :
    (∀ out, render (crlf template) vars ⟨d, strict, policy⟩ = .ok (crlf out) ↔
        render template vars ⟨d, strict, policy⟩ = .ok out) ∧
      (∀ loop offset indent,
        render (crlf template) vars ⟨d, strict, policy⟩ =
            .error (.underIndented loop offset indent) ↔
          render template vars ⟨d, strict, policy⟩ = .error (.underIndented loop offset indent)) ∧
      (∀ name, render (crlf template) vars ⟨d, strict, policy⟩ =
            .error (.missingVariable (crlf name)) ↔
          render template vars ⟨d, strict, policy⟩ = .error (.missingVariable name)) ∧
      render (crlf template) vars ⟨d, strict, policy⟩ =
        crlfOutcome (render template vars ⟨d, strict, policy⟩) := by
  have hrender : render (crlf template) vars ⟨d, strict, policy⟩ =
      crlfOutcome (render template vars ⟨d, strict, policy⟩) := by
    rw [render_of_usable hd, render_of_usable hd, filled_crlf hd hc hv hreturn]
  have hinj {s t : Text} : crlf s = crlf t ↔ s = t := ⟨crlf_injective, congrArg crlf⟩
  rw [hrender]
  refine ⟨fun out => ?_, fun loop offset indent => ?_, fun name => ?_, rfl⟩
  all_goals
    cases render template vars ⟨d, strict, policy⟩ with
    | ok t => simp [crlfOutcome, hinj]
    | error e => cases e <;> simp [crlfOutcome, hinj]

/-- A list of two maps. -/
def twoEntries : Variables :=
  [(['v'], .list [.map [(['k'], .string ['1'])], .map [(['k'], .string ['2'])]])]

/-- A loop with a joiner, and a token that is broken over two lines. -/
def brokenToken : Text := "(v)(, )[\n  \x7b\x7bk\x7d\x7d\n]\n\x7b\x7ba\nb\x7d\x7d\n".toList

private theorem oneLine_twoEntries : twoEntries.OneLine := by
  have hentries {name : Text} {items : List Value} {entries : Variables}
      (hitems : (name, .list items) ∈ twoEntries) (h : .map entries ∈ items) :
      entries = [(['k'], .string ['1'])] ∨ entries = [(['k'], .string ['2'])] := by
    simp only [twoEntries, List.mem_singleton, Prod.mk.injEq, Value.list.injEq] at hitems
    simpa [hitems.2] using h
  refine ⟨by decide, by decide, fun name items entries hitems h => ?_,
    fun name items entries hitems h => ?_⟩
  all_goals rcases hentries hitems h with rfl | rfl <;> decide

/-- The loop is written out with the line breaks of its template, and strict rendering reports the
token with the line break that it has. -/
theorem render_crlf_brokenToken :
    '\r' ∉ brokenToken ∧ twoEntries.OneLine ∧
      render (crlf brokenToken) twoEntries {} =
        .ok (crlf "1, \n2\n\x7b\x7ba\nb\x7d\x7d\n".toList) ∧
      render (crlf brokenToken) twoEntries .strictly =
        .error (.missingVariable "a\r\nb".toList) := by
  have hd : Delimiters.standard.Usable := by rfl
  have hreturn : '\r' ∉ brokenToken := by decide
  obtain ⟨hok, _, _, _⟩ := render_crlf hd (by rfl) hreturn oneLine_twoEntries false .preserve
  obtain ⟨_, _, hmissing, _⟩ := render_crlf hd (by rfl) hreturn oneLine_twoEntries true .preserve
  exact ⟨hreturn, oneLine_twoEntries, (hok _).mpr (by rfl), (hmissing "a\nb".toList).mpr (by rfl)⟩

end Stencil
