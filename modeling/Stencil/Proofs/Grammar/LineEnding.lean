import Stencil.Proofs.Grammar.Block
import Stencil.Proofs.Pattern.LineEnding

/-!
# Grammars and line endings

Tokens and blocks are found in step in a text and in its `crlf` form. No delimiter holds a line
ending, so what follows a repetition fails inside one. Only the line break that ends a block's body
may begin there: but then the body could have ended before the carriage return, provided that its
steps are single characters.
-/

namespace Stencil

open Pattern Text

namespace Delimiters

/-- Delimiters without line breaks hold no line feed and do not end with half a line ending. -/
theorem lineFeed_notMem {delimiter : Text} (h : ∀ c ∈ delimiter, isLineBreak c = false) :
    '\n' ∉ delimiter :=
  fun hm => absurd (h _ hm) (by decide)

/-- A text without line breaks does not end in a carriage return. -/
theorem getLast?_ne_return {delimiter : Text} (h : ∀ c ∈ delimiter, isLineBreak c = false) :
    delimiter.getLast? ≠ some '\r' :=
  fun hlast => absurd (h _ (List.mem_of_getLast? hlast)) (by decide)

variable {pair : Pair}

/-- No character of the opening delimiter of a usable pair breaks a line. -/
theorem opening_unbroken (hp : pairFault? pair = none) :
    ∀ c ∈ pair.opening, isLineBreak c = false :=
  fun _ hc => isLineBreak_eq_false hp (.inl hc)

/-- No character of the closing delimiter of a usable pair breaks a line. -/
theorem closing_unbroken (hp : pairFault? pair = none) :
    ∀ c ∈ pair.closing, isLineBreak c = false :=
  fun _ hc => isLineBreak_eq_false hp (.inr hc)

/-- The opening delimiter of a usable pair is its own `crlf` form. -/
theorem crlf_opening (hp : pairFault? pair = none) : crlf pair.opening = pair.opening :=
  crlf_eq_self (lineFeed_notMem (opening_unbroken hp))

/-- The closing delimiter of a usable pair is its own `crlf` form. -/
theorem crlf_closing (hp : pairFault? pair = none) : crlf pair.closing = pair.closing :=
  crlf_eq_self (lineFeed_notMem (closing_unbroken hp))

end Delimiters

namespace Pair

variable {pair : Pair} (hp : Delimiters.pairFault? pair = none)
include hp

/-- The line endings of what is wrapped are those of what is between the delimiters. -/
theorem crlf_wrap (x : Text) : crlf (pair.wrap x) = pair.wrap (crlf x) := by
  rw [wrap, crlf_append, crlf_append, Delimiters.crlf_opening hp, Delimiters.crlf_closing hp, wrap]

/-- A token breaks a line just if its name does. -/
theorem lineFeed_mem_wrap {x : Text} : '\n' ∈ pair.wrap x ↔ '\n' ∈ x := by
  have hopening := Delimiters.lineFeed_notMem (Delimiters.opening_unbroken hp)
  have hclosing := Delimiters.lineFeed_notMem (Delimiters.closing_unbroken hp)
  simp only [wrap, List.mem_append, hopening, hclosing, false_or, or_false]

/-- Replacing a name between delimiters by text without line feeds leaves the line endings alone. -/
theorem replace_wrap_crlf {name new : Text} (hname : '\n' ∉ name) (hnew : '\n' ∉ new) (t : Text) :
    (crlf t).replace (pair.wrap name) new = crlf (t.replace (pair.wrap name) new) := by
  refine replace_crlf ?_ ((lineFeed_mem_wrap hp).not.mpr hname) ?_ hnew t
  · exact List.append_ne_nil_of_right_ne_nil _ (Delimiters.closing_ne_nil hp)
  · rw [wrap, List.getLast?_append_of_ne_nil _ (Delimiters.closing_ne_nil hp)]
    exact Delimiters.getLast?_ne_return (Delimiters.closing_unbroken hp)

end Pair

namespace Grammar

variable {t : Text} {pair : Pair}

private theorem stepLength?_crlf {closing : Text}
    (hc : ∀ c ∈ closing, Delimiters.isLineBreak c = false) (u : Text) :
    stepLength? closing (crlf u) = stepLength? closing u := by
  induction closing generalizing u with
  | nil => cases crlf u <;> cases u <;> rfl
  | cons c closing ih =>
    obtain ⟨hfirst, hclosing⟩ := List.forall_mem_cons.mp hc
    cases u with
    | nil => rfl
    | cons d u =>
      by_cases hd : d = '\n'
      · have hreturn : '\r' ≠ c := fun h => absurd hfirst (by rw [← h]; decide)
        have hfeed : '\n' ≠ c := fun h => absurd hfirst (by rw [← h]; decide)
        rw [hd, crlf_lineFeed, stepLength?, stepLength?, if_neg hreturn, if_neg hfeed]
      · rw [crlf_cons hd, stepLength?, stepLength?, ih hclosing]

/-- Steps of a body take line endings as they take line feeds. -/
theorem even_stepLength? {closing : Text}
    (hc : ∀ c ∈ closing, Delimiters.isLineBreak c = false) : Even (stepLength? closing) where
  crlf_eq := stepLength?_crlf hc
  last u n h := by
    obtain ⟨beginning, c, d, rest, hbeginning, _, rfl, rfl⟩ := stepLength?_eq_some_iff.mp h
    have hmem (e : Char) (he : e ∈ beginning) : e ∈ closing :=
      hbeginning.subset (List.mem_append_left _ he)
    refine ⟨beginning, d, ?_, fun hm => ?_, fun _ v => ?_⟩
    · rw [List.take_length_add_append, List.take_succ_cons, List.take_zero]
    · exact Delimiters.lineFeed_notMem hc (hmem _ hm)
    · cases closing with
      | nil => cases h
      | cons e closing =>
        have he : '\n' ≠ e := fun he => Delimiters.lineFeed_notMem hc (he ▸ List.mem_cons_self)
        rw [stepLength?, if_neg he]

/-- White space takes line endings as it takes line feeds. -/
theorem even_space : Even (strideOne .space) := even_one rfl

section Inline

variable (hp : Delimiters.pairFault? pair = none)
include hp

/-- The opening delimiter is found in step. -/
theorem steady_opening : Steady t (literal pair.opening) :=
  steady_literal (Delimiters.lineFeed_notMem (Delimiters.opening_unbroken hp))
    (Delimiters.getLast?_ne_return (Delimiters.opening_unbroken hp))

/-- The closing delimiter is found in step. -/
theorem steady_closing : Steady t (literal pair.closing) :=
  steady_literal (Delimiters.lineFeed_notMem (Delimiters.closing_unbroken hp))
    (Delimiters.getLast?_ne_return (Delimiters.closing_unbroken hp))

/-- No opening delimiter of a usable pair begins with a line feed. -/
theorem balks_opening (next : Cursor → Option Cursor) :
    Balks ((literal pair.opening).run · next) :=
  balks_literal (Delimiters.opening_ne_nil hp)
    (Delimiters.lineFeed_notMem (Delimiters.opening_unbroken hp)) next

/-- No closing delimiter of a usable pair begins with a line feed. -/
theorem balks_closing (next : Cursor → Option Cursor) :
    Balks ((literal pair.closing).run · next) :=
  balks_literal (Delimiters.closing_ne_nil hp)
    (Delimiters.lineFeed_notMem (Delimiters.closing_unbroken hp)) next

/-- Tokens are found in step. -/
theorem steady_inline (name : Text) : Steady t (inline pair name) := by
  refine (steady_opening hp).seq fun next next' h cursor cursor' hbeside => ?_
  have hclosing := steady_closing (t := t) hp next next' h
  refine mirrors_star_longest (takes_step (Delimiters.closing_ne_nil hp))
    (advances_stepLength? _) (even_stepLength? (Delimiters.closing_unbroken hp))
    (fun closed closed' hclosed => hclosing _ _ (hbeside.capture hclosed name)) ?_ cursor cursor'
    hbeside
  exact fun closed rest hrest => balks_closing hp next' _ rest hrest

/-- No token begins between a carriage return and its line feed. -/
theorem inStep_inline (name : Text) : InStep t (inline pair name) where
  mirrors := steady_inline hp name _ _ (mirrors_some t)
  middle cursor rest _ hrest := balks_opening hp _ cursor rest hrest

end Inline

section Block

private theorem afterLineBreak?_crlf {u : Text} (hu : '\r' ∉ u) :
    afterLineBreak? (crlf u) = (afterLineBreak? u).map crlf := by
  cases u with
  | nil => rfl
  | cons c u =>
    by_cases hc : c = '\n'
    · rw [hc, crlf_lineFeed]
      rfl
    · have hreturn : c ≠ '\r' := fun h => hu (h ▸ List.mem_cons_self)
      have hnone (v : Text) : afterLineBreak? (c :: v) = none := by
        simp [afterLineBreak?, hc, hreturn]
      rw [crlf_cons hc, hnone, hnone]
      rfl

/-- In a text without carriage returns line breaks are found in step. -/
theorem steady_lineBreak (ht : '\r' ∉ t) : Steady t lineBreak := by
  intro next next' h cursor cursor' hbeside
  have hreturn : '\r' ∉ cursor.rest := by
    rw [hbeside.rest]
    exact fun hm => ht (List.mem_of_mem_drop hm)
  simp only [leaves_lineBreak cursor, leaves_lineBreak cursor', hbeside.rest_eq,
    afterLineBreak?_crlf hreturn]
  cases hafter : afterLineBreak? cursor.rest with
  | none => exact .none
  | some rest =>
    have hrest : cursor.rest = ['\n'] ++ rest := by
      refine (afterLineBreak?_eq_some_iff.mp hafter).resolve_left fun hrest => hreturn ?_
      rw [hrest]
      exact List.mem_cons_self
    have hskip := hbeside.skip (n := 1) (by rw [hrest]; exact Nat.le_add_left _ _)
    have hcrlf : cursor'.rest = ['\r', '\n'] ++ crlf rest := by
      rw [hbeside.rest_eq, hrest, crlf_append]
      rfl
    rw [Option.map_some, Option.bind_some, Option.bind_some, Cursor.skipTo_eq_skip _ hrest,
      Cursor.skipTo_eq_skip _ hcrlf]
    rw [hrest] at hskip
    exact h _ _ hskip

/-- White space up to a pattern that begins with no line feed is found in step. -/
theorem Steady.gap_seq {q : Pattern} (hq : Steady t q) (hbalks : ∀ next, Balks (q.run · next)) :
    Steady t (gap.seq q) := fun next next' h =>
  mirrors_star_longest (takes_one .space) (advances_one .space) even_space (hq next next' h)
    (hbalks next')

private theorem run_gap_literal_eq_none {piece : Text} {cursor later : Cursor}
    (hrest : later.rest = cursor.rest) (h : (gap.seq (literal piece)).run cursor some = none) :
    (gap.seq (literal piece)).run later some = none := by
  have hstops := (run_star_eq_none_iff (takes_one .space) (advances_one .space)).mp h
  refine (run_star_eq_none_iff (takes_one .space) (advances_one .space)).mpr fun n hn => ?_
  rw [hrest] at hn
  have hstop := hstops n hn
  rw [run_literal] at hstop ⊢
  rw [Cursor.rest_skip] at hstop ⊢
  rw [hrest]
  split at hstop
  · cases hstop
  · next hnot => rw [if_neg hnot]

/-- What stands behind the body of a block. -/
private def ending (closing : Text) : Pattern := lineBreak.seq (gap.seq (literal closing))

private theorem run_ending_eq_none {closing rest : Text} (cursor later : Cursor)
    (hrest : cursor.rest = '\r' :: '\n' :: rest) (hlater : later.rest = '\n' :: rest)
    (h : (ending closing).run cursor some = none) : (ending closing).run later some = none := by
  -- Both line breaks leave the same text, so the same white space and closing delimiter are sought.
  have hrun (cursor : Cursor) (first : Text) (hfirst : cursor.rest = first ++ rest)
      (hbreak : afterLineBreak? cursor.rest = some rest) :
      (ending closing).run cursor some =
        (gap.seq (literal closing)).run (cursor.skip first.length) some := by
    rw [ending, run, leaves_lineBreak, hbreak, Option.bind_some, Cursor.skipTo_eq_skip _ hfirst]
  rw [hrun cursor ['\r', '\n'] hrest (by rw [hrest]; rfl)] at h
  rw [hrun later ['\n'] hlater (by rw [hlater]; rfl)]
  refine run_gap_literal_eq_none ?_ h
  rw [Cursor.rest_skip, Cursor.rest_skip, hrest, hlater]
  rfl

variable {c : Char} (hp : Delimiters.pairFault? pair = none) (hc : pair.closing = [c])
include hp hc

private theorem mirrors_inside (ht : '\r' ∉ t) (name : Text) : Mirrors t
    ((Pattern.seq (group (some name) (star .shortest (step pair.closing)))
      (ending pair.closing)).run · some)
    ((Pattern.seq (group (some name) (star .shortest (step pair.closing)))
      (ending pair.closing)).run · some) := by
  intro cursor cursor' hbeside
  have hending : Steady t (ending pair.closing) :=
    (steady_lineBreak ht).seq (Steady.gap_seq (steady_closing hp) (balks_closing hp))
  refine mirrors_star (takes_step (Delimiters.closing_ne_nil hp)) (advances_stepLength? _)
    (even_stepLength? (Delimiters.closing_unbroken hp)) .shortest
    (fun closed closed' hclosed =>
      hending some some (mirrors_some t) _ _ (hbeside.capture hclosed name)) ?_ cursor cursor'
    hbeside
  intro closed x rest hrest hstride hfail
  -- The body goes on by single characters, so it could have ended before the carriage return.
  cases x with
  | nil =>
    have hmiddle : (closed.skip 1).rest = '\n' :: rest := by rw [Cursor.rest_skip, hrest]; rfl
    exact run_ending_eq_none (Cursor.capture name cursor' closed)
      (Cursor.capture name cursor' (closed.skip 1)) hrest hmiddle (hfail.resolve_left nofun)
  | cons d x =>
    rw [hc, hrest, List.cons_append, stepLength?] at hstride
    split at hstride
    · cases hstride
    · cases Option.some.inj hstride

/-- Blocks are found in step in a text without carriage returns. -/
theorem mirrors_block (ht : '\r' ∉ t) (name : Text) :
    Mirrors t ((block pair name).run · some) ((block pair name).run · some) := by
  have hinside := mirrors_inside hp hc ht name
  have hopening := steady_opening (t := t) hp _ _ (steady_lineBreak ht _ _ hinside)
  exact mirrors_star_longest (takes_one .space) (advances_one .space) even_space hopening
    (balks_opening hp _)

end Block

end Grammar

end Stencil
