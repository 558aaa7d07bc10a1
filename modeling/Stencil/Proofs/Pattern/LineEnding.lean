import Mathlib.Data.List.Forall2
import Stencil.Proofs.Pattern.Language
import Stencil.Proofs.Text.LineEnding

/-!
# Matching and line endings

A pattern runs over a text and over the same text with its line endings written out. Both runs are
in step as long as no place between a carriage return and its line feed lets a match go on: a
repetition comes to such places, and its other stops are beside those in the text. Where they fail,
a repetition that is in step with its continuation finds the same, and so do all patterns made of
such pieces.
-/

namespace Stencil

open Text

namespace Cursor

/-- The character before a place is the last one stepped over. -/
theorem previous_skip (n : Nat) (cursor : Cursor) :
    (cursor.skip n).previous = (cursor.rest.take n).getLast?.or cursor.previous := by
  induction n generalizing cursor with
  | zero => rfl
  | succ n ih =>
    cases h : cursor.rest with
    | nil => rw [skip_of_rest_nil h]; rfl
    | cons c rest =>
      rw [skip_succ h, ih, List.take_succ_cons, List.getLast?_cons, rest_step]
      cases (rest.take n).getLast? <;> rfl

/-- Two places, one in a text and one in its `crlf` form, with the same characters before them and
behind them; the same was noted on the way to them. -/
structure Beside (t : Text) (cursor cursor' : Cursor) : Prop where
  position_le : cursor.position ≤ t.length
  rest : cursor.rest = t.drop cursor.position
  position_eq : cursor'.position = crlfPosition t cursor.position
  rest_eq : cursor'.rest = crlf cursor.rest
  previous_eq : cursor'.previous = cursor.previous
  notes_eq : cursor'.notes = cursor.notes.map fun note => (note.1, crlf note.2)

variable {t : Text} {cursor cursor' opened opened' closed closed' : Cursor}

/-- Places stay beside each other when a text and its `crlf` form are stepped over. -/
theorem Beside.skip (h : Beside t cursor cursor') {n : Nat} (hn : n ≤ cursor.rest.length) :
    Beside t (cursor.skip n) (cursor'.skip (crlf (cursor.rest.take n)).length) := by
  have hposition := position_skip hn
  have hle : (crlf (cursor.rest.take n)).length ≤ cursor'.rest.length := by
    rw [h.rest_eq]
    conv_rhs => rw [← List.take_append_drop n cursor.rest, crlf_append]
    rw [List.length_append]
    omega
  have hlength : cursor.rest.length = t.length - cursor.position := by
    rw [h.rest, List.length_drop]
  refine ⟨?_, ?_, ?_, ?_, ?_, ?_⟩
  · have hposition_le := h.position_le
    omega
  · rw [rest_skip, h.rest, hposition, List.drop_drop]
  · rw [position_skip hle, hposition, h.position_eq, crlfPosition_add, ← h.rest]
  · rw [rest_skip, rest_skip, h.rest_eq]
    exact drop_crlf _ _
  · have htake : cursor'.rest.take (crlf (cursor.rest.take n)).length =
        crlf (cursor.rest.take n) := by
      rw [h.rest_eq]
      conv_lhs => rw [← List.take_append_drop n cursor.rest, crlf_append]
      rw [List.take_append_drop, List.take_left]
    rw [previous_skip, previous_skip, htake, getLast?_crlf, h.previous_eq]
  · rw [notes, notes, captured_skip, captured_skip]
    exact h.notes_eq

/-- Groups that open and close beside each other take the same text. -/
theorem Beside.capture (h : Beside t opened opened') (h' : Beside t closed closed')
    (name : Text) :
    Beside t (Cursor.capture name opened closed) (Cursor.capture name opened' closed') where
  position_le := h'.position_le
  rest := h'.rest
  position_eq := h'.position_eq
  rest_eq := h'.rest_eq
  previous_eq := h'.previous_eq
  notes_eq := by
    have htext : (⟨name, opened'.rest, closed'.position - opened'.position⟩ : Captured).text =
        crlf (⟨name, opened.rest, closed.position - opened.position⟩ : Captured).text := by
      rw [Captured.text, Captured.text, h.rest_eq, h'.position_eq, h.position_eq, h.rest,
        take_crlf_drop]
    have hnotes := h'.notes_eq
    simp only [notes, Cursor.capture, List.map_cons, htext] at hnotes ⊢
    rw [hnotes]

end Cursor

/-- Two matches, one in a text and one in its `crlf` form, of the same text and with the same notes.
-/
structure Match.Beside (t : Text) (m m' : Match) : Prop where
  stop_le : m.stop ≤ t.length
  start_eq : m'.start = crlfPosition t m.start
  stop_eq : m'.stop = crlfPosition t m.stop
  notes_eq : (m'.captured.map fun c => (c.name, c.text)) =
    (m.captured.map fun c => (c.name, c.text)).map fun note => (note.1, crlf note.2)

namespace Match.Beside

variable {t : Text} {m m' : Match}

/-- What a group has taken, if anything, it has taken in its `crlf` form. -/
theorem group?_eq (h : Match.Beside t m m') (name : Text) :
    m'.group? name = (m.group? name).map crlf := by
  rw [group?_eq_find? h.notes_eq, group?_eq_find? rfl, List.find?_map, Option.map_map,
    Option.map_map]
  rfl

/-- What a group has taken, it has taken in its `crlf` form. -/
theorem group_eq (h : Match.Beside t m m') (name : Text) :
    m'.group name = crlf (m.group name) := by
  rw [group, group, h.group?_eq]
  cases m.group? name <;> rfl

end Match.Beside

namespace Pattern

open Cursor

/-- Two ways that find related results do so together. -/
theorem rel_or {α β : Type} {r : α → β → Prop} {a b : Option α} {a' b' : Option β}
    (h : Option.Rel r a a') (h' : Option.Rel r b b') : Option.Rel r (a.or b) (a'.or b') := by
  cases h with
  | some h => exact .some h
  | none => exact h'

/-- A choice between related ways finds related places. -/
theorem rel_pick {r : Cursor → Cursor → Prop} {more more' done done' : Option Cursor}
    (preference : Preference) (hmore : Option.Rel r more more') (hdone : Option.Rel r done done') :
    Option.Rel r (preference.pick more done) (preference.pick more' done') := by
  cases preference with
  | longest => exact rel_or hmore hdone
  | shortest => exact rel_or hdone hmore

/-- Continuations that find the same from places beside each other. -/
def Mirrors (t : Text) (next next' : Cursor → Option Cursor) : Prop :=
  ∀ cursor cursor', Beside t cursor cursor' →
    Option.Rel (Beside t) (next cursor) (next' cursor')

/-- A pattern runs in step whenever its continuations do. -/
def Steady (t : Text) (p : Pattern) : Prop :=
  ∀ next next', Mirrors t next next' → Mirrors t (p.run · next) (p.run · next')

variable {t : Text} {p q : Pattern} {next next' : Cursor → Option Cursor}

/-- Stopping finds places beside each other. -/
theorem mirrors_some (t : Text) : Mirrors t some some := fun _ _ h => .some h

/-- One pattern after another runs in step if both do. -/
theorem Steady.seq (hp : Steady t p) (hq : Steady t q) : Steady t (p.seq q) :=
  fun next next' h => hp _ _ (hq next next' h)

/-- A group without a name runs in step if what is in it does. -/
theorem Steady.group (hp : Steady t p) : Steady t (group none p) := hp

/-- A named group runs in step if what is in it does. -/
theorem Steady.named (hp : Steady t p) (name : Text) : Steady t (Pattern.group (some name) p) :=
  fun _ _ h cursor cursor' hbeside =>
    hp _ _ (fun _ _ hclosed => h _ _ (hbeside.capture hclosed name)) cursor cursor' hbeside

/-- An optional pattern runs in step if it does without the option. -/
theorem Steady.optional (hp : Steady t p) (preference : Preference) :
    Steady t (optional preference p) := by
  intro next next' h cursor cursor' hbeside
  have hmore := hp next next' h cursor cursor' hbeside
  have hdone := h cursor cursor' hbeside
  cases preference with
  | longest => exact rel_pick .longest hmore hdone
  | shortest => exact rel_pick .shortest hmore hdone

/-- At the start of a line begins the same line. -/
theorem steady_lineStart (t : Text) : Steady t (boundary .lineStart) := by
  intro next next' h cursor cursor' hbeside
  have hholds : Boundary.lineStart.holds cursor'.previous cursor'.rest.head? =
      Boundary.lineStart.holds cursor.previous cursor.rest.head? := by
    rw [hbeside.previous_eq]
    rfl
  simp only [run, hholds]
  split
  · exact h cursor cursor' hbeside
  · exact .none

/-- Text without line endings is found in step. -/
theorem steady_literal {piece : Text} (hfeed : '\n' ∉ piece)
    (hreturn : piece.getLast? ≠ some '\r') : Steady t (literal piece) := by
  intro next next' h cursor cursor' hbeside
  have hprefix : piece <+: cursor'.rest ↔ piece <+: cursor.rest := by
    rw [hbeside.rest_eq, prefix_crlf_iff hfeed hreturn]
  simp only [run_literal, hprefix]
  split
  · next hpiece =>
    have hskip := hbeside.skip hpiece.length_le
    rw [← List.prefix_iff_eq_take.mp hpiece, crlf_eq_self hfeed] at hskip
    exact h _ _ hskip
  · exact .none

/-! ## Repetition -/

/-- Strides that take line endings as they take line feeds: at their end only, and then by one more
stride. -/
structure Even (stride : Text → Option Nat) : Prop where
  crlf_eq : ∀ u, stride (crlf u) = stride u
  last : ∀ u n, stride u = some n → ∃ x d, u.take n = x ++ [d] ∧ '\n' ∉ x ∧
    (d = '\n' → ∀ v, stride ('\n' :: v) = some 1)

/-- A set that holds both characters of a line ending or none takes line endings as it takes line
feeds. -/
theorem even_one {set : CharSet} (h : set.accepts '\r' = set.accepts '\n') :
    Even (strideOne set) where
  crlf_eq u := by
    cases u with
    | nil => rfl
    | cons c u =>
      by_cases hc : c = '\n'
      · rw [hc, crlf_lineFeed, strideOne, strideOne, h]
      · rw [crlf_cons hc, strideOne, strideOne]
  last u n hn := by
    cases u with
    | nil => cases hn
    | cons c u =>
      simp only [strideOne, Option.ite_none_right_eq_some, Option.some.injEq] at hn
      obtain ⟨hc, rfl⟩ := hn
      refine ⟨[], c, rfl, List.not_mem_nil, ?_⟩
      rintro rfl v
      rw [strideOne, if_pos hc]

variable {stride : Text → Option Nat}

private theorem run_star_broken (hp : Takes p stride) (ha : Advances stride)
    (preference : Preference) {cursor : Cursor} {x rest : Text}
    (hrest : cursor.rest = x ++ '\r' :: '\n' :: rest) (hone : stride ('\n' :: rest) = some 1)
    (next : Cursor → Option Cursor) :
    (star preference p).run (cursor.skip (x.length + 1)) next =
      preference.pick ((star preference p).run (cursor.skip (x.length + 2)) next)
        (next (cursor.skip (x.length + 1))) := by
  -- The line feed is all that the next round can take here.
  have hfeed : (cursor.skip (x.length + 1)).rest = '\n' :: rest := by
    rw [rest_skip, hrest, List.drop_length_add_append]
    rfl
  rw [run_star hp ha, hfeed, hone, Option.bind_some, skip_skip]

/-- A repetition runs in step if its continuation fails between a carriage return and its line feed;
one that prefers few rounds may rely on its failing before the round that ends there. -/
theorem mirrors_star (hp : Takes p stride) (ha : Advances stride) (hs : Even stride)
    (preference : Preference) (hnext : Mirrors t next next')
    (hmiddle : ∀ cursor' x rest, cursor'.rest = x ++ '\r' :: '\n' :: rest →
      stride cursor'.rest = some (x.length + 1) → preference = .longest ∨ next' cursor' = none →
        next' (cursor'.skip (x.length + 1)) = none) :
    Mirrors t ((star preference p).run · next) ((star preference p).run · next') := by
  intro cursor cursor' hbeside
  simp only
  induction hl : cursor.rest.length using Nat.strongRecOn generalizing cursor cursor' with
  | _ length ih =>
    have hsame : stride cursor'.rest = stride cursor.rest := by rw [hbeside.rest_eq, hs.crlf_eq]
    have hdone := hnext cursor cursor' hbeside
    rw [run_star hp ha preference cursor, run_star hp ha preference cursor', hsame]
    cases hstride : stride cursor.rest with
    | none => simpa only [Option.bind_none, Preference.pick_none] using hdone
    | some n =>
      obtain ⟨hpos, hn⟩ := ha _ _ hstride
      obtain ⟨x, d, hx, hfeed, hone⟩ := hs.last _ _ hstride
      obtain rfl : n = x.length + 1 := by
        have htake := congrArg List.length hx
        rwa [List.length_take_of_le hn, List.length_append] at htake
      have hskip := hbeside.skip hn
      have hless : (cursor.skip (x.length + 1)).rest.length < length := by
        rw [rest_skip, List.length_drop]
        omega
      simp only [Option.bind_some]
      by_cases hd : d = '\n'
      · -- In the longer text the round ends before the line feed, which takes one more.
        have hcrlf : crlf (cursor.rest.take (x.length + 1)) = x ++ ['\r', '\n'] := by
          rw [hx, hd, crlf_append, crlf_eq_self hfeed, crlf_lineFeed, crlf_nil]
        have hrest : cursor'.rest =
            x ++ '\r' :: '\n' :: crlf (cursor.rest.drop (x.length + 1)) := by
          rw [hbeside.rest_eq]
          conv_lhs => rw [← List.take_append_drop (x.length + 1) cursor.rest, crlf_append, hcrlf]
          rw [List.append_assoc]
          rfl
        have hround := run_star_broken hp ha preference hrest (hone hd _) next'
        have hlong : (crlf (cursor.rest.take (x.length + 1))).length = x.length + 2 := by
          rw [hcrlf, List.length_append]
          rfl
        have hmore := ih _ hless _ _ hskip rfl
        have hfail := hmiddle cursor' x _ hrest (hsame.trans hstride)
        rw [hlong] at hmore
        rw [hround]
        cases preference with
        | longest =>
          rw [hfail (.inl rfl)]
          simp only [Preference.pick, Option.or_none]
          exact rel_or hmore hdone
        | shortest =>
          simp only [Preference.pick]
          generalize next cursor = found at hdone
          generalize hfound : next' cursor' = found' at hdone hfail
          cases hdone with
          | some h => exact .some h
          | none =>
            rw [hfail (.inr rfl)]
            exact hmore
      · have htake : '\n' ∉ cursor.rest.take (x.length + 1) := by
          rw [hx, List.mem_append, List.mem_singleton, not_or]
          exact ⟨hfeed, Ne.symm hd⟩
        rw [crlf_eq_self htake, List.length_take_of_le hn] at hskip
        have hmore := ih _ hless _ _ hskip rfl
        exact rel_pick preference hmore hdone

/-- Where the next character is a line feed, the continuation fails. -/
def Balks (next : Cursor → Option Cursor) : Prop :=
  ∀ cursor rest, cursor.rest = '\n' :: rest → next cursor = none

/-- A repetition that prefers many rounds runs in step with a continuation that never begins with a
line feed. -/
theorem mirrors_star_longest (hp : Takes p stride) (ha : Advances stride) (hs : Even stride)
    (hnext : Mirrors t next next') (hbalks : Balks next') :
    Mirrors t ((star .longest p).run · next) ((star .longest p).run · next') := by
  refine mirrors_star hp ha hs .longest hnext fun cursor' x rest hrest _ _ => hbalks _ rest ?_
  rw [rest_skip, hrest, List.drop_length_add_append]
  rfl

/-- A repetition of characters that are no line endings runs in step. -/
theorem steady_star_one {set : CharSet} (hreturn : set.accepts '\r' = false)
    (hfeed : set.accepts '\n' = false) (preference : Preference) :
    Steady t (star preference (one set)) := by
  intro next next' h
  refine mirrors_star (takes_one set) (advances_one set) (even_one (hreturn.trans hfeed.symm))
    preference h fun cursor' x rest hrest hstride _ => ?_
  cases x with
  | nil =>
    rw [hrest, List.nil_append, strideOne, hreturn] at hstride
    cases hstride
  | cons c x =>
    rw [hrest, List.cons_append, strideOne, Option.ite_none_right_eq_some] at hstride
    cases Option.some.inj hstride.2

/-- Text that begins with no line feed is not found at one. -/
theorem balks_literal {piece : Text} (hne : piece ≠ []) (hfeed : '\n' ∉ piece)
    (next : Cursor → Option Cursor) : Balks ((literal piece).run · next) := by
  intro cursor rest hrest
  obtain ⟨c, more, rfl⟩ := List.exists_cons_of_ne_nil hne
  simp only [run_literal, hrest]
  refine if_neg ?_
  exact fun h => hfeed ((List.cons_prefix_cons.mp h).1 ▸ List.mem_cons_self)

/-! ## Occurrences -/

private theorem rel_matchAfter? (hp : Mirrors t (p.run · some) (p.run · some))
    {last : Option Nat} (hlast : ∀ stop ∈ last, stop ≤ t.length) {position : Nat}
    (hposition : position ≤ t.length) (previous : Option Char) {u : Text}
    (hu : u = t.drop position) :
    Option.Rel (Match.Beside t) (p.matchAfter? last ⟨position, previous, u, []⟩)
      (p.matchAfter? (last.map (crlfPosition t))
        ⟨crlfPosition t position, previous, crlf u, []⟩) := by
  have hbehind : (last.map (crlfPosition t)).all (· ≤ crlfPosition t position) =
      last.all (· ≤ position) := by
    cases last with
    | none => rfl
    | some stop =>
      simp only [Option.map_some, Option.all_some,
        crlfPosition_le_iff (hlast stop rfl) hposition]
  have hfollow (later later' : Cursor) (h : Beside t later later') :
      (⟨crlfPosition t position, later'.position, later'.captured⟩ : Match).mayFollow
        (last.map (crlfPosition t)) =
      (⟨position, later.position, later.captured⟩ : Match).mayFollow last := by
    cases last with
    | none => rfl
    | some stop =>
      simp only [Option.map_some, Match.mayFollow, h.position_eq,
        crlfPosition_le_iff (hlast stop rfl) hposition, Bool.beq_eq_decide_eq,
        crlfPosition_inj hposition h.position_le,
        crlfPosition_inj h.position_le (hlast stop rfl)]
  have hmatch : Option.Rel (Cursor.Beside t) (p.matchAt? ⟨position, previous, u, []⟩)
      (p.matchAt? ⟨crlfPosition t position, previous, crlf u, []⟩) :=
    hp _ _ ⟨hposition, hu, rfl, rfl, rfl, rfl⟩
  simp only [matchAfter?, hbehind]
  generalize p.matchAt? ⟨position, previous, u, []⟩ = found at hmatch ⊢
  generalize p.matchAt? ⟨crlfPosition t position, previous, crlf u, []⟩ = found' at hmatch ⊢
  split
  · cases hmatch with
    | none => exact .none
    | @some later later' hlater =>
      simp only [hfollow later later' hlater]
      split
      · exact .some ⟨hlater.position_le, rfl, hlater.position_eq, hlater.notes_eq⟩
      · exact .none
  · exact .none

/-- What makes the matches of a text those of its `crlf` form: a pattern runs in step, and it
matches nowhere between a carriage return and its line feed. -/
structure InStep (t : Text) (p : Pattern) : Prop where
  mirrors : Mirrors t (p.run · some) (p.run · some)
  middle : ∀ cursor rest, cursor.previous = some '\r' → cursor.rest = '\n' :: rest →
    p.run cursor some = none

private theorem InStep.matchesFrom_middle (hp : InStep t p) (last : Option Nat) (position : Nat)
    (rest : Text) : p.matchesFrom last position (some '\r') ('\n' :: rest) =
      p.matchesFrom last (position + 1) (some '\n') rest := by
  have hnone : p.matchAfter? last ⟨position, some '\r', '\n' :: rest, []⟩ = none := by
    have hmatch : p.matchAt? ⟨position, some '\r', '\n' :: rest, []⟩ = none :=
      hp.middle _ rest rfl rfl
    simp only [matchAfter?, hmatch, ite_self]
  rw [matchesFrom, hnone]

private theorem InStep.forall₂_matchesFrom (hp : InStep t p) {last : Option Nat}
    (hlast : ∀ stop ∈ last, stop ≤ t.length) {position : Nat} (hposition : position ≤ t.length)
    (previous : Option Char) {u : Text} (hu : u = t.drop position) :
    List.Forall₂ (Match.Beside t) (p.matchesFrom last position previous u)
      (p.matchesFrom (last.map (crlfPosition t)) (crlfPosition t position) previous (crlf u)) := by
  induction u generalizing last position previous with
  | nil =>
    have hfirst := rel_matchAfter? hp.mirrors hlast hposition previous hu
    rw [crlf_nil] at hfirst ⊢
    rw [matchesFrom, matchesFrom]
    generalize p.matchAfter? last ⟨position, previous, [], []⟩ = found at hfirst ⊢
    generalize p.matchAfter? (last.map (crlfPosition t))
      ⟨crlfPosition t position, previous, [], []⟩ = found' at hfirst ⊢
    cases hfirst with
    | none => exact .nil
    | some h => exact .cons h .nil
  | cons c u ih =>
    have hfirst := rel_matchAfter? hp.mirrors hlast hposition previous hu
    have hlength : position + 1 ≤ t.length := by
      have hlength := congrArg List.length hu
      rw [List.length_cons, List.length_drop] at hlength
      omega
    have hdrop : u = t.drop (position + 1) := by
      rw [← List.drop_drop, ← hu, List.drop_succ_cons, List.drop_zero]
    have hplace : crlfPosition t (position + 1) = crlfPosition t position + (crlf [c]).length := by
      rw [crlfPosition_add, ← hu, List.take_succ_cons, List.take_zero]
    obtain ⟨d, v, hcrlf, hlater⟩ : ∃ d v, crlf (c :: u) = d :: v ∧
        ∀ last : Option Nat, (∀ stop ∈ last, stop ≤ t.length) →
          List.Forall₂ (Match.Beside t) (p.matchesFrom last (position + 1) (some c) u)
            (p.matchesFrom (last.map (crlfPosition t)) (crlfPosition t position + 1) (some d)
              v) := by
      have ih (last : Option Nat) (hlast : ∀ stop ∈ last, stop ≤ t.length) :=
        ih hlast hlength (some c) hdrop
      rw [hplace] at ih
      by_cases hc : c = '\n'
      · refine ⟨'\r', '\n' :: crlf u, by rw [hc, crlf_lineFeed], fun last hlast => ?_⟩
        rw [hp.matchesFrom_middle, hc]
        rw [hc] at ih
        exact ih last hlast
      · refine ⟨c, crlf u, crlf_cons hc u, fun last hlast => ?_⟩
        rw [crlf_cons hc] at ih
        exact ih last hlast
    rw [hcrlf] at hfirst ⊢
    rw [matchesFrom, matchesFrom]
    generalize p.matchAfter? last ⟨position, previous, c :: u, []⟩ = found at hfirst ⊢
    generalize p.matchAfter? (last.map (crlfPosition t))
      ⟨crlfPosition t position, previous, d :: v, []⟩ = found' at hfirst ⊢
    cases hfirst with
    | none => exact hlater last hlast
    | @some m m' h =>
      refine .cons h ?_
      have hmore := hlater (some m.stop) fun stop hstop => Option.some.inj hstop ▸ h.stop_le
      rwa [Option.map_some, ← h.stop_eq] at hmore

/-- Both texts have the same matches. -/
theorem InStep.forall₂_occurrences (hp : InStep t p) :
    List.Forall₂ (Match.Beside t) (p.occurrences t) (p.occurrences (crlf t)) :=
  hp.forall₂_matchesFrom (fun stop h => absurd h (Option.not_mem_none stop)) (Nat.zero_le _) none
    rfl

end Pattern

end Stencil
