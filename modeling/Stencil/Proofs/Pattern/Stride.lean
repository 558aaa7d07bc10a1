import Mathlib.Data.List.Basic
import Stencil.Pattern.Match

/-!
# Strides

Most pieces of the token and loop grammars match in one way or not at all: how many characters they
take is a function of the text ahead. Such a piece is replaced by that function wherever it stands
in a pattern. A repetition of it leads from one stop to the next; which stop is chosen depends only
on what follows, so a repetition whose continuation needs the last stop goes there whatever its
preference, and one that prefers few rounds goes to the first stop that its continuation accepts.
-/

namespace Stencil

/-- The set of one character accepts that character. -/
@[simp] theorem CharSet.accepts_only (c d : Char) : (only c).accepts d = (d == c) := rfl

/-- The set of all but one character accepts the others. -/
@[simp] theorem CharSet.accepts_except (c d : Char) : (except c).accepts d = (d != c) := rfl

namespace Cursor

/-- Step over the next characters, as far as there are any. -/
def skip : Nat → Cursor → Cursor
  | 0, cursor => cursor
  | n + 1, cursor =>
    match cursor.rest with
    | [] => cursor
    | c :: rest => skip n (cursor.step c rest)

@[simp] theorem skip_zero (cursor : Cursor) : cursor.skip 0 = cursor := rfl

/-- Behind a step is the rest. -/
@[simp] theorem rest_step (cursor : Cursor) (c : Char) (rest : Text) :
    (cursor.step c rest).rest = rest := rfl

/-- Stepping over characters begins with a step over the first. -/
theorem skip_succ {cursor : Cursor} {c : Char} {rest : Text} (h : cursor.rest = c :: rest)
    (n : Nat) : cursor.skip (n + 1) = (cursor.step c rest).skip n := by
  simp only [skip, h]

/-- At the end of the text nothing is stepped over. -/
theorem skip_of_rest_nil {cursor : Cursor} (h : cursor.rest = []) (n : Nat) :
    cursor.skip n = cursor := by
  cases n with
  | zero => rfl
  | succ n => simp only [skip, h]

/-- What is ahead after stepping over characters is the text without them. -/
@[simp] theorem rest_skip (n : Nat) (cursor : Cursor) :
    (cursor.skip n).rest = cursor.rest.drop n := by
  induction n generalizing cursor with
  | zero => rfl
  | succ n ih =>
    cases h : cursor.rest with
    | nil => rw [skip_of_rest_nil h, h, List.drop_nil]
    | cons c rest => rw [skip_succ h, ih, rest_step, List.drop_succ_cons]

/-- Stepping over some characters and then more is stepping over all of them. -/
theorem skip_skip (m n : Nat) (cursor : Cursor) :
    (cursor.skip m).skip n = cursor.skip (m + n) := by
  induction m generalizing cursor with
  | zero => rw [skip_zero, Nat.zero_add]
  | succ m ih =>
    cases h : cursor.rest with
    | nil => rw [skip_of_rest_nil h, skip_of_rest_nil h, skip_of_rest_nil h]
    | cons c rest => rw [skip_succ h, ih, Nat.add_right_comm, skip_succ h]

/-- Every character that is stepped over counts as one. -/
theorem position_skip {n : Nat} {cursor : Cursor} (h : n ≤ cursor.rest.length) :
    (cursor.skip n).position = cursor.position + n := by
  induction n generalizing cursor with
  | zero => rfl
  | succ n ih =>
    cases hr : cursor.rest with
    | nil => rw [hr, List.length_nil] at h; omega
    | cons c rest =>
      rw [skip_succ hr, ih (by rw [hr, List.length_cons] at h; exact Nat.le_of_succ_le_succ h)]
      simp only [step]
      omega

/-- Stepping over characters notes nothing. -/
@[simp] theorem captured_skip (n : Nat) (cursor : Cursor) :
    (cursor.skip n).captured = cursor.captured := by
  induction n generalizing cursor with
  | zero => rfl
  | succ n ih =>
    cases h : cursor.rest with
    | nil => rw [skip_of_rest_nil h]
    | cons c rest => rw [skip_succ h, ih]; rfl

/-- Note that a group took some characters of a source. -/
def note (name source : Text) (size : Nat) (cursor : Cursor) : Cursor :=
  { cursor with captured := ⟨name, source, size⟩ :: cursor.captured }

/-- A note leaves the text ahead. -/
@[simp] theorem rest_note (name source : Text) (size : Nat) (cursor : Cursor) :
    (cursor.note name source size).rest = cursor.rest := rfl

/-- A note leaves the position. -/
@[simp] theorem position_note (name source : Text) (size : Nat) (cursor : Cursor) :
    (cursor.note name source size).position = cursor.position := rfl

/-- A note stands before those made earlier. -/
@[simp] theorem captured_note (name source : Text) (size : Nat) (cursor : Cursor) :
    (cursor.note name source size).captured = ⟨name, source, size⟩ :: cursor.captured := rfl

/-- What was noted stays noted on the way. -/
@[simp] theorem skip_note (n : Nat) (name source : Text) (size : Nat) (cursor : Cursor) :
    (cursor.note name source size).skip n = (cursor.skip n).note name source size := by
  induction n generalizing cursor with
  | zero => rfl
  | succ n ih =>
    cases h : cursor.rest with
    | nil => rw [skip_of_rest_nil h, skip_of_rest_nil (by rw [rest_note, h])]
    | cons c rest =>
      rw [skip_succ h, skip_succ (by rw [rest_note, h])]
      exact ih (cursor.step c rest)

/-- A group that took the next characters has captured them. -/
theorem capture_skip {n : Nat} {cursor : Cursor} (h : n ≤ cursor.rest.length) (name : Text) :
    capture name cursor (cursor.skip n) = (cursor.skip n).note name cursor.rest n := by
  have hsize : (cursor.skip n).position - cursor.position = n := by
    rw [position_skip h, Nat.add_sub_cancel_left]
  simp only [capture, note, hsize]

end Cursor

/-- What a repetition makes of its two ways on: one more round, or none. -/
def Preference.pick : Preference → (more done : Option Cursor) → Option Cursor
  | .longest, more, done => more.or done
  | .shortest, more, done => done.or more

/-- Where one more round fails, the repetition is done. -/
@[simp] theorem Preference.pick_none (preference : Preference) (done : Option Cursor) :
    preference.pick none done = done := by
  cases preference with
  | longest => rfl
  | shortest => exact Option.or_none

namespace Pattern

/-- A pattern takes what a function says: that many characters of the text ahead, or it fails. -/
def Takes (p : Pattern) (stride : Text → Option Nat) : Prop :=
  ∀ cursor next, p.run cursor next = (stride cursor.rest).bind fun n => next (cursor.skip n)

/-- Every stride takes at least one character and stays inside the text. -/
def Advances (stride : Text → Option Nat) : Prop :=
  ∀ t n, stride t = some n → 0 < n ∧ n ≤ t.length

/-- One character of a set. -/
def strideOne (set : CharSet) : Text → Option Nat
  | [] => none
  | c :: _ => if set.accepts c then some 1 else none

/-- A set takes one character that it accepts. -/
theorem takes_one (set : CharSet) : Takes (one set) (strideOne set) := by
  intro cursor next
  cases h : cursor.rest with
  | nil => simp only [run, h, strideOne, Option.bind_none]
  | cons c rest =>
    by_cases hc : set.accepts c = true
    · simp only [run, h, strideOne, hc, ite_true, Option.bind_some, Cursor.skip]
    · simp only [run, h, strideOne, hc, Bool.false_eq_true, ite_false, Option.bind_none]

/-- A set takes at least one character. -/
theorem advances_one (set : CharSet) : Advances (strideOne set) := by
  intro t n h
  cases t with
  | nil => simp [strideOne] at h
  | cons c rest =>
    simp only [strideOne, Option.ite_none_right_eq_some, Option.some.injEq] at h
    simp only [List.length_cons]
    omega

/-- A literal takes its own length where the text ahead begins with it. -/
theorem run_literal (t : Text) (cursor : Cursor) (next : Cursor → Option Cursor) :
    (literal t).run cursor next =
      if t <+: cursor.rest then next (cursor.skip t.length) else none := by
  induction t generalizing cursor with
  | nil => simp [literal, run]
  | cons c t ih =>
    cases h : cursor.rest with
    | nil => cases t <;> simp [literal, run, h]
    | cons d rest =>
      by_cases hd : d = c
      · subst d
        cases t with
        | nil => simp [literal, run, h, Cursor.skip]
        | cons e t =>
          have ih := ih (cursor.step c rest)
          simp only [Cursor.rest_step] at ih
          by_cases hp : e :: t <+: rest
          · simp [literal, run, h, ih, hp, Cursor.skip_succ h]
          · simp [literal, run, h, ih, hp]
      · have hc : ¬ c = d := fun he => hd he.symm
        cases t <;> simp [literal, run, h, hd, hc]

/-- Strides lead to a stop: some of them, one after another, take just that many characters. -/
inductive Leads (stride : Text → Option Nat) : Text → Nat → Prop
  /-- Every repetition may stop before its first round. -/
  | stop (t : Text) : Leads stride t 0
  /-- A round leads from a stop to the next. -/
  | round {t : Text} {m n : Nat} : stride t = some m → Leads stride (t.drop m) n →
      Leads stride t (m + n)

variable {stride : Text → Option Nat}

/-- Strides stay inside the text. -/
theorem Leads.le_length (ha : Advances stride) {t : Text} {n : Nat} (h : Leads stride t n) :
    n ≤ t.length := by
  induction h with
  | stop t => exact Nat.zero_le _
  | @round t m n hm _ ih =>
    have hb := (ha t m hm).2
    rw [List.length_drop] at ih
    omega

/-- Strides lead on until one fails. -/
theorem exists_leads_last (ha : Advances stride) (t : Text) :
    ∃ n, Leads stride t n ∧ stride (t.drop n) = none := by
  induction hl : t.length using Nat.strongRecOn generalizing t with
  | _ length ih =>
    cases hs : stride t with
    | none => exact ⟨0, .stop t, by rw [List.drop_zero, hs]⟩
    | some m =>
      have hm := ha t m hs
      obtain ⟨n, hn, hlast⟩ := ih (t.drop m).length (by rw [List.length_drop]; omega) _ rfl
      exact ⟨m + n, .round hs hn, by rw [← List.drop_drop, hlast]⟩

/-! ## Repetition -/

variable {p : Pattern} {cursor : Cursor} {next : Cursor → Option Cursor}

/-- The rounds of a repetition. -/
private def rounds (preference : Preference) (p : Pattern) :
    Nat → Cursor → (Cursor → Option Cursor) → Option Cursor :=
  match preference with
  | .longest => runLongest p.run
  | .shortest => runShortest p.run

private theorem rounds_eq (hp : Takes p stride) (ha : Advances stride) (preference : Preference)
    (fuel : Nat) (cursor : Cursor) (hf : cursor.rest.length ≤ fuel) :
    rounds preference p fuel cursor next = preference.pick ((stride cursor.rest).bind fun n =>
      rounds preference p (fuel - 1) (cursor.skip n) next) (next cursor) := by
  cases hs : stride cursor.rest with
  | none =>
    cases fuel with
    | zero => cases preference <;> simp [rounds, runLongest, runShortest]
    | succ fuel => cases preference <;> simp [rounds, runLongest, runShortest, hp cursor, hs]
  | some n =>
    have hn := ha _ _ hs
    cases fuel with
    | zero => omega
    | succ fuel =>
      have hpos : cursor.position < (cursor.skip n).position := by
        rw [Cursor.position_skip hn.2]
        omega
      cases preference <;>
        simp [rounds, Preference.pick, runLongest, runShortest, hp cursor, hs, hpos]

private theorem rounds_fuel (hp : Takes p stride) (ha : Advances stride)
    (preference : Preference) (fuel : Nat) :
    ∀ (fuel' : Nat) (cursor : Cursor), cursor.rest.length ≤ fuel → cursor.rest.length ≤ fuel' →
      rounds preference p fuel cursor next = rounds preference p fuel' cursor next := by
  -- Each round takes a character at least, so the text ahead bounds the rounds.
  induction fuel with
  | zero =>
    intro fuel' cursor h h'
    have hs : stride cursor.rest = none := by
      cases hs : stride cursor.rest with
      | none => rfl
      | some n => have hn := ha _ _ hs; omega
    rw [rounds_eq hp ha _ 0 cursor h, rounds_eq hp ha _ fuel' cursor h', hs]
    rfl
  | succ fuel ih =>
    intro fuel' cursor h h'
    rw [rounds_eq hp ha _ _ cursor h, rounds_eq hp ha _ fuel' cursor h']
    cases hs : stride cursor.rest with
    | none => rfl
    | some n =>
      have hn := ha _ _ hs
      have hl : (cursor.skip n).rest.length = cursor.rest.length - n := by
        rw [Cursor.rest_skip, List.length_drop]
      simp only [Option.bind_some, Nat.add_sub_cancel]
      rw [ih (fuel' - 1) (cursor.skip n) (by omega) (by omega)]

/-- A repetition takes one more round or goes on, whichever it prefers and else the other. -/
theorem run_star (hp : Takes p stride) (ha : Advances stride) (preference : Preference)
    (cursor : Cursor) (next : Cursor → Option Cursor) :
    (star preference p).run cursor next = preference.pick ((stride cursor.rest).bind fun n =>
      (star preference p).run (cursor.skip n) next) (next cursor) := by
  have hrun (cursor : Cursor) : (star preference p).run cursor next =
      rounds preference p cursor.rest.length cursor next := by
    cases preference <;> rfl
  rw [hrun, rounds_eq hp ha _ _ cursor (Nat.le_refl _)]
  cases hs : stride cursor.rest with
  | none => rfl
  | some n =>
    have hn := ha _ _ hs
    simp only [Option.bind_some, hrun]
    rw [rounds_fuel hp ha _ _ (cursor.skip n).rest.length (cursor.skip n)]
    · rw [Cursor.rest_skip, List.length_drop]
      omega
    · exact Nat.le_refl _

/-- If what follows fails wherever a stride is possible, a repetition stops where none is. -/
theorem run_star_of_last (hp : Takes p stride) (ha : Advances stride) (preference : Preference)
    {n : Nat} (hnext : ∀ later, stride later.rest ≠ none → next later = none)
    (hn : Leads stride cursor.rest n) (hlast : stride (cursor.rest.drop n) = none) :
    (star preference p).run cursor next = next (cursor.skip n) := by
  generalize ht : cursor.rest = t at hn hlast
  induction hn generalizing cursor with
  | stop t =>
    rw [run_star hp ha, ht, show stride t = none from hlast, Option.bind_none,
      Preference.pick_none, Cursor.skip_zero]
  | @round t m n hm _ ih =>
    have hne : stride cursor.rest ≠ none := by rw [ht, hm]; exact Option.some_ne_none m
    have ih := @ih (cursor.skip m) (by rw [Cursor.rest_skip, ht])
      (by rw [List.drop_drop, hlast])
    rw [run_star hp ha, ht, hm, Option.bind_some, ih, hnext cursor hne, Cursor.skip_skip]
    cases preference with
    | longest => exact Option.or_none
    | shortest => rfl

/-- If what follows fails wherever a stride is possible, a repetition does the same whichever number
of rounds it prefers. -/
theorem run_star_preference (hp : Takes p stride) (ha : Advances stride)
    (hnext : ∀ later, stride later.rest ≠ none → next later = none)
    (preference preference' : Preference) :
    (star preference p).run cursor next = (star preference' p).run cursor next := by
  obtain ⟨n, hn, hlast⟩ := exists_leads_last ha cursor.rest
  rw [run_star_of_last hp ha preference hnext hn hlast,
    run_star_of_last hp ha preference' hnext hn hlast]

private theorem leads_takeWhile (set : CharSet) (t : Text) :
    Leads (strideOne set) t (t.takeWhile set.accepts).length := by
  induction t with
  | nil => exact .stop []
  | cons c t ih =>
    by_cases hc : set.accepts c = true
    · have hone : strideOne set (c :: t) = some 1 := by simp only [strideOne, hc, ite_true]
      rw [List.takeWhile_cons_of_pos hc, List.length_cons, Nat.add_comm]
      exact .round hone ih
    · rw [List.takeWhile_cons_of_neg hc]
      exact .stop _

/-- A repetition of characters takes all there are, if what follows cannot begin with one. -/
theorem run_star_one (set : CharSet) (preference : Preference)
    (hnext : ∀ later c rest, later.rest = c :: rest → set.accepts c = true → next later = none) :
    (star preference (one set)).run cursor next =
      next (cursor.skip (cursor.rest.takeWhile set.accepts).length) := by
  refine run_star_of_last (takes_one set) (advances_one set) preference ?_
    (leads_takeWhile set _) ?_
  · intro later hne
    cases h : later.rest with
    | nil => exact absurd (by rw [h]; rfl) hne
    | cons c rest =>
      refine hnext later c rest h ?_
      by_contra hc
      exact hne (by simp only [h, strideOne, hc, Bool.false_eq_true, ite_false])
  · have hdrop := congrArg (List.drop (cursor.rest.takeWhile set.accepts).length)
      (List.takeWhile_append_dropWhile (p := set.accepts) (l := cursor.rest))
    rw [List.drop_left] at hdrop
    rw [← hdrop]
    cases h : cursor.rest.dropWhile set.accepts with
    | nil => rfl
    | cons c rest =>
      have hc : set.accepts c = false := by
        simpa [h] using List.head?_dropWhile_not set.accepts cursor.rest
      simp only [strideOne, hc, Bool.false_eq_true, ite_false]

/-- A reluctant repetition stops at the first stop from which what follows succeeds. -/
theorem run_star_shortest_of_first (hp : Takes p stride) (ha : Advances stride) {n : Nat}
    {found : Cursor} (hn : Leads stride cursor.rest n)
    (hbefore : ∀ m < n, Leads stride cursor.rest m → next (cursor.skip m) = none)
    (hfound : next (cursor.skip n) = some found) :
    (star .shortest p).run cursor next = some found := by
  generalize ht : cursor.rest = t at hn hbefore
  induction hn generalizing cursor with
  | stop t => rw [run_star hp ha, show next cursor = some found from hfound]; rfl
  | @round t m n hm _ ih =>
    have hpos := (ha t m hm).1
    have hfail : next cursor = none := hbefore 0 (by omega) (.stop t)
    have ih := @ih (cursor.skip m) (by rw [Cursor.skip_skip, hfound])
      (by rw [Cursor.rest_skip, ht])
      (fun k hk hlead => by
        rw [Cursor.skip_skip]
        exact hbefore (m + k) (by omega) (.round hm hlead))
    rw [run_star hp ha, ht, hm, Option.bind_some, ih, hfail]
    rfl

/-- Whatever a repetition finds, it finds from one of its stops. -/
theorem exists_of_run_star (hp : Takes p stride) (ha : Advances stride) {preference : Preference}
    {found : Cursor} (h : (star preference p).run cursor next = some found) :
    ∃ n, Leads stride cursor.rest n ∧ next (cursor.skip n) = some found := by
  induction hl : cursor.rest.length using Nat.strongRecOn generalizing cursor with
  | _ length ih =>
    rw [run_star hp ha] at h
    have hways : next cursor = some found ∨ ((stride cursor.rest).bind fun n =>
        (star preference p).run (cursor.skip n) next) = some found := by
      cases preference with
      | longest => exact (Option.or_eq_some_iff.mp h).symm.imp And.right id
      | shortest => exact (Option.or_eq_some_iff.mp h).imp id And.right
    rcases hways with h | h
    · exact ⟨0, .stop _, h⟩
    · obtain ⟨m, hm, h⟩ := Option.bind_eq_some_iff.mp h
      have hlt := ha _ _ hm
      obtain ⟨n, hn, hfound⟩ := ih (cursor.skip m).rest.length
        (by rw [Cursor.rest_skip, List.length_drop]; omega) h rfl
      rw [Cursor.rest_skip] at hn
      exact ⟨m + n, .round hm hn, by rw [← Cursor.skip_skip, hfound]⟩

/-- A repetition fails just where what follows fails at all of its stops. -/
theorem run_star_eq_none_iff (hp : Takes p stride) (ha : Advances stride)
    {preference : Preference} : (star preference p).run cursor next = none ↔
      ∀ n, Leads stride cursor.rest n → next (cursor.skip n) = none := by
  constructor
  · intro h n hn
    generalize ht : cursor.rest = t at hn
    induction hn generalizing cursor with
    | stop t =>
      rw [run_star hp ha] at h
      cases preference with
      | longest => exact (Option.or_eq_none_iff.mp h).2
      | shortest => exact (Option.or_eq_none_iff.mp h).1
    | @round t m n hm _ ih =>
      have hmore : (star preference p).run (cursor.skip m) next = none := by
        rw [run_star hp ha, ht, hm, Option.bind_some] at h
        cases preference with
        | longest => exact (Option.or_eq_none_iff.mp h).1
        | shortest => exact (Option.or_eq_none_iff.mp h).2
      rw [← Cursor.skip_skip]
      exact ih hmore (by rw [Cursor.rest_skip, ht])
  · intro h
    refine Option.eq_none_iff_forall_ne_some.mpr fun found hfound => ?_
    obtain ⟨n, hn, hnext⟩ := exists_of_run_star hp ha hfound
    rw [h n hn] at hnext
    exact nomatch hnext

end Pattern

end Stencil
