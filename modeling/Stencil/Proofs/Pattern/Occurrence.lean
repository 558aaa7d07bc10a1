import Mathlib.Data.List.Basic
import Stencil.Pattern.Match

/-!
# Occurrences

Matches are looked for at one position after another, so the first of them is the one here or one
that starts later. Each is the match at its place, and none starts before the one before it ends.
-/

namespace Stencil

namespace Pattern

variable {p : Pattern} {last : Option Nat} {position : Nat} {previous : Option Char} {t : Text}

/-- The match at a place when nothing was matched before. -/
theorem matchAfter?_none (p : Pattern) (cursor : Cursor) :
    p.matchAfter? none cursor = (p.matchAt? { cursor with captured := [] }).map fun later =>
      ⟨cursor.position, later.position, later.captured⟩ := by
  simp only [matchAfter?, Option.all_none, ite_true, Match.mayFollow]
  cases p.matchAt? { cursor with captured := [] } <;> rfl

/-- A match here is the first one. -/
theorem head?_matchesFrom_of_matchAfter? {m : Match}
    (h : p.matchAfter? last ⟨position, previous, t, []⟩ = some m) :
    (p.matchesFrom last position previous t).head? = some m := by
  cases t with
  | nil => rw [matchesFrom, h]; rfl
  | cons c rest => rw [matchesFrom, h]; rfl

/-- The first match is the one here, or the first one further on. -/
theorem head?_matchesFrom (p : Pattern) (last : Option Nat) (position : Nat)
    (previous : Option Char) (c : Char) (t : Text) :
    (p.matchesFrom last position previous (c :: t)).head? =
      (p.matchAfter? last ⟨position, previous, c :: t, []⟩).or
        (p.matchesFrom last (position + 1) (some c) t).head? := by
  rw [matchesFrom]
  cases p.matchAfter? last ⟨position, previous, c :: t, []⟩ <;> rfl

/-- A match after another one starts behind it, and is the preferred one at its place. -/
theorem exists_of_matchAfter? {cursor : Cursor} {m : Match}
    (h : p.matchAfter? last cursor = some m) : (∀ stop ∈ last, stop ≤ cursor.position) ∧
      ∃ later, p.matchAt? { cursor with captured := [] } = some later ∧
        m = ⟨cursor.position, later.position, later.captured⟩ := by
  simp only [matchAfter?, Option.ite_none_right_eq_some] at h
  obtain ⟨hlast, h⟩ := h
  refine ⟨fun stop hstop => ?_, ?_⟩
  · rw [Option.mem_def.mp hstop] at hlast
    simpa using hlast
  · cases hmatch : p.matchAt? { cursor with captured := [] } with
    | none => simp only [hmatch] at h; exact nomatch h
    | some later =>
      simp only [hmatch, Option.ite_none_right_eq_some, Option.some.injEq] at h
      exact ⟨later, rfl, h.2.symm⟩

/-- A match begins at the place where it is looked for. -/
theorem start_of_matchAfter? {cursor : Cursor} {m : Match}
    (h : p.matchAfter? last cursor = some m) : m.start = cursor.position := by
  obtain ⟨_, later, _, rfl⟩ := exists_of_matchAfter? h
  rfl

/-- No match starts before the place it is looked for from. -/
theorem le_start_of_head?_matchesFrom {m : Match}
    (h : (p.matchesFrom last position previous t).head? = some m) : position ≤ m.start := by
  induction t generalizing position previous with
  | nil =>
    rw [matchesFrom, Option.head?_toList] at h
    exact Nat.le_of_eq (start_of_matchAfter? h).symm
  | cons c t ih =>
    rw [head?_matchesFrom, Option.or_eq_some_iff] at h
    rcases h with h | ⟨_, h⟩
    · exact Nat.le_of_eq (start_of_matchAfter? h).symm
    · exact Nat.le_of_succ_le (ih h)

/-- A first match that starts here is found here. -/
theorem matchAfter?_of_head?_matchesFrom {m : Match}
    (h : (p.matchesFrom last position previous t).head? = some m) (hm : m.start = position) :
    p.matchAfter? last ⟨position, previous, t, []⟩ = some m := by
  cases t with
  | nil => rwa [matchesFrom, Option.head?_toList] at h
  | cons c t =>
    rw [head?_matchesFrom, Option.or_eq_some_iff] at h
    refine h.resolve_right fun ⟨_, hlater⟩ => ?_
    have hle := le_start_of_head?_matchesFrom hlater
    omega

/-- Inside the match before no match is found. -/
theorem matchAfter?_eq_none_of_lt {cursor : Cursor} (h : cursor.position < last.getD 0) :
    p.matchAfter? last cursor = none := by
  cases last with
  | none => exact absurd h (Nat.not_lt_zero _)
  | some stop =>
    have hnot : ¬ stop ≤ cursor.position := Nat.not_le.mpr h
    simp [matchAfter?, hnot]

/-- Where the pattern does not match, no match is found. -/
theorem matchAfter?_eq_none_of_matchAt? {cursor : Cursor}
    (h : p.matchAt? { cursor with captured := [] } = none) : p.matchAfter? last cursor = none := by
  simp only [matchAfter?, h, ite_self]

/-- Behind the match before every match that takes a character is found. -/
theorem matchAfter?_of_matchAt? {cursor later : Cursor} (hlast : last.getD 0 ≤ cursor.position)
    (h : p.matchAt? { cursor with captured := [] } = some later)
    (hpos : cursor.position < later.position) :
    p.matchAfter? last cursor = some ⟨cursor.position, later.position, later.captured⟩ := by
  cases last with
  | none => rw [matchAfter?_none, h, Option.map_some]
  | some stop =>
    have hlast : stop ≤ cursor.position := hlast
    have hne : cursor.position ≠ later.position := Nat.ne_of_lt hpos
    simp [matchAfter?, h, Match.mayFollow, hlast, hne]

/-! ## All matches -/

/-- Patterns that run alike match alike. -/
theorem occurrences_congr {q : Pattern} (h : ∀ cursor next, p.run cursor next = q.run cursor next)
    (t : Text) : p.occurrences t = q.occurrences t := by
  have hafter (last : Option Nat) (cursor : Cursor) :
      p.matchAfter? last cursor = q.matchAfter? last cursor := by
    simp only [matchAfter?, matchAt?, h]
  have hfrom (t : Text) (last : Option Nat) (position : Nat) (previous : Option Char) :
      p.matchesFrom last position previous t = q.matchesFrom last position previous t := by
    induction t generalizing last position previous with
    | nil => rw [matchesFrom, matchesFrom, hafter]
    | cons c t ih => simp only [matchesFrom, hafter, ih]
  exact hfrom t none 0 none

/-- Every match is found at its place. -/
theorem exists_of_mem_matchesFrom {m : Match} (h : m ∈ p.matchesFrom last position previous t) :
    ∃ before rest last', t = before ++ rest ∧ p.matchAfter? last'
      ⟨position + before.length, before.getLast?.or previous, rest, []⟩ = some m := by
  induction t generalizing last position previous with
  | nil =>
    rw [matchesFrom, Option.mem_toList] at h
    exact ⟨[], [], last, rfl, h⟩
  | cons c t ih =>
    have hlater (last' : Option Nat)
        (h : m ∈ p.matchesFrom last' (position + 1) (some c) t) :
        ∃ before rest last', c :: t = before ++ rest ∧ p.matchAfter? last'
          ⟨position + before.length, before.getLast?.or previous, rest, []⟩ = some m := by
      obtain ⟨before, rest, last', rfl, hm⟩ := ih h
      refine ⟨c :: before, rest, last', rfl, ?_⟩
      have hprevious : (c :: before).getLast?.or previous = before.getLast?.or (some c) := by
        rw [List.getLast?_cons]
        cases before.getLast? <;> rfl
      rw [List.length_cons, hprevious, Nat.add_comm before.length, ← Nat.add_assoc]
      exact hm
    rw [matchesFrom] at h
    cases hfound : p.matchAfter? last ⟨position, previous, c :: t, []⟩ with
    | none =>
      rw [hfound] at h
      exact hlater last h
    | some found =>
      rw [hfound] at h
      rcases List.mem_cons.mp h with rfl | h
      · exact ⟨[], c :: t, last, rfl, hfound⟩
      · exact hlater (some found.stop) h

private theorem matchesFrom_ordered (p : Pattern) (last : Option Nat) (position : Nat)
    (previous : Option Char) (t : Text) :
    (∀ m ∈ p.matchesFrom last position previous t, ∀ stop ∈ last, stop ≤ m.start) ∧
      (p.matchesFrom last position previous t).Pairwise fun m m' => m.stop ≤ m'.start := by
  have hfirst {t : Text} {m : Match} {last : Option Nat} {position : Nat} {previous : Option Char}
      (h : p.matchAfter? last ⟨position, previous, t, []⟩ = some m) :
      ∀ stop ∈ last, stop ≤ m.start := by
    obtain ⟨hlast, later, _, rfl⟩ := exists_of_matchAfter? h
    exact hlast
  induction t generalizing last position previous with
  | nil =>
    rw [matchesFrom]
    cases hfound : p.matchAfter? last ⟨position, previous, [], []⟩ with
    | none => exact ⟨fun m hm => absurd hm List.not_mem_nil, .nil⟩
    | some found =>
      exact ⟨List.forall_mem_singleton.mpr (hfirst hfound), List.pairwise_singleton _ _⟩
  | cons c t ih =>
    rw [matchesFrom]
    cases hfound : p.matchAfter? last ⟨position, previous, c :: t, []⟩ with
    | none => exact ih last (position + 1) (some c)
    | some found =>
      obtain ⟨hbehind, hordered⟩ := ih (some found.stop) (position + 1) (some c)
      have hbehind : ∀ m ∈ p.matchesFrom (some found.stop) (position + 1) (some c) t,
          found.stop ≤ m.start := fun m hm => hbehind m hm found.stop rfl
      refine ⟨List.forall_mem_cons.mpr ⟨hfirst hfound, fun m hm stop hstop => ?_⟩,
        List.pairwise_cons.mpr ⟨hbehind, hordered⟩⟩
      have hle := hfirst hfound stop hstop
      obtain ⟨before, rest, last', rfl, hlater⟩ := exists_of_mem_matchesFrom hm
      rw [start_of_matchAfter? hfound] at hle
      rw [start_of_matchAfter? hlater]
      simp only at hle ⊢
      omega

/-- The matches of a text lie one behind the other. -/
theorem pairwise_occurrences (p : Pattern) (t : Text) :
    (p.occurrences t).Pairwise fun m m' => m.stop ≤ m'.start :=
  (matchesFrom_ordered p none 0 none t).2

/-- Every match of a text is the preferred one at its place. -/
theorem exists_of_mem_occurrences {m : Match} (h : m ∈ p.occurrences t) :
    ∃ before rest later, t = before ++ rest ∧
      p.matchAt? ⟨before.length, before.getLast?, rest, []⟩ = some later ∧
      m = ⟨before.length, later.position, later.captured⟩ := by
  obtain ⟨before, rest, last, rfl, hm⟩ := exists_of_mem_matchesFrom h
  obtain ⟨_, later, hlater, rfl⟩ := exists_of_matchAfter? hm
  rw [Nat.zero_add, Option.or_none] at hlater
  exact ⟨before, rest, later, rfl, hlater, by rw [Nat.zero_add]⟩

end Pattern

end Stencil
