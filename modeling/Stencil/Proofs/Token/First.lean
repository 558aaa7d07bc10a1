import Stencil.Proofs.Delimiter
import Stencil.Proofs.Grammar.Body
import Stencil.Proofs.Pattern.Occurrence
import Stencil.Token

/-!
# The first token

The tokens of a text are looked for at one position after another, so the first one stands at the
first position where a token is ahead; there is none where no token is ahead anywhere.
-/

namespace Stencil

namespace Token

open Grammar Pattern

variable {pair : Pair}

/-- A token ahead is matched from its opening delimiter to its closing one, and its body captured. -/
theorem exists_matchAt?_of_ahead (hc : pair.closing ≠ []) (cursor : Cursor) {x rest : Text}
    (h : Ahead pair x rest cursor.rest) :
    ∃ later, (inline pair nameGroup).matchAt? { cursor with captured := [] } = some later ∧
      later.position = cursor.position + (pair.wrap x).length ∧
      ∀ start stop, (Match.mk start stop later.captured).group nameGroup = x := by
  have hrun : (inline pair nameGroup).matchAt? { cursor with captured := [] } = _ :=
    run_inline_of_ahead hc h
  have hle : (pair.wrap x).length ≤ cursor.rest.length := by
    rw [h.2]
    simp only [Pair.wrap, List.length_append]
    omega
  refine ⟨_, hrun, Cursor.position_skip hle, fun start stop => ?_⟩
  simp [Match.group, Match.group?, Captured.text]

/-- Where no token is ahead none is matched. -/
theorem matchAfter?_eq_none_of_not_ahead (hc : pair.closing ≠ []) {last : Option Nat}
    {cursor : Cursor} (h : ∀ x rest, ¬ Ahead pair x rest cursor.rest) :
    (inline pair nameGroup).matchAfter? last cursor = none :=
  matchAfter?_eq_none_of_matchAt? (run_inline_eq_none hc h)

private theorem head?_matchesFrom_of_ahead (hc : pair.closing ≠ []) {x rest : Text}
    {before ahead : Text} (position : Nat) (previous : Option Char)
    (h : Ahead pair x rest ahead)
    (hbefore : ∀ u, u <:+ before → u ≠ [] → ∀ y more, ¬ Ahead pair y more (u ++ ahead)) :
    ∃ m, ((inline pair nameGroup).matchesFrom none position previous (before ++ ahead)).head? =
      some m ∧ m.group nameGroup = x := by
  induction before generalizing position previous with
  | nil =>
    obtain ⟨later, hmatch, _, hx⟩ :=
      exists_matchAt?_of_ahead hc ⟨position, previous, ahead, []⟩ h
    refine ⟨⟨position, later.position, later.captured⟩, ?_, hx _ _⟩
    rw [List.nil_append]
    exact head?_matchesFrom_of_matchAfter? (by rw [matchAfter?_none, hmatch, Option.map_some])
  | cons c before ih =>
    have hnone : (inline pair nameGroup).matchAfter? none
        ⟨position, previous, c :: (before ++ ahead), []⟩ = none :=
      matchAfter?_eq_none_of_not_ahead hc
        (hbefore (c :: before) (List.suffix_refl _) (List.cons_ne_nil _ _))
    rw [List.cons_append, head?_matchesFrom, hnone, Option.none_or]
    exact ih _ _ fun u hu => hbefore u (hu.trans (List.suffix_cons c before))

/-- The first token is the one ahead of the first position that has one. -/
theorem first?_of_ahead (hc : pair.closing ≠ []) {x rest before ahead : Text}
    (h : Ahead pair x rest ahead)
    (hbefore : ∀ u, u <:+ before → u ≠ [] → ∀ y more, ¬ Ahead pair y more (u ++ ahead)) :
    ∃ token, first? pair (before ++ ahead) = some token ∧ token.body = x := by
  obtain ⟨m, hm, hx⟩ := head?_matchesFrom_of_ahead hc 0 none h hbefore
  exact ⟨⟨m.start, m.stop, m.group nameGroup⟩,
    by rw [first?, all, occurrences, List.head?_map, hm]; rfl, hx⟩

private theorem head?_matchesFrom_eq_none (hc : pair.closing ≠ []) {t : Text} (position : Nat)
    (previous : Option Char) (h : ∀ u, u <:+ t → ∀ x rest, ¬ Ahead pair x rest u) :
    ((inline pair nameGroup).matchesFrom none position previous t).head? = none := by
  induction t generalizing position previous with
  | nil =>
    rw [matchesFrom, matchAfter?_eq_none_of_not_ahead hc (h [] (List.suffix_refl _))]
    rfl
  | cons c t ih =>
    rw [head?_matchesFrom, matchAfter?_eq_none_of_not_ahead hc (h (c :: t) (List.suffix_refl _)),
      Option.none_or]
    exact ih _ _ fun u hu => h u (hu.trans (List.suffix_cons c t))

/-- A text has no token just where none is ahead at any position. -/
theorem first?_eq_none_iff (hc : pair.closing ≠ []) {t : Text} :
    first? pair t = none ↔ ∀ u, u <:+ t → ∀ x rest, ¬ Ahead pair x rest u := by
  constructor
  · intro hnone u
    -- The longest such suffix would be the first token, so the induction is on the length of `u`
    -- from above: on the text that is left before it.
    rintro ⟨before, rfl⟩
    induction hl : before.length using Nat.strongRecOn generalizing before u with
    | _ length ih =>
      intro x rest h
      obtain ⟨token, htoken, _⟩ : ∃ token, first? pair (before ++ u) = some token ∧
          token.body = x := first?_of_ahead hc h (by
        rintro v ⟨early, rfl⟩ hv y more
        have hlt : early.length < length := by
          have := List.length_pos_iff.mpr hv
          rw [← hl, List.length_append]
          omega
        exact ih early.length hlt (v ++ u) early (by rw [← List.append_assoc]; exact hnone) rfl
          y more)
      rw [hnone] at htoken
      exact absurd htoken (Option.some_ne_none token).symm
  · intro h
    rw [first?, all, occurrences, List.head?_map, head?_matchesFrom_eq_none hc 0 none h]
    rfl

/-! ## Text without opening delimiters -/

private theorem not_ahead_cons (ho : pair.opening ≠ []) {c : Char} (hc : c ∉ pair.opening)
    {x rest t : Text} : ¬ Ahead pair x rest (c :: t) := fun ⟨_, ht⟩ =>
  hc (Pair.mem_opening_of_append_eq_cons ho ht.symm)

/-- Text without characters of the opening delimiter holds no token. -/
theorem first?_eq_none_of_forall_notMem (hp : Delimiters.pairFault? pair = none) {t : Text}
    (ht : ∀ c ∈ t, c ∉ pair.opening) : first? pair t = none := by
  have ho := Delimiters.opening_ne_nil hp
  refine (first?_eq_none_iff (Delimiters.closing_ne_nil hp)).mpr fun u hu x rest => ?_
  cases u with
  | nil => exact fun ⟨_, hnil⟩ => ho (List.append_eq_nil_iff.mp hnil.symm).1
  | cons c u => exact not_ahead_cons ho (ht c (hu.subset List.mem_cons_self))

/-- Behind such text the first token is the one that stands there. -/
theorem first?_append_wrap (hp : Delimiters.pairFault? pair = none) {before name : Text}
    (hbefore : ∀ c ∈ before, c ∉ pair.opening) (hname : ∀ c ∈ name, c ∉ pair.closing)
    (rest : Text) :
    ∃ token, first? pair (before ++ (pair.wrap name ++ rest)) = some token ∧ token.body = name := by
  have hc := Delimiters.closing_ne_nil hp
  have hahead : Ahead pair name rest (pair.wrap name ++ rest) :=
    ⟨body_of_forall_notMem hc hname, by simp only [Pair.wrap, List.append_assoc]⟩
  refine first?_of_ahead hc hahead fun u hu hnil y more => ?_
  obtain ⟨c, u, rfl⟩ := List.exists_cons_of_ne_nil hnil
  exact not_ahead_cons (Delimiters.opening_ne_nil hp) (hbefore c (hu.subset List.mem_cons_self))

end Token

end Stencil
