import Mathlib.Data.List.Basic
import Stencil.Text

/-!
# Replacement

Replacing a piece walks through the text once: where the piece begins it is replaced as a whole, and
every other character stays.
-/

namespace Stencil

namespace Text

variable {piece new t : Text}

private theorem replaceFrom_skip (h : piece ≠ []) (n : Nat) (t : Text) :
    replaceFrom piece new n t = replaceFrom piece new 0 (t.drop n) := by
  induction n generalizing t with
  | zero => rfl
  | succ n ih =>
    cases t with
    | nil => simp [replaceFrom, h]
    | cons c t => rw [replaceFrom, ih, List.drop_succ_cons]

/-- In the empty text nothing is replaced. -/
@[simp] theorem replace_nil (h : piece ≠ []) : replace [] piece new = [] := by
  simp [replace, replaceFrom, h]

/-- Where the piece does not begin, the character stays. -/
theorem replace_cons {c : Char} (h : piece ≠ []) (hc : ¬ piece <+: c :: t) :
    replace (c :: t) piece new = c :: replace t piece new := by
  have hnot : piece.isPrefixOf (c :: t) = false := by
    rw [Bool.eq_false_iff]
    exact fun hp => hc (List.isPrefixOf_iff_prefix.mp hp)
  simp only [replace, replaceFrom, List.isEmpty_eq_false_iff.mpr h, hnot, Bool.false_eq_true,
    ite_false]

/-- Where the piece begins, all of it is replaced. -/
theorem replace_append (h : piece ≠ []) (t : Text) :
    replace (piece ++ t) piece new = new ++ replace t piece new := by
  obtain ⟨c, more, rfl⟩ := List.exists_cons_of_ne_nil h
  have hp : (c :: more).isPrefixOf (c :: (more ++ t)) = true :=
    List.isPrefixOf_iff_prefix.mpr ⟨t, rfl⟩
  rw [replace, List.cons_append, replaceFrom, if_neg (by simp), if_pos hp, List.length_cons,
    Nat.add_sub_cancel, replaceFrom_skip h, List.drop_left, replace]

/-- Text in which the piece nowhere begins stays. -/
theorem replace_append_left {u : Text} (h : piece ≠ [])
    (hu : ∀ v, v <:+ u → v ≠ [] → ¬ piece <+: v ++ t) :
    replace (u ++ t) piece new = u ++ replace t piece new := by
  induction u with
  | nil => rfl
  | cons c u ih =>
    have hc : ¬ piece <+: c :: (u ++ t) := hu (c :: u) (List.suffix_refl _) (List.cons_ne_nil _ _)
    rw [List.cons_append, replace_cons h hc, ih fun v hv => hu v (hv.trans (List.suffix_cons c u)),
      List.cons_append]

/-- Text in which the piece does not occur stays. -/
theorem replace_eq_self (h : piece ≠ []) (ht : ¬ piece <:+: t) : replace t piece new = t := by
  have hnot : ∀ v, v <:+ t → v ≠ [] → ¬ piece <+: v ++ [] := by
    intro v hv _ hpre
    rw [List.append_nil] at hpre
    exact ht (hpre.isInfix.trans hv.isInfix)
  have hstay : replace (t ++ []) piece new = t ++ replace [] piece new :=
    replace_append_left h hnot
  rwa [replace_nil h, List.append_nil] at hstay

/-! ## From the left -/

/-- A replaced text is read from the left: it ends, it begins with the piece, or its first character
stays. -/
theorem replace_induction {motive : Text → Text → Prop} (h : piece ≠ []) (nil : motive [] [])
    (hit : ∀ t, motive t (replace t piece new) → motive (piece ++ t) (new ++ replace t piece new))
    (stay : ∀ c t, ¬ piece <+: c :: t → motive t (replace t piece new) →
      motive (c :: t) (c :: replace t piece new)) (t : Text) :
    motive t (replace t piece new) := by
  induction hl : t.length using Nat.strongRecOn generalizing t with
  | _ length ih =>
    by_cases hpre : piece <+: t
    · obtain ⟨rest, rfl⟩ := hpre
      have hpos := List.length_pos_iff.mpr h
      rw [replace_append h]
      exact hit rest (ih rest.length (by simp at hl; omega) rest rfl)
    · cases t with
      | nil => rwa [replace_nil h]
      | cons c t =>
        rw [replace_cons h hpre]
        exact stay c t hpre (ih t.length (by simp at hl; omega) t rfl)

/-- The piece is replaced in two texts one by one where no end of it begins the second, so that it
cannot reach across. -/
theorem replace_append_of_forall_suffix (h : piece ≠ [])
    (ht : ∀ v, v <:+ piece → v ≠ piece → v ≠ [] → ¬ v <+: t) (u : Text) :
    replace (u ++ t) piece new = replace u piece new ++ replace t piece new := by
  apply replace_induction
    (motive := fun u r => replace (u ++ t) piece new = r ++ replace t piece new) h
  · rfl
  · intro u ih
    rw [List.append_assoc, replace_append h, ih, List.append_assoc]
  · intro c u hpre ih
    have hstay : ¬ piece <+: c :: (u ++ t) := by
      rintro ⟨rest, hrest⟩
      rw [← List.cons_append] at hrest
      rcases List.append_eq_append_iff.mp hrest with ⟨w, hw, _⟩ | ⟨v, hv, hrest⟩
      · exact hpre ⟨w, hw.symm⟩
      · have hne : v ≠ piece := by
          rintro rfl
          have hlength := congrArg List.length hv
          simp only [List.length_append, List.length_cons] at hlength
          omega
        have hnil : v ≠ [] := fun he => hpre ⟨[], by rw [hv, he, List.append_nil, List.append_nil]⟩
        exact ht v ⟨c :: u, hv.symm⟩ hne hnil ⟨rest, hrest.symm⟩
    rw [List.cons_append, replace_cons h hstay, ih, List.cons_append]

/-! ## Lengths -/

/-- Writing something no shorter makes no text shorter. -/
theorem length_le_length_replace (h : piece ≠ []) (hle : piece.length ≤ new.length) (t : Text) :
    t.length ≤ (replace t piece new).length := by
  apply replace_induction (motive := fun t u => t.length ≤ u.length) h
  · exact Nat.le_refl 0
  · intro t ih
    simp only [List.length_append]
    omega
  · intro c t _ ih
    simp only [List.length_cons]
    omega

/-- Writing something longer makes a text with the piece in it longer. -/
theorem length_lt_length_replace (h : piece ≠ []) (hlt : piece.length < new.length)
    (ht : piece <:+: t) : t.length < (replace t piece new).length := by
  revert ht
  apply replace_induction (motive := fun t u => piece <:+: t → t.length < u.length) h
  · exact fun ht => absurd (List.infix_nil.mp ht) h
  · intro t _ _
    have hrest := length_le_length_replace h (Nat.le_of_lt hlt) t
    simp only [List.length_append]
    omega
  · intro c t hpre ih ht
    have hlonger := ih ((List.infix_cons_iff.mp ht).resolve_left hpre)
    simp only [List.length_cons]
    omega

end Text

end Stencil
