import Mathlib.Data.List.Basic
import Stencil.Text

/-!
# Splitting

The pieces of a text between marks hold no mark, and pieces without a mark are found again in the
text that has marks between them.
-/

namespace Stencil

namespace Text

variable {mark : Char} {t u piece : Text} {more : List Text}

/-- There is at least one piece. -/
theorem split_ne_nil (mark : Char) (t : Text) : split mark t ≠ [] := by
  cases t with
  | nil => exact List.cons_ne_nil _ _
  | cons c t =>
    simp only [split]
    split
    · exact List.cons_ne_nil _ _
    · split <;> exact List.cons_ne_nil _ _

/-- A mark in front is an empty piece in front. -/
theorem split_mark (mark : Char) (t : Text) : split mark (mark :: t) = [] :: split mark t := by
  obtain ⟨piece, more, ht⟩ := List.exists_cons_of_ne_nil (split_ne_nil mark t)
  simp only [split, ht, ite_true]

/-- Text without a mark goes before the first piece. -/
theorem split_append (hu : mark ∉ u) (ht : split mark t = piece :: more) :
    split mark (u ++ t) = (u ++ piece) :: more := by
  induction u with
  | nil => exact ht
  | cons c u ih =>
    have hc : ¬ c = mark := fun he => hu (he ▸ List.mem_cons_self)
    have hrest : split mark (u ++ t) = (u ++ piece) :: more :=
      ih fun hm => hu (List.mem_cons_of_mem c hm)
    simp only [List.cons_append, split, hrest, hc, ite_false]

/-- A text without the mark is one piece. -/
theorem split_eq_singleton (hu : mark ∉ u) : split mark u = [u] := by
  have hnil : split mark ([] : Text) = [[]] := rfl
  have happend := split_append hu hnil
  rwa [List.append_nil] at happend

/-- At a mark the pieces before it end and those after it begin. -/
theorem split_append_mark (s t : Text) :
    split mark (s ++ mark :: t) = split mark s ++ split mark t := by
  induction s with
  | nil => exact split_mark mark t
  | cons c s ih =>
    obtain ⟨piece, more, hs⟩ := List.exists_cons_of_ne_nil (split_ne_nil mark s)
    rw [hs] at ih
    by_cases hc : c = mark
    · rw [hc, List.cons_append, split_mark, split_mark, ih, hs]
      rfl
    · have hu : mark ∉ [c] := fun hm => hc (List.mem_singleton.mp hm).symm
      have hleft : split mark (c :: s) = (c :: piece) :: more := split_append hu hs
      rw [hleft]
      exact split_append hu ih

/-- No piece holds the mark. -/
theorem notMem_of_mem_split (h : piece ∈ split mark t) : mark ∉ piece := by
  induction t generalizing piece with
  | nil =>
    rw [List.mem_singleton.mp h]
    exact List.not_mem_nil
  | cons c t ih =>
    by_cases hc : c = mark
    · rw [hc, split_mark] at h
      rcases List.mem_cons.mp h with rfl | h
      · exact List.not_mem_nil
      · exact ih h
    · have hu : mark ∉ [c] := fun hm => hc (List.mem_singleton.mp hm).symm
      obtain ⟨first, more, ht⟩ := List.exists_cons_of_ne_nil (split_ne_nil mark t)
      rw [← List.singleton_append, split_append hu ht] at h
      rw [ht] at ih
      rcases List.mem_cons.mp h with rfl | h
      · rw [List.mem_append, not_or]
        exact ⟨hu, ih List.mem_cons_self⟩
      · exact ih (List.mem_cons_of_mem _ h)

/-- Pieces without a mark are the pieces of the text that has marks between them. -/
theorem split_intercalate {pieces : List Text} (hne : pieces ≠ [])
    (h : ∀ piece ∈ pieces, mark ∉ piece) :
    split mark (List.intercalate [mark] pieces) = pieces := by
  induction pieces with
  | nil => exact absurd rfl hne
  | cons piece pieces ih =>
    obtain ⟨hpiece, hpieces⟩ := List.forall_mem_cons.mp h
    cases pieces with
    | nil => rw [List.intercalate_singleton, split_eq_singleton hpiece]
    | cons next pieces =>
      rw [List.intercalate_cons_cons, List.append_assoc, List.singleton_append, split_append_mark,
        split_eq_singleton hpiece, ih (List.cons_ne_nil _ _) hpieces, List.singleton_append]

/-- Marks between the pieces of a text make up the text again. -/
theorem intercalate_split (mark : Char) (t : Text) : List.intercalate [mark] (split mark t) = t := by
  induction t with
  | nil => rfl
  | cons c t ih =>
    obtain ⟨piece, more, ht⟩ := List.exists_cons_of_ne_nil (split_ne_nil mark t)
    rw [ht] at ih
    by_cases hc : c = mark
    · rw [hc, split_mark, ht, List.intercalate_cons_cons, ih]
      simp
    · have hu : mark ∉ [c] := by simpa using Ne.symm hc
      have hsplit : split mark (c :: t) = (c :: piece) :: more := split_append hu ht
      rw [hsplit]
      cases more with
      | nil => simpa using ih
      | cons next more => simpa [List.intercalate_cons_cons] using ih

end Text

end Stencil
