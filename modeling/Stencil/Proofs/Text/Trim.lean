import Mathlib.Data.List.DropRight
import Stencil.Text

/-!
# Trimming

A text is its trimmed part and white space, and the trimmed part is the only beginning of it that
does not end in white space and is followed by nothing else.
-/

namespace Stencil

/-- Dropping from the end keeps an element unless all from there on are dropped. -/
theorem rdropWhile_cons {α : Type} (p : α → Bool) (a : α) (l : List α) :
    (a :: l).rdropWhile p = if (a :: l).all p then [] else a :: l.rdropWhile p := by
  by_cases hall : (a :: l).all p = true
  · rw [if_pos hall, List.rdropWhile_eq_nil_iff]
    exact List.all_eq_true.mp hall
  · rw [if_neg hall, List.rdropWhile, List.rdropWhile, List.reverse_cons, List.dropWhile_append]
    cases hl : l.reverse.dropWhile p with
    | nil =>
      have ha : p a = false := by
        by_contra ha
        refine hall (List.all_eq_true.mpr fun b hb => ?_)
        rcases List.mem_cons.mp hb with rfl | hb
        · exact Bool.not_eq_false _ ▸ ha
        · exact List.dropWhile_eq_nil_iff.mp hl b (List.mem_reverse.mpr hb)
      simp [ha]
    | cons b more => simp

namespace Text

/-- White space does not end the text. -/
def Closed (t : Text) : Prop := ∀ c, t.getLast? = some c → isSpace c = false

/-- A text is blank if all its characters are white space. -/
theorem isBlank_iff {t : Text} : t.isBlank = true ↔ ∀ c ∈ t, isSpace c = true := by
  simp only [isBlank, List.all_eq_true]

theorem isBlank_cons (c : Char) (t : Text) : isBlank (c :: t) = (isSpace c && t.isBlank) := rfl

/-- A text is blank if both its parts are. -/
theorem isBlank_append {s t : Text} :
    isBlank (s ++ t) = true ↔ s.isBlank = true ∧ t.isBlank = true := by
  simp only [isBlank, List.all_append, Bool.and_eq_true]

theorem trimEnd_eq_rdropWhile (t : Text) : t.trimEnd = t.rdropWhile isSpace := rfl

/-- Blank text at the end is dropped. -/
theorem trimEnd_append_of_isBlank (t : Text) {s : Text} (h : s.isBlank = true) :
    trimEnd (t ++ s) = trimEnd t := by
  rw [trimEnd, List.reverse_append, List.dropWhile_append_of_pos, trimEnd]
  exact fun c hc => isBlank_iff.mp h c (List.mem_reverse.mp hc)

/-- A text that does not end in white space stays as it is. -/
theorem trimEnd_of_closed {t : Text} (h : Closed t) : t.trimEnd = t := by
  rw [trimEnd_eq_rdropWhile, List.rdropWhile_eq_self_iff]
  intro hne
  rw [h _ (List.getLast?_eq_some_getLast hne)]
  exact Bool.false_ne_true

/-- What is left does not end in white space. -/
theorem closed_trimEnd (t : Text) : Closed t.trimEnd := by
  intro c hc
  by_cases hne : t.trimEnd = []
  · rw [hne] at hc
    exact nomatch hc
  · have hlast := List.rdropWhile_last_not isSpace t hne
    rw [List.getLast?_eq_some_getLast hne, Option.some.injEq] at hc
    rw [← hc]
    exact Bool.eq_false_iff.mpr hlast

/-- A text is its trimmed part and white space. -/
theorem exists_trimEnd_append (t : Text) : ∃ s, s.isBlank = true ∧ t = t.trimEnd ++ s := by
  refine ⟨t.rtakeWhile isSpace, ?_, ?_⟩
  · exact isBlank_iff.mpr fun c hc => List.mem_rtakeWhile_imp hc
  · rw [trimEnd_eq_rdropWhile, List.rdropWhile_append_rtakeWhile]

/-- The trimmed part is what white space follows to the end. -/
theorem trimEnd_append_closed {t s : Text} (ht : Closed t) (hs : s.isBlank = true) :
    trimEnd (t ++ s) = t := by
  rw [trimEnd_append_of_isBlank t hs, trimEnd_of_closed ht]

/-- White space at the end of a text starts after its trimmed part. -/
theorem length_trimEnd_le {t : Text} {n : Nat} (h : isBlank (t.drop n) = true) :
    t.trimEnd.length ≤ n := by
  have htrim := trimEnd_append_of_isBlank (t.take n) h
  rw [List.take_append_drop] at htrim
  rw [htrim, trimEnd_eq_rdropWhile]
  calc (List.rdropWhile isSpace (t.take n)).length ≤ (t.take n).length :=
        (List.rdropWhile_prefix isSpace _).length_le
    _ ≤ n := by rw [List.length_take]; omega

/-- Behind text that does not end in white space, only the rest is trimmed. -/
theorem trimEnd_append {u : Text} (hu : Closed u) (t : Text) :
    trimEnd (u ++ t) = u ++ trimEnd t := by
  obtain ⟨s, hs, ht⟩ := exists_trimEnd_append t
  have hclosed : Closed (u ++ trimEnd t) := by
    intro c hc
    rw [List.getLast?_append, Option.or_eq_some_iff] at hc
    exact hc.elim (closed_trimEnd t c) fun h => hu c h.2
  calc trimEnd (u ++ t) = trimEnd ((u ++ trimEnd t) ++ s) := by rw [List.append_assoc, ← ht]
    _ = u ++ trimEnd t := trimEnd_append_closed hclosed hs

/-- A character stays unless nothing but white space follows it. -/
theorem trimEnd_cons (c : Char) (t : Text) :
    trimEnd (c :: t) = if isBlank (c :: t) then [] else c :: trimEnd t :=
  rdropWhile_cons isSpace c t

end Text

end Stencil
