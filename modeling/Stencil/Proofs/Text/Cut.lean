import Mathlib.Data.List.DropRight
import Stencil.Delimiter
import Stencil.Proofs.Text.Split
import Stencil.Proofs.Text.Trim

/-!
# Cutting text

Cutting a text at a mark, after a line break, or into lines. What is cut off and what is left make
up the text again, and no earlier cut is possible.
-/

namespace Stencil

namespace Text

/-- The text before the first occurrence of a mark, and the text after it. -/
def upTo? (mark : Text) : Text → Option (Text × Text)
  | [] => if mark.isEmpty then some ([], []) else none
  | c :: rest =>
    if mark.isPrefixOf (c :: rest) then some ([], (c :: rest).drop mark.length)
    else (upTo? mark rest).map fun (before, after) => (c :: before, after)

/-- The text after a line feed, or a carriage return and a line feed, at the beginning. -/
def afterLineBreak? : Text → Option Text
  | '\r' :: '\n' :: rest => some rest
  | '\n' :: rest => some rest
  | _ => none

/-- What is left of a text behind a prefix is the rest of it. -/
theorem stripPrefix?_eq_some_iff {piece t rest : Text} :
    stripPrefix? piece t = some rest ↔ t = piece ++ rest := by
  rw [stripPrefix?, List.isPrefixOf?_eq_some_iff_append_eq]
  exact eq_comm

/-- What is left of a text before a suffix is the rest of it. -/
theorem stripSuffix?_eq_some_iff {piece t rest : Text} :
    stripSuffix? piece t = some rest ↔ t = rest ++ piece := by
  rw [stripSuffix?, Option.map_eq_some_iff]
  constructor
  · rintro ⟨reversed, hreversed, rfl⟩
    have happend := List.isPrefixOf?_eq_some_iff_append_eq.mp hreversed
    rw [← List.reverse_eq_iff, List.reverse_append, List.reverse_reverse] at happend
    exact happend.symm
  · rintro rfl
    refine ⟨rest.reverse, List.isPrefixOf?_eq_some_iff_append_eq.mpr ?_, List.reverse_reverse rest⟩
    rw [List.reverse_append]

/-- A text contains its infixes. -/
theorem contains_iff_isInfix {piece t : Text} : contains piece t = true ↔ piece <:+: t := by
  induction t with
  | nil => rw [contains, List.isEmpty_iff, List.infix_nil]
  | cons c t ih =>
    rw [contains, Bool.or_eq_true, ih, List.isPrefixOf_iff_prefix, List.infix_cons_iff]

/-- The text between two positions is as long as they are apart. -/
theorem length_between {t : Text} {j : Nat} (hj : j ≤ t.length) (i : Nat) :
    (t.between i j).length = j - i := by
  rw [between, List.length_take_of_le]
  rw [List.length_drop]
  exact Nat.sub_le_sub_right hj i

/-- A text from a position on is cut at a later one. -/
theorem between_append_drop (t : Text) {i j : Nat} (hij : i ≤ j) :
    t.between i j ++ t.drop j = t.drop i := by
  rw [between, ← Nat.add_sub_cancel' hij, ← List.drop_drop, Nat.add_sub_cancel_left,
    List.take_append_drop]

/-- A text that begins at a position stands between it and its end. -/
theorem between_eq_of_drop_eq {t span rest : Text} {i j : Nat} (h : t.drop i = span ++ rest)
    (hj : j = i + span.length) : t.between i j = span := by
  rw [between, h, hj, Nat.add_sub_cancel_left, List.take_left]

/-- Up to the first occurrence of a character stands text without it. -/
theorem upTo?_eq_some_iff {c : Char} {t before after : Text} :
    upTo? [c] t = some (before, after) ↔ c ∉ before ∧ t = before ++ c :: after := by
  induction t generalizing before with
  | nil => simp [upTo?]
  | cons d t ih =>
    by_cases hd : d = c
    · subst d
      simp only [upTo?, List.isPrefixOf, beq_self_eq_true, Bool.and_self, ite_true,
        List.length_singleton, List.drop_succ_cons, List.drop_zero, Option.some.injEq,
        Prod.mk.injEq]
      constructor
      · rintro ⟨rfl, rfl⟩
        exact ⟨List.not_mem_nil, rfl⟩
      · rintro ⟨hnot, ht⟩
        cases before with
        | nil => exact ⟨rfl, (List.cons.inj ht).2⟩
        | cons e before =>
          exact absurd (by rw [(List.cons.inj ht).1]; exact List.mem_cons_self) hnot
    · have hpre : List.isPrefixOf [c] (d :: t) = false := by
        simp [List.isPrefixOf, Ne.symm hd]
      simp only [upTo?, hpre, Bool.false_eq_true, ite_false, Option.map_eq_some_iff,
        Prod.exists, Prod.mk.injEq]
      constructor
      · rintro ⟨early, late, hfound, rfl, rfl⟩
        obtain ⟨hnot, rfl⟩ := ih.mp hfound
        exact ⟨List.not_mem_cons_of_ne_of_not_mem (Ne.symm hd) hnot, rfl⟩
      · rintro ⟨hnot, ht⟩
        cases before with
        | nil => exact absurd (List.cons.inj ht).1 hd
        | cons e before =>
          obtain ⟨rfl, rfl⟩ := List.cons.inj ht
          exact ⟨before, after, ih.mpr ⟨fun hm => hnot (List.mem_cons_of_mem _ hm), rfl⟩, rfl, rfl⟩

/-- A mark is found behind text that holds none of its characters. -/
theorem upTo?_append {mark u : Text} (hne : mark ≠ []) (hu : ∀ c ∈ u, c ∉ mark) (t : Text) :
    upTo? mark (u ++ (mark ++ t)) = some (u, t) := by
  obtain ⟨d, more, rfl⟩ := List.exists_cons_of_ne_nil hne
  induction u with
  | nil => simp [upTo?]
  | cons c u ih =>
    have hc : d ≠ c := fun he => hu c List.mem_cons_self (he ▸ List.mem_cons_self)
    have ih : upTo? (d :: more) (u ++ d :: (more ++ t)) = some (u, t) :=
      ih fun e he => hu e (List.mem_cons_of_mem c he)
    simp [upTo?, hc, ih]

/-- Starting later, the same occurrence is found. -/
theorem upTo?_drop {c : Char} {t before after : Text} (h : upTo? [c] t = some (before, after))
    {m : Nat} (hm : m ≤ before.length) : upTo? [c] (t.drop m) = some (before.drop m, after) := by
  obtain ⟨hnot, rfl⟩ := upTo?_eq_some_iff.mp h
  refine upTo?_eq_some_iff.mpr ⟨fun hmem => hnot (List.mem_of_mem_drop hmem), ?_⟩
  exact List.drop_append_of_le_length hm

/-- The next line follows a line feed, or a carriage return and a line feed. -/
theorem afterLineBreak?_eq_some_iff {t rest : Text} :
    afterLineBreak? t = some rest ↔ t = '\r' :: '\n' :: rest ∨ t = '\n' :: rest := by
  unfold afterLineBreak?
  split
  · simp
  · simp
  · next h h' =>
    refine ⟨nofun, ?_⟩
    rintro (rfl | rfl)
    · exact absurd rfl (h rest)
    · exact absurd rfl (h' rest)

/-- A line break and white space. -/
def Ending (t : Text) : Prop := ∃ rest, afterLineBreak? t = some rest ∧ rest.isBlank = true

/-- The end of a line is blank. -/
theorem Ending.isBlank {t : Text} (h : Ending t) : t.isBlank = true := by
  obtain ⟨rest, hrest, hblank⟩ := h
  rcases afterLineBreak?_eq_some_iff.mp hrest with rfl | rfl
  · exact (isBlank_append (s := ['\r', '\n'])).mpr ⟨by decide, hblank⟩
  · exact (isBlank_append (s := ['\n'])).mpr ⟨by decide, hblank⟩

/-- An ending breaks the line at its first or second character. -/
theorem Ending.getElem? {t : Text} {n : Nat} (h : Ending (t.drop n)) :
    t[n]? = some '\n' ∨ t[n]? = some '\r' ∧ t[n + 1]? = some '\n' := by
  obtain ⟨rest, hrest, _⟩ := h
  rcases afterLineBreak?_eq_some_iff.mp hrest with ht | ht
  · refine .inr ⟨?_, ?_⟩
    · rw [← Nat.add_zero n, ← List.getElem?_drop, ht]; rfl
    · rw [← List.getElem?_drop, ht]; rfl
  · refine .inl ?_
    rw [← Nat.add_zero n, ← List.getElem?_drop, ht]
    rfl

/-! ## Lines -/

/-- Every text has a line. -/
theorem lines_ne_nil (t : Text) : lines t ≠ [] := split_ne_nil '\n' t

/-- A line feed in front is an empty line in front. -/
theorem lines_lineFeed (t : Text) : lines ('\n' :: t) = [] :: lines t := split_mark '\n' t

/-- Text without a line feed goes before the first line. -/
theorem lines_append {u t line : Text} {more : List Text} (hu : '\n' ∉ u)
    (ht : lines t = line :: more) : lines (u ++ t) = (u ++ line) :: more := split_append hu ht

/-- Lines that were joined are found again. -/
theorem lines_unlines {ls : List Text} (hne : ls ≠ []) (h : ∀ line ∈ ls, '\n' ∉ line) :
    lines (unlines ls) = ls :=
  split_intercalate hne h

/-- The lines of a text make that text. -/
theorem unlines_lines (t : Text) : unlines (lines t) = t := intercalate_split '\n' t

end Text

/-- The text that a pair encloses just ahead, up to the first closing delimiter, and the rest. -/
def Pair.enclosed? (pair : Pair) (t : Text) : Option (Text × Text) :=
  (Text.stripPrefix? pair.opening t).bind (Text.upTo? pair.closing)

/-- With a closing delimiter of one character, a name goes up to the first such character. -/
theorem Pair.enclosed?_eq_some_iff {pair : Pair} {c : Char} (hc : pair.closing = [c])
    {t before after : Text} : pair.enclosed? t = some (before, after) ↔
      c ∉ before ∧ t = pair.opening ++ (before ++ c :: after) := by
  simp only [enclosed?, Option.bind_eq_some_iff, Text.stripPrefix?_eq_some_iff, hc,
    Text.upTo?_eq_some_iff]
  constructor
  · rintro ⟨ahead, rfl, hnot, rfl⟩
    exact ⟨hnot, rfl⟩
  · rintro ⟨hnot, rfl⟩
    exact ⟨_, rfl, hnot, rfl⟩

end Stencil
