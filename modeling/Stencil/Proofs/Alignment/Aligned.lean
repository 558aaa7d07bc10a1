import Stencil.Proofs.Alignment.Shift

/-!
# Aligned texts

What moving a text to a column comes to, line by line: no line is added or lost, blank lines stay, no
line loses anything but indentation, the first line that is not blank gets to the column, and lines
that have all the indentation that is taken off keep their distance. Moving a text twice, the second
time not further to the right, is moving it once.
-/

namespace Stencil

open Stencil.Alignment Text

variable {t r : Text} {own column : Nat} {policy : Shortfall}

/-- How far a text stands to the right of a column, which is what is taken off its lines. -/
def overhang (t : Text) (column : Nat) : Nat := (contentIndentation? t).getD 0 - column

/-- A text that has been moved to a column. Pairs are of a line and what it has become. -/
structure Aligned (t r : Text) (column : Nat) (policy : Shortfall) : Prop where
  /-- There are as many lines as before. -/
  length_eq : (lines r).length = (lines t).length
  /-- Blank lines stay as they are. -/
  blank_eq : ∀ p ∈ (lines t).zip (lines r), isBlank p.1 = true → p.2 = p.1
  /-- Behind their indentation all other lines stay as they are, too. -/
  afterIndent_eq : ∀ p ∈ (lines t).zip (lines r), isBlank p.1 = false →
    afterIndent p.2 = afterIndent p.1
  /-- The first line that is not blank is at the column, unless it may stay too far to the left. -/
  first : ∀ p, ((lines t).zip (lines r)).find? (fun p => !isBlank p.1) = some p →
    ¬(policy = .preserve ∧ indentation p.1 < column) → indentation p.2 = column
  /-- Where that line may stay too far to the left, the whole text stays as it is. -/
  preserved : policy = .preserve →
    ∀ p, ((lines t).zip (lines r)).find? (fun p => !isBlank p.1) = some p →
      indentation p.1 < column → r = t
  /-- Lines indented by all that is taken off are as far apart as before. -/
  distance_eq : ∀ p ∈ (lines t).zip (lines r), ∀ q ∈ (lines t).zip (lines r),
    isBlank p.1 = false → isBlank q.1 = false →
    overhang t column ≤ indentation p.1 → overhang t column ≤ indentation q.1 →
    (indentation p.2 : Int) - indentation q.2 = indentation p.1 - indentation q.1

/-! ## Pairs of lines -/

private theorem zip_map_self (ls : List Text) (f : Text → Text) :
    ls.zip (ls.map f) = ls.map fun line => (line, f line) := by
  induction ls with
  | nil => rfl
  | cons line ls ih => rw [List.map_cons, List.zip_cons_cons, ih, List.map_cons]

private theorem zip_lines_self (t : Text) :
    (lines t).zip (lines t) = (lines t).map fun line => (line, line) := by
  simpa using zip_map_self (lines t) id

private theorem zip_lines_shift (own column : Nat) (t : Text) :
    (lines t).zip (lines (mapLines (shift own column) t)) =
      (lines t).map fun line => (line, onContent (shift own column) line) := by
  rw [lines_shift, zip_map_self]

private theorem contentIndentation?_of_find? {f : Text → Text} {p : Text × Text}
    (h : ((lines t).map fun line => (line, f line)).find? (fun p => !isBlank p.1) = some p) :
    contentIndentation? t = some (indentation p.1) ∧ isBlank p.1 = false ∧ p.2 = f p.1 := by
  rw [List.find?_map, Option.map_eq_some_iff] at h
  obtain ⟨line, hline, rfl⟩ := h
  have hfind : (lines t).find? (fun line => !isBlank line) = some line := hline
  refine ⟨by rw [contentIndentation?, hfind, Option.map_some], ?_, rfl⟩
  simpa using List.find?_some hfind

/-! ## Moving once -/

private theorem aligned_self
    (h : ∀ own, contentIndentation? t = some own → policy = .preserve ∧ own < column) :
    Aligned t t column policy where
  length_eq := rfl
  blank_eq p hp _ := by
    rw [zip_lines_self] at hp
    obtain ⟨line, _, rfl⟩ := List.mem_map.mp hp
    rfl
  afterIndent_eq p hp _ := by
    rw [zip_lines_self] at hp
    obtain ⟨line, _, rfl⟩ := List.mem_map.mp hp
    rfl
  first p hp := by
    rw [zip_lines_self] at hp
    obtain ⟨hown, _, _⟩ := contentIndentation?_of_find? (f := id) hp
    exact fun hmoved => absurd (h _ hown) hmoved
  preserved _ _ _ _ := rfl
  distance_eq p hp q hq _ _ _ _ := by
    rw [zip_lines_self] at hp hq
    obtain ⟨line, _, rfl⟩ := List.mem_map.mp hp
    obtain ⟨other, _, rfl⟩ := List.mem_map.mp hq
    rfl

private theorem aligned_shift (hown : contentIndentation? t = some own)
    (hpad : own < column → policy = .pad) :
    Aligned t (mapLines (shift own column) t) column policy where
  length_eq := by rw [lines_shift, List.length_map]
  blank_eq p hp hblank := by
    rw [zip_lines_shift] at hp
    obtain ⟨line, _, rfl⟩ := List.mem_map.mp hp
    exact if_pos hblank
  afterIndent_eq p hp hcontent := by
    rw [zip_lines_shift] at hp
    obtain ⟨line, _, rfl⟩ := List.mem_map.mp hp
    simp only [onContent, hcontent, Bool.false_eq_true, ite_false, afterIndent_shift]
  first p hp := by
    rw [zip_lines_shift] at hp
    obtain ⟨hfirst, hcontent, hp⟩ := contentIndentation?_of_find? hp
    obtain rfl : own = indentation p.1 := Option.some.inj (hown.symm.trans hfirst)
    intro _
    simp only [hp, onContent, hcontent, Bool.false_eq_true, ite_false, indentation_shift]
    omega
  preserved hpreserve p hp hless := by
    rw [zip_lines_shift] at hp
    obtain ⟨hfirst, _, _⟩ := contentIndentation?_of_find? hp
    obtain rfl : own = indentation p.1 := Option.some.inj (hown.symm.trans hfirst)
    -- A text that is too far to the left is shifted under the padding policy only.
    have hsame : Shortfall.preserve = .pad := hpreserve.symm.trans (hpad hless)
    exact absurd hsame (by decide)
  distance_eq p hp q hq hcontent hcontent' hroom hroom' := by
    rw [zip_lines_shift] at hp hq
    obtain ⟨line, _, rfl⟩ := List.mem_map.mp hp
    obtain ⟨other, _, rfl⟩ := List.mem_map.mp hq
    simp only [overhang, hown, Option.getD_some] at hroom hroom'
    simp only [onContent, hcontent, hcontent', Bool.false_eq_true, ite_false, indentation_shift]
    omega

/-- A text is refused under the failing policy if it is too far to the left, and by no other reason;
every text that is not refused is aligned. -/
theorem align_aligned (t : Text) (column : Nat) (policy : Shortfall) :
    (∀ own, align t column policy = .error own ↔
      policy = .fail ∧ contentIndentation? t = some own ∧ own < column) ∧
    ∀ r, align t column policy = .ok r → Aligned t r column policy := by
  refine ⟨fun _ => align_eq_error_iff, fun r h => ?_⟩
  rcases align_eq_ok_iff.mp h with ⟨hnone, rfl⟩ | ⟨own, hown, ⟨hless, hpolicy, rfl⟩ | ⟨hpad, rfl⟩⟩
  · refine aligned_self fun own hown => ?_
    rw [hnone] at hown
    exact nomatch hown
  · refine aligned_self fun own' hown' => ?_
    obtain rfl : own = own' := Option.some.inj (hown.symm.trans hown')
    exact ⟨hpolicy, hless⟩
  · exact aligned_shift hown hpad

/-- A text that begins with a blank line and is indented by wide white space; its third line has less
indentation than its second, its fourth only looks empty, and one line ends in a carriage return. -/
def unevenText : Text := "\n\u3000\u3000\ta\r\n b\n\t\n    c".toList

/-- The uneven text moved to the left, refused to the right, and left where it stands. -/
theorem align_aligned_unevenText :
    align unevenText 1 .fail = .ok "\n\ta\r\nb\n\t\n  c".toList ∧
      Aligned unevenText "\n\ta\r\nb\n\t\n  c".toList 1 .fail ∧
      align unevenText 4 .fail = .error 3 ∧
      align unevenText 4 .preserve = .ok unevenText ∧
      Aligned unevenText unevenText 4 .preserve :=
  ⟨by rfl, (align_aligned unevenText 1 .fail).2 _ (by rfl),
    ((align_aligned unevenText 4 .fail).1 3).mpr ⟨rfl, by rfl, by decide⟩, by rfl,
    (align_aligned unevenText 4 .preserve).2 _ (by rfl)⟩

/-! ## Moving twice -/

/-- A text moved to a column and from there to one that is not further to the right stands where it
would have been moved at once; moved back to its own column, it is what it was. -/
theorem align_align {next : Nat} (hle : next ≤ column) (h : align t column policy = .ok r) :
    align r next policy = align t next policy ∧
      ∀ own, contentIndentation? t = some own → own ≤ column → align r own policy = .ok t := by
  have htwice : ∀ next ≤ column, align r next policy = align t next policy := by
    intro next hle
    rcases align_eq_ok_iff.mp h with ⟨_, rfl⟩ | ⟨own, hown, ⟨_, _, rfl⟩ | ⟨hpad, rfl⟩⟩
    · rfl
    · rfl
    · have hmoved := contentIndentation?_shift hown column
      rw [align_eq_shift hmoved fun hless => absurd hle (Nat.not_le.mpr hless),
        align_eq_shift hown fun hless => hpad (Nat.lt_of_lt_of_le hless hle),
        mapLines_shift_shift hle]
  exact ⟨htwice next hle, fun own hown hle => (htwice own hle).trans (align_own hown policy)⟩

/-- Padding to column 6, and then all of it and a part of the indentation taken off again, or just all
of it. -/
theorem align_align_unevenText :
    1 ≤ 6 ∧ ∃ padded, align unevenText 6 .pad = .ok padded ∧
      align padded 1 .pad = .ok "\n\ta\r\nb\n\t\n  c".toList ∧ align padded 3 .pad = .ok unevenText := by
  have hpad : align unevenText 6 .pad = .ok "\n   \u3000\u3000\ta\r\n    b\n\t\n       c".toList := by
    rfl
  obtain ⟨htwice, hback⟩ := align_align (show 1 ≤ 6 by decide) hpad
  exact ⟨by decide, _, hpad, htwice.trans (by rfl), hback 3 (by rfl) (by decide)⟩

end Stencil
