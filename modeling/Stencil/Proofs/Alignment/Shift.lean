import Mathlib.Data.List.Basic
import Stencil.Alignment
import Stencil.Proofs.Text.Cut

/-!
# Alignment

Moving a text to a column is one shift of all its lines that are not blank. A shift changes the
indentation of a line by the distance between two columns, as far as there is indentation to take
off, and nothing behind it. Two shifts to the left, or one to the right and one back, are one shift;
so a text that is moved twice stands where it would have been moved at once.
-/

namespace Stencil

open Stencil.Alignment Text

namespace Alignment

variable {t r line : Text} {own column : Nat} {f : Text → Text}

/-! ## Indentation -/

/-- Indentation is white space. -/
theorem isSpace_of_isIndent {c : Char} (h : isIndent c = true) : isSpace c = true := by
  simp only [isIndent, Bool.and_eq_true] at h
  exact h.1.1

/-- What is no white space is no indentation. -/
theorem isIndent_eq_false {c : Char} (h : isSpace c = false) : isIndent c = false := by
  rw [isIndent, h, Bool.false_and, Bool.false_and]

/-- What stands behind the indentation of a line. -/
def afterIndent (line : Text) : Text := line.dropWhile isIndent

@[simp] theorem indentation_nil : indentation [] = 0 := rfl

/-- Indentation is counted up to the first character that is none. -/
theorem indentation_cons (c : Char) (line : Text) :
    indentation (c :: line) = if isIndent c then indentation line + 1 else 0 := by
  simp only [indentation, List.takeWhile_cons]
  split <;> rfl

/-- Indentation ends at the first character that does not belong to it. -/
theorem indentation_append {c : Char} (hc : isIndent c = false) (s t : Text) :
    indentation (s ++ c :: t) = indentation s := by
  induction s with
  | nil => simp [indentation_cons, hc]
  | cons d s ih => rw [List.cons_append, indentation_cons, indentation_cons, ih]

/-- Indentation is left out up to the first character that is none. -/
theorem afterIndent_cons (c : Char) (line : Text) :
    afterIndent (c :: line) = if isIndent c then afterIndent line else c :: line := by
  simp only [afterIndent, List.dropWhile_cons]

/-- Indentation is white space. -/
theorem isBlank_afterIndent (line : Text) : isBlank (afterIndent line) = isBlank line := by
  induction line with
  | nil => rfl
  | cons c line ih =>
    rw [afterIndent_cons]
    split
    · next hc => rw [ih, isBlank_cons, isSpace_of_isIndent hc, Bool.true_and]
    · rfl

/-- Indentation does not break a line. -/
theorem lineFeed_mem_afterIndent : '\n' ∈ afterIndent line ↔ '\n' ∈ line := by
  induction line with
  | nil => rfl
  | cons c line ih =>
    rw [afterIndent_cons]
    split
    · next hc =>
      have hne : '\n' ≠ c := by
        rintro rfl
        exact absurd hc (by decide)
      rw [ih, List.mem_cons, or_iff_right hne]
    · rfl

/-! ## Shifts -/

/-- Nothing taken off leaves the line. -/
@[simp] theorem strip_zero (line : Text) : strip 0 line = line := by
  cases line <;> rfl

/-- Nothing can be taken off an empty line. -/
@[simp] theorem strip_nil (count : Nat) : strip count [] = [] := by
  cases count <;> rfl

/-- One character is taken off if it is indentation. -/
theorem strip_succ_cons (count : Nat) (c : Char) (line : Text) :
    strip (count + 1) (c :: line) = if isIndent c then strip count line else c :: line := rfl

@[simp] theorem padLine_zero (line : Text) : padLine 0 line = line := rfl

/-- Padding is put on one space after another. -/
theorem padLine_succ (count : Nat) (line : Text) :
    padLine (count + 1) line = ' ' :: padLine count line := rfl

/-- Taking indentation off leaves what stands behind it. -/
theorem afterIndent_strip (count : Nat) (line : Text) :
    afterIndent (strip count line) = afterIndent line := by
  induction line generalizing count with
  | nil => simp
  | cons c line ih =>
    cases count with
    | zero => simp
    | succ count =>
      rw [strip_succ_cons]
      split
      · next hc => rw [ih, afterIndent_cons, if_pos hc]
      · rfl

/-- A line loses the indentation that is taken off, or all it has. -/
theorem indentation_strip (count : Nat) (line : Text) :
    indentation (strip count line) = indentation line - count := by
  induction line generalizing count with
  | nil => simp
  | cons c line ih =>
    cases count with
    | zero => simp
    | succ count =>
      rw [strip_succ_cons, indentation_cons]
      split
      · rw [ih]
        omega
      · next hc => simp [indentation_cons, hc]

/-- Padding leaves what stands behind the indentation. -/
theorem afterIndent_padLine (count : Nat) (line : Text) :
    afterIndent (padLine count line) = afterIndent line := by
  induction count with
  | zero => rfl
  | succ count ih => rw [padLine_succ, afterIndent_cons, if_pos (by decide), ih]

/-- Padding counts as indentation. -/
theorem indentation_padLine (count : Nat) (line : Text) :
    indentation (padLine count line) = indentation line + count := by
  induction count with
  | zero => rfl
  | succ count ih => rw [padLine_succ, indentation_cons, if_pos (by decide), ih]; omega

/-- Taking indentation off twice is taking it off once. -/
theorem strip_strip (first second : Nat) (line : Text) :
    strip second (strip first line) = strip (first + second) line := by
  induction line generalizing first with
  | nil => simp
  | cons c line ih =>
    cases first with
    | zero => simp
    | succ first =>
      rw [Nat.succ_add, strip_succ_cons, strip_succ_cons]
      split
      · exact ih first
      · next hc =>
        cases second with
        | zero => simp
        | succ second => rw [strip_succ_cons, if_neg hc]

/-- Padding is taken off before the line's own indentation. -/
theorem strip_padLine (taken put : Nat) (line : Text) :
    strip taken (padLine put line) = padLine (put - taken) (strip (taken - put) line) := by
  induction put generalizing taken with
  | zero => simp
  | succ put ih =>
    cases taken with
    | zero => simp
    | succ taken =>
      rw [padLine_succ, strip_succ_cons, if_pos (by decide), ih, Nat.add_sub_add_right,
        Nat.add_sub_add_right]

/-- Move a line as far as one column is from another, and at most to the left edge. -/
def shift (own column : Nat) (line : Text) : Text := padLine (column - own) (strip (own - column) line)

/-- A line is not moved from a column to the same column. -/
@[simp] theorem shift_self (column : Nat) (line : Text) : shift column column line = line := by
  simp [shift]

/-- Moving a line to the left takes indentation off. -/
theorem shift_eq_strip (h : column ≤ own) : shift own column = strip (own - column) := by
  funext line
  rw [shift, Nat.sub_eq_zero_of_le h, padLine_zero]

/-- Moving a line to the right pads it. -/
theorem shift_eq_padLine (h : own ≤ column) : shift own column = padLine (column - own) := by
  funext line
  rw [shift, Nat.sub_eq_zero_of_le h, strip_zero]

/-- A moved line keeps what stands behind its indentation. -/
theorem afterIndent_shift (own column : Nat) (line : Text) :
    afterIndent (shift own column line) = afterIndent line := by
  rw [shift, afterIndent_padLine, afterIndent_strip]

/-- A moved line is indented further or less by the distance of the columns. -/
theorem indentation_shift (own column : Nat) (line : Text) :
    indentation (shift own column line) = indentation line + column - own := by
  rw [shift, indentation_padLine, indentation_strip]
  omega

/-- A moved line is blank if it was. -/
theorem isBlank_shift (own column : Nat) (line : Text) :
    isBlank (shift own column line) = isBlank line := by
  rw [← isBlank_afterIndent, afterIndent_shift, isBlank_afterIndent]

/-- Moving a line does not break it. -/
theorem lineFeed_mem_shift (own column : Nat) {line : Text} :
    '\n' ∈ shift own column line ↔ '\n' ∈ line := by
  rw [← lineFeed_mem_afterIndent, afterIndent_shift, lineFeed_mem_afterIndent]

/-- A second shift that leads to the left makes one shift with the first, whichever way that led. -/
theorem shift_shift {next : Nat} (h : next ≤ column) (own : Nat) (line : Text) :
    shift column next (shift own column line) = shift own next line := by
  have hput : column - own - (column - next) = next - own := by omega
  have htaken : own - column + (column - next - (column - own)) = own - next := by omega
  calc shift column next (shift own column line)
      = strip (column - next) (padLine (column - own) (strip (own - column) line)) := by
        rw [shift_eq_strip h, shift]
    _ = padLine (next - own) (strip (own - next) line) := by
        rw [strip_padLine, strip_strip, hput, htaken]

/-! ## Shifts of texts -/

/-- Change a line that is not blank. -/
def onContent (f : Text → Text) (line : Text) : Text := if isBlank line then line else f line

/-- Lines stay lines if nothing that is written into them breaks them. -/
theorem lineFeed_notMem_onContent (hf : ∀ line, '\n' ∉ line → '\n' ∉ f line)
    (h : line ∈ (lines t).map (onContent f)) : '\n' ∉ line := by
  obtain ⟨old, hold, rfl⟩ := List.mem_map.mp h
  have hold : '\n' ∉ old := notMem_of_mem_split hold
  rw [onContent]
  split
  · exact hold
  · exact hf old hold

/-- The lines of a changed text are the changed lines. -/
theorem lines_mapLines (hf : ∀ line, '\n' ∉ line → '\n' ∉ f line) (t : Text) :
    lines (mapLines f t) = (lines t).map (onContent f) := by
  have hmap : mapLines f t = unlines ((lines t).map (onContent f)) := rfl
  rw [hmap, lines_unlines (by simpa using lines_ne_nil t) fun _ => lineFeed_notMem_onContent hf]

/-- The lines of a shifted text are the shifted lines of the text. -/
theorem lines_shift (own column : Nat) (t : Text) :
    lines (mapLines (shift own column) t) = (lines t).map (onContent (shift own column)) :=
  lines_mapLines (fun _ => (lineFeed_mem_shift own column).not.mpr) t

/-- The blank lines of a moved text are those that were blank. -/
theorem isBlank_onContent_shift (own column : Nat) (line : Text) :
    isBlank (onContent (shift own column) line) = isBlank line := by
  rw [onContent]
  split
  · rfl
  · exact isBlank_shift own column line

/-- A text is not moved from a column to the same column. -/
theorem mapLines_shift_self (column : Nat) (t : Text) : mapLines (shift column column) t = t := by
  have hsame : onContent (shift column column) = id := by
    funext line
    simp [onContent]
  rw [← unlines_lines (mapLines (shift column column) t), lines_shift, hsame, List.map_id,
    unlines_lines]

/-- Moving a text twice, the second time not further to the right, is moving it once. -/
theorem mapLines_shift_shift {next : Nat} (h : next ≤ column) (own : Nat) (t : Text) :
    mapLines (shift column next) (mapLines (shift own column) t) = mapLines (shift own next) t := by
  have hone (line : Text) : onContent (shift column next) (onContent (shift own column) line) =
      onContent (shift own next) line := by
    rw [onContent, isBlank_onContent_shift, onContent, onContent]
    split
    · rfl
    · exact shift_shift h own line
  rw [← unlines_lines (mapLines (shift column next) _), lines_shift, lines_shift, List.map_map,
    ← unlines_lines (mapLines (shift own next) t), lines_shift]
  exact congrArg unlines (List.map_congr_left fun line _ => hone line)

/-- A shift moves the first line that is not blank to the column. -/
theorem contentIndentation?_shift (h : contentIndentation? t = some own) (column : Nat) :
    contentIndentation? (mapLines (shift own column) t) = some column := by
  obtain ⟨line, hline, rfl⟩ := Option.map_eq_some_iff.mp h
  have hcontent : isBlank line = false := by simpa using List.find?_some hline
  have hfind : (lines (mapLines (shift (indentation line) column) t)).find?
      (fun line => !isBlank line) = some (shift (indentation line) column line) := by
    simp only [lines_shift, List.find?_map, Function.comp_def, isBlank_onContent_shift, hline]
    simp [onContent, hcontent]
  rw [contentIndentation?, hfind, Option.map_some, indentation_shift, Nat.add_sub_cancel_left]

end Alignment

/-! ## Alignment as a shift -/

variable {t r : Text} {own column : Nat} {policy : Shortfall}

/-- A text with content is shifted, unless it is too far to the left and the policy refuses it or
leaves it there. -/
theorem align_eq (t : Text) (column : Nat) (policy : Shortfall) : align t column policy =
    match contentIndentation? t with
    | none => .ok t
    | some own =>
      if own < column ∧ policy = .fail then .error own
      else if own < column ∧ policy = .preserve then .ok t
      else .ok (mapLines (shift own column) t) := by
  rw [align]
  cases contentIndentation? t with
  | none => rfl
  | some own =>
    rcases Nat.lt_trichotomy own column with hless | rfl | hmore
    · have hshift := shift_eq_padLine (Nat.le_of_lt hless)
      cases policy <;> simp [hless, Nat.lt_asymm hless, hshift]
    · simp [mapLines_shift_self]
    · simp [hmore, Nat.lt_asymm hmore, shift_eq_strip (Nat.le_of_lt hmore)]

/-- Where a text can be moved, it is shifted. -/
theorem align_eq_shift (hown : contentIndentation? t = some own)
    (h : own < column → policy = .pad) :
    align t column policy = .ok (mapLines (shift own column) t) := by
  have hpad (other : Shortfall) (hother : other ≠ .pad) : ¬ (own < column ∧ policy = other) :=
    fun ⟨hless, hpolicy⟩ => hother (hpolicy.symm.trans (h hless))
  rw [align_eq, hown]
  exact (if_neg (hpad .fail nofun)).trans (if_neg (hpad .preserve nofun))

/-- A text that stands at its column stays as it is. -/
theorem align_own (hown : contentIndentation? t = some own) (policy : Shortfall) :
    align t own policy = .ok t := by
  rw [align_eq_shift hown fun h => absurd h (Nat.lt_irrefl own), mapLines_shift_self]

/-- Only the failing policy refuses a text, and only one that is too far to the left. -/
theorem align_eq_error_iff : align t column policy = .error own ↔
    policy = .fail ∧ contentIndentation? t = some own ∧ own < column := by
  rw [align_eq]
  constructor
  · intro h
    cases hown : contentIndentation? t with
    | none => simp [hown] at h
    | some indent =>
      simp only [hown] at h
      by_cases hfail : indent < column ∧ policy = .fail
      · rw [if_pos hfail] at h
        obtain rfl := Except.error.inj h
        exact ⟨hfail.2, rfl, hfail.1⟩
      · rw [if_neg hfail] at h
        split at h <;> exact nomatch h
  · rintro ⟨rfl, hown, hless⟩
    rw [hown]
    exact if_pos ⟨hless, rfl⟩

/-- All that moving a text can do: a text without content and one that may stay too far to the left
are left alone, every other one is shifted. -/
theorem align_eq_ok_iff : align t column policy = .ok r ↔
    (contentIndentation? t = none ∧ r = t) ∨
      ∃ own, contentIndentation? t = some own ∧
        (own < column ∧ policy = .preserve ∧ r = t ∨
          (own < column → policy = .pad) ∧ r = mapLines (shift own column) t) := by
  rw [align_eq]
  cases contentIndentation? t with
  | none => simp [eq_comm]
  | some own =>
    by_cases hless : own < column
    · cases policy <;> simp [hless, Nat.not_le.mpr hless, eq_comm]
    · simp [hless, eq_comm]

end Stencil
