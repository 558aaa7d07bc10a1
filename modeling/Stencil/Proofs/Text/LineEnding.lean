import Mathlib.Data.List.Basic
import Stencil.Proofs.Text.Cut
import Stencil.Proofs.Text.Replace

/-!
# Line endings

A text with every line feed written as a carriage return and a line feed. Each position of the text
has one in the longer text, and what stands between two positions is written the same way there.
Lines, trimming and replacement go along, because a carriage return is white space and no piece that
is replaced ends with one.
-/

namespace Stencil

namespace Text

/-- The text with a carriage return before every line feed. -/
def crlf (t : Text) : Text := t.replace ['\n'] ['\r', '\n']

@[simp] theorem crlf_nil : crlf [] = [] := rfl

/-- A line feed gets a carriage return in front. -/
@[simp] theorem crlf_lineFeed (t : Text) : crlf ('\n' :: t) = '\r' :: '\n' :: crlf t :=
  replace_append (List.cons_ne_nil _ _) t

/-- Every other character stays. -/
theorem crlf_cons {c : Char} (hc : c ≠ '\n') (t : Text) : crlf (c :: t) = c :: crlf t := by
  refine replace_cons (List.cons_ne_nil _ _) fun hpre => hc ?_
  exact (List.cons_prefix_cons.mp hpre).1.symm

/-- The `crlf` form of two texts is that of each. -/
@[simp] theorem crlf_append (s t : Text) : crlf (s ++ t) = crlf s ++ crlf t := by
  induction s with
  | nil => rfl
  | cons c s ih =>
    by_cases hc : c = '\n'
    · rw [hc, List.cons_append, crlf_lineFeed, crlf_lineFeed, ih, List.cons_append,
        List.cons_append]
    · rw [List.cons_append, crlf_cons hc, crlf_cons hc, ih, List.cons_append]

/-- A text on one line is its own `crlf` form. -/
theorem crlf_eq_self {t : Text} (h : '\n' ∉ t) : crlf t = t := by
  induction t with
  | nil => rfl
  | cons c t ih =>
    obtain ⟨hc, ht⟩ := List.ne_and_not_mem_of_not_mem_cons h
    rw [crlf_cons (Ne.symm hc), ih ht]

/-- The `crlf` form of a text has several lines if the text has. -/
theorem lineFeed_mem_crlf {t : Text} : '\n' ∈ crlf t ↔ '\n' ∈ t := by
  induction t with
  | nil => rfl
  | cons c t ih =>
    by_cases hc : c = '\n'
    · simp [hc]
    · rw [crlf_cons hc, List.mem_cons, List.mem_cons, ih]

/-- No line ending is written without a carriage return. -/
theorem crlf_ne_lineFeed (t rest : Text) : crlf t ≠ '\n' :: rest := by
  cases t with
  | nil => exact nofun
  | cons c t =>
    by_cases hc : c = '\n'
    · rw [hc, crlf_lineFeed]
      exact fun h => absurd (List.cons.inj h).1 (by decide)
    · rw [crlf_cons hc]
      exact fun h => hc (List.cons.inj h).1

/-- Different texts have different `crlf` forms. -/
theorem crlf_injective {s t : Text} (h : crlf s = crlf t) : s = t := by
  induction s generalizing t with
  | nil =>
    cases t with
    | nil => rfl
    | cons d t =>
      by_cases hd : d = '\n'
      · rw [hd, crlf_lineFeed] at h
        exact nomatch h
      · rw [crlf_cons hd] at h
        exact nomatch h
  | cons c s ih =>
    cases t with
    | nil =>
      by_cases hc : c = '\n'
      · rw [hc, crlf_lineFeed] at h
        exact nomatch h
      · rw [crlf_cons hc] at h
        exact nomatch h
    | cons d t =>
      by_cases hc : c = '\n' <;> by_cases hd : d = '\n'
      · rw [hc, hd, crlf_lineFeed, crlf_lineFeed] at h
        rw [hc, hd, ih (List.cons.inj (List.cons.inj h).2).2]
      · rw [hc, crlf_lineFeed, crlf_cons hd] at h
        exact absurd (List.cons.inj h).2.symm (crlf_ne_lineFeed t _)
      · rw [hd, crlf_lineFeed, crlf_cons hc] at h
        exact absurd (List.cons.inj h).2 (crlf_ne_lineFeed s _)
      · rw [crlf_cons hc, crlf_cons hd] at h
        rw [(List.cons.inj h).1, ih (List.cons.inj h).2]

/-- The last character stays. -/
@[simp] theorem getLast?_crlf (t : Text) : (crlf t).getLast? = t.getLast? := by
  rcases List.eq_nil_or_concat t with rfl | ⟨t, c, rfl⟩
  · rfl
  · by_cases hc : c = '\n'
    · rw [hc, List.concat_eq_append, crlf_append, crlf_lineFeed, crlf_nil, List.getLast?_append,
        List.getLast?_concat]
      rfl
    · rw [List.concat_eq_append, crlf_append, crlf_cons hc, crlf_nil, List.getLast?_concat,
        List.getLast?_concat]

/-- The `crlf` form of joined texts is their joined `crlf` forms. -/
theorem crlf_intercalate (separator : Text) (ts : List Text) :
    crlf (List.intercalate separator ts) = List.intercalate (crlf separator) (ts.map crlf) := by
  induction ts with
  | nil => rfl
  | cons t ts ih =>
    cases ts with
    | nil => simp only [List.intercalate_singleton, List.map_cons, List.map_nil]
    | cons u ts => simp only [List.intercalate_cons_cons, crlf_append, ih, List.map_cons]

/-! ## Positions -/

/-- Where a position of a text lies once its line endings are written out. -/
def crlfPosition (t : Text) (position : Nat) : Nat := (crlf (t.take position)).length

@[simp] theorem crlfPosition_zero (t : Text) : crlfPosition t 0 = 0 := rfl

/-- The position behind a part of a text is the position behind its `crlf` form. -/
theorem crlfPosition_length_append (s t : Text) :
    crlfPosition (s ++ t) s.length = (crlf s).length := by
  rw [crlfPosition, List.take_left]

/-- A position is as far behind an earlier one as the `crlf` form between them is long. -/
theorem crlfPosition_add (t : Text) (i n : Nat) : crlfPosition t (i + n) =
    crlfPosition t i + (crlf ((t.drop i).take n)).length := by
  rw [crlfPosition, List.take_add, crlf_append, List.length_append, crlfPosition]

/-- Positions keep their order. -/
theorem crlfPosition_lt {t : Text} {i j : Nat} (hij : i < j) (hj : j ≤ t.length) :
    crlfPosition t i < crlfPosition t j := by
  obtain ⟨n, rfl⟩ := Nat.exists_eq_add_of_le (Nat.le_of_lt hij)
  have hne : (t.drop i).take n ≠ [] := by
    refine List.ne_nil_of_length_pos ?_
    rw [List.length_take, List.length_drop]
    omega
  have hpos : 0 < (crlf ((t.drop i).take n)).length := by
    refine List.length_pos_iff.mpr fun hnil => hne (crlf_injective ?_)
    rw [hnil, crlf_nil]
  rw [crlfPosition_add]
  omega

/-- Positions are in order just if they were. -/
theorem crlfPosition_le_iff {t : Text} {i j : Nat} (hi : i ≤ t.length) (hj : j ≤ t.length) :
    crlfPosition t i ≤ crlfPosition t j ↔ i ≤ j := by
  refine ⟨fun h => Nat.not_lt.mp fun hlt => ?_, fun h => ?_⟩
  · exact absurd (crlfPosition_lt hlt hi) (Nat.not_lt.mpr h)
  · rcases Nat.lt_or_eq_of_le h with hlt | rfl
    · exact Nat.le_of_lt (crlfPosition_lt hlt hj)
    · exact Nat.le_refl _

/-- Different positions stay different. -/
theorem crlfPosition_inj {t : Text} {i j : Nat} (hi : i ≤ t.length) (hj : j ≤ t.length) :
    crlfPosition t i = crlfPosition t j ↔ i = j := by
  rw [Nat.le_antisymm_iff, crlfPosition_le_iff hi hj, crlfPosition_le_iff hj hi,
    ← Nat.le_antisymm_iff]

/-- The `crlf` form from a position on is that of the text from there on. -/
theorem drop_crlf (t : Text) (i : Nat) : (crlf t).drop (crlfPosition t i) = crlf (t.drop i) := by
  have hsplit : crlf t = crlf (t.take i) ++ crlf (t.drop i) := by
    rw [← crlf_append, List.take_append_drop]
  rw [hsplit, crlfPosition, List.drop_left]

/-- What stands from one position up to another is written the same way. -/
theorem take_crlf_drop (t : Text) (i j : Nat) :
    (crlf (t.drop i)).take (crlfPosition t j - crlfPosition t i) =
      crlf ((t.drop i).take (j - i)) := by
  rcases Nat.le_total i j with h | h
  · obtain ⟨n, rfl⟩ := Nat.exists_eq_add_of_le h
    have hsplit : crlf (t.drop i) = crlf ((t.drop i).take n) ++ crlf ((t.drop i).drop n) := by
      rw [← crlf_append, List.take_append_drop]
    rw [crlfPosition_add, Nat.add_sub_cancel_left, Nat.add_sub_cancel_left, hsplit, List.take_left]
  · obtain ⟨n, rfl⟩ := Nat.exists_eq_add_of_le h
    rw [crlfPosition_add, Nat.sub_eq_zero_of_le (Nat.le_add_right _ _),
      Nat.sub_eq_zero_of_le (Nat.le_add_right _ _), List.take_zero, List.take_zero, crlf_nil]

/-- The `crlf` form between two positions is that of the text between them. -/
theorem between_crlf (t : Text) (i j : Nat) :
    (crlf t).between (crlfPosition t i) (crlfPosition t j) = crlf (t.between i j) := by
  rw [between, between, drop_crlf, take_crlf_drop]

/-! ## White space and lines -/

/-- The `crlf` form of a text is blank if the text is. -/
theorem isBlank_crlf (t : Text) : isBlank (crlf t) = isBlank t := by
  induction t with
  | nil => rfl
  | cons c t ih =>
    by_cases hc : c = '\n'
    · rw [hc, crlf_lineFeed]
      exact ih
    · rw [crlf_cons hc]
      exact congrArg (isSpace c && ·) ih

/-- White space at the end is dropped from the `crlf` form as from the text. -/
theorem trimEnd_crlf (t : Text) : trimEnd (crlf t) = crlf (trimEnd t) := by
  obtain ⟨space, hspace, ht⟩ := exists_trimEnd_append t
  have hclosed : Closed (crlf (trimEnd t)) := by
    intro c hc
    exact closed_trimEnd t c (by rwa [getLast?_crlf] at hc)
  calc trimEnd (crlf t) = trimEnd (crlf (trimEnd t) ++ crlf space) := by
        rw [← crlf_append, ← ht]
    _ = crlf (trimEnd t) := trimEnd_append_closed hclosed (by rw [isBlank_crlf, hspace])

/-- A carriage return after each line but the last. -/
def withReturns : List Text → List Text
  | [] => []
  | [line] => [line]
  | line :: next :: more => (line ++ ['\r']) :: withReturns (next :: more)

/-- A line with others behind it gets a carriage return. -/
theorem withReturns_cons (line : Text) {ls : List Text} (h : ls ≠ []) :
    withReturns (line :: ls) = (line ++ ['\r']) :: withReturns ls := by
  cases ls with
  | nil => exact absurd rfl h
  | cons next more => rfl

/-- The lines of a `crlf` form are those of the text, with carriage returns at their ends. -/
theorem lines_crlf (t : Text) : lines (crlf t) = withReturns (lines t) := by
  induction t with
  | nil => rfl
  | cons c t ih =>
    by_cases hc : c = '\n'
    · have hreturn : lines (['\r'] ++ '\n' :: crlf t) = (['\r'] ++ []) :: lines (crlf t) :=
        lines_append (by decide) (lines_lineFeed _)
      rw [hc, crlf_lineFeed, lines_lineFeed, withReturns_cons _ (lines_ne_nil t), ← ih]
      exact hreturn
    · have hu : '\n' ∉ [c] := fun hm => hc (List.mem_singleton.mp hm).symm
      obtain ⟨line, more, ht⟩ := List.exists_cons_of_ne_nil (lines_ne_nil t)
      rw [ht] at ih
      rw [crlf_cons hc, ← List.singleton_append, ← List.singleton_append (l := t),
        lines_append hu ht]
      cases more with
      | nil => exact lines_append hu ih
      | cons next more => exact lines_append hu ih

/-- No line is lost when carriage returns are put at the ends. -/
theorem withReturns_ne_nil {ls : List Text} (h : ls ≠ []) : withReturns ls ≠ [] := by
  obtain ⟨line, more, rfl⟩ := List.exists_cons_of_ne_nil h
  cases more <;> exact List.cons_ne_nil _ _

/-- Lines with carriage returns at their ends make the `crlf` form of a text. -/
theorem unlines_withReturns {ls : List Text} (h : ∀ line ∈ ls, '\n' ∉ line) :
    unlines (withReturns ls) = crlf (unlines ls) := by
  induction ls with
  | nil => rfl
  | cons line ls ih =>
    obtain ⟨hline, hls⟩ := List.forall_mem_cons.mp h
    by_cases hne : ls = []
    · rw [hne, withReturns, unlines, List.intercalate_singleton, crlf_eq_self hline]
    · have ih : List.intercalate ['\n'] (withReturns ls) = crlf (List.intercalate ['\n'] ls) :=
        ih hls
      rw [withReturns_cons line hne, unlines, unlines,
        List.intercalate_cons_of_ne_nil (withReturns_ne_nil hne),
        List.intercalate_cons_of_ne_nil hne, ih, crlf_append, crlf_append, crlf_eq_self hline,
        crlf_lineFeed, crlf_nil, List.append_assoc, List.append_assoc, List.append_assoc]
      rfl

/-! ## Replacement -/

/-- A piece without line endings begins in both texts or in neither. -/
theorem prefix_crlf_iff {piece t : Text} (hfeed : '\n' ∉ piece)
    (hreturn : piece.getLast? ≠ some '\r') : piece <+: crlf t ↔ piece <+: t := by
  induction piece generalizing t with
  | nil => simp only [List.nil_prefix]
  | cons p piece ih =>
    obtain ⟨hp, hpiece⟩ := List.ne_and_not_mem_of_not_mem_cons hfeed
    have hlast : piece.getLast? ≠ some '\r' := fun h => hreturn (by rw [List.getLast?_cons, h]; rfl)
    cases t with
    | nil => rfl
    | cons c t =>
      by_cases hc : c = '\n'
      · rw [hc, crlf_lineFeed, List.cons_prefix_cons, List.cons_prefix_cons]
        refine iff_of_false ?_ fun h => hp h.1.symm
        -- The piece would end with the carriage return or go on with the line feed.
        rintro ⟨rfl, h⟩
        cases piece with
        | nil => exact hreturn rfl
        | cons q piece =>
          refine hpiece ?_
          rw [← (List.cons_prefix_cons.mp h).1]
          exact List.mem_cons_self
      · rw [crlf_cons hc, List.cons_prefix_cons, List.cons_prefix_cons, ih hpiece hlast]

/-- A piece without line breaks is replaced in the `crlf` form of a text as in the text. -/
theorem replace_crlf {piece new : Text} (hne : piece ≠ []) (hfeed : '\n' ∉ piece)
    (hreturn : piece.getLast? ≠ some '\r') (hnew : '\n' ∉ new) (t : Text) :
    replace (crlf t) piece new = crlf (replace t piece new) := by
  apply replace_induction (motive := fun t u => replace (crlf t) piece new = crlf u) hne
  · rw [crlf_nil, replace_nil hne]
  · intro t ih
    rw [crlf_append, crlf_eq_self hfeed, replace_append hne, crlf_append, crlf_eq_self hnew, ih]
  · intro c t hpre ih
    have hcrlf := (prefix_crlf_iff hfeed hreturn).not.mpr hpre
    by_cases hc : c = '\n'
    · have hstart : ¬ piece <+: '\n' :: crlf t := by
        obtain ⟨p, more, rfl⟩ := List.exists_cons_of_ne_nil hne
        exact fun h => hfeed ((List.cons_prefix_cons.mp h).1 ▸ List.mem_cons_self)
      rw [hc, crlf_lineFeed] at hcrlf
      rw [hc, crlf_lineFeed, crlf_lineFeed, replace_cons hne hcrlf, replace_cons hne hstart, ih]
    · rw [crlf_cons hc] at hcrlf
      rw [crlf_cons hc, crlf_cons hc, replace_cons hne hcrlf, ih]

end Text

end Stencil
