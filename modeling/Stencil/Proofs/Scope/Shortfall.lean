import Stencil.Expansion
import Stencil.Proofs.Alignment.Shift
import Stencil.Proofs.Text.Replace

/-!
# Loops indented less than their tags

Renaming the tokens of a block moves neither its first line that is not blank nor the indentation of
that line: what is replaced and what is written instead begin with the same delimiter, and it is not
blank. So every iteration of a loop is under-indented or none is, and the loops can be written out
under the failing policy unless one that runs is written too far to the left. The first of them is
reported, and without one the policy does not matter.
-/

namespace Stencil

open Stencil.Alignment Text

/-! ## The white space at the beginning -/

namespace Text

/-- Two texts are the same up to the first character that is not white space. -/
def SameLead (s t : Text) : Prop :=
  s = t ∨ ∃ space c u v, space.isBlank = true ∧ isSpace c = false ∧
    s = space ++ c :: u ∧ t = space ++ c :: v

variable {s t : Text}

/-- The same character in front keeps two texts led by the same white space. -/
theorem SameLead.cons (h : SameLead s t) (c : Char) : SameLead (c :: s) (c :: t) := by
  cases hc : isSpace c with
  | false => exact .inr ⟨[], c, s, t, rfl, hc, rfl, rfl⟩
  | true =>
    rcases h with rfl | ⟨space, d, u, v, hspace, hd, rfl, rfl⟩
    · exact .inl rfl
    · exact .inr ⟨c :: space, d, u, v, by rw [isBlank_cons, hc, hspace, Bool.true_and], hd, rfl, rfl⟩

/-- What is not blank in front of two texts leads both. -/
theorem SameLead.append {u : Text} (hu : u.isBlank = false) (s t : Text) :
    SameLead (u ++ s) (u ++ t) := by
  induction u with
  | nil => exact nomatch hu
  | cons c u ih =>
    cases hc : isSpace c with
    | false => exact .inr ⟨[], c, u ++ s, u ++ t, rfl, hc, rfl, rfl⟩
    | true =>
      rw [isBlank_cons, hc, Bool.true_and] at hu
      exact (ih hu).cons c

/-- A piece that begins like what replaces it, and not with white space only, leaves the white space
before it alone. -/
theorem sameLead_replace {u a b : Text} (hu : u.isBlank = false) (t : Text) :
    SameLead t (replace t (u ++ a) (u ++ b)) := by
  have hne : u ++ a ≠ [] := by
    rintro h
    rw [(List.append_eq_nil_iff.mp h).1] at hu
    exact absurd hu (by decide)
  apply replace_induction hne
  · exact .inl rfl
  · intro t _
    rw [List.append_assoc, List.append_assoc]
    exact SameLead.append hu _ _
  · intro c t _ ih
    exact ih.cons c

/-- White space in front of a text makes blank lines and lengthens the first line of the text. -/
theorem exists_lines_append {space : Text} (hspace : space.isBlank = true) :
    ∃ blanks last, (∀ line ∈ blanks, isBlank line = true) ∧
      ∀ t line more, lines t = line :: more →
        lines (space ++ t) = blanks ++ (last ++ line) :: more := by
  induction space with
  | nil => exact ⟨[], [], nofun, fun _ _ _ h => h⟩
  | cons c space ih =>
    rw [isBlank_cons, Bool.and_eq_true] at hspace
    obtain ⟨blanks, last, hblanks, hlines⟩ := ih hspace.2
    by_cases hfeed : c = '\n'
    · refine ⟨[] :: blanks, last, List.forall_mem_cons.mpr ⟨rfl, hblanks⟩, ?_⟩
      intro t line more ht
      rw [hfeed, List.cons_append, lines_lineFeed, hlines t line more ht, List.cons_append]
    · have hu : '\n' ∉ [c] := fun h => hfeed (List.mem_singleton.mp h).symm
      cases blanks with
      | nil => exact ⟨[], c :: last, nofun, fun t line more ht => lines_append hu (hlines t _ _ ht)⟩
      | cons blank blanks =>
        obtain ⟨hblank, hblanks⟩ := List.forall_mem_cons.mp hblanks
        have hlonger : isBlank (c :: blank) = true := by
          rw [isBlank_cons, hspace.1, hblank, Bool.true_and]
        exact ⟨(c :: blank) :: blanks, last, List.forall_mem_cons.mpr ⟨hlonger, hblanks⟩,
          fun t line more ht => lines_append hu (hlines t _ _ ht)⟩

end Text

namespace Alignment

/-- What follows the first character that is not white space does not count. -/
theorem contentIndentation?_of_sameLead {s t : Text} (h : SameLead s t) :
    contentIndentation? s = contentIndentation? t := by
  rcases h with rfl | ⟨space, c, u, v, hspace, hc, rfl, rfl⟩
  · rfl
  obtain ⟨blanks, last, hblanks, hlines⟩ := exists_lines_append hspace
  have hfeed : '\n' ∉ [c] := by
    intro h
    rw [← List.mem_singleton.mp h] at hc
    exact nomatch hc
  have hlead (t : Text) : contentIndentation? (space ++ c :: t) = some (indentation last) := by
    obtain ⟨line, more, ht⟩ := List.exists_cons_of_ne_nil (lines_ne_nil t)
    have hct : lines (c :: t) = (c :: line) :: more := lines_append hfeed ht
    have hfirst : isBlank (last ++ c :: line) = false := by simp [isBlank, hc]
    have hskip : blanks.find? (fun line => !isBlank line) = none := by
      simpa [List.find?_eq_none] using hblanks
    rw [contentIndentation?, hlines _ _ _ hct, List.find?_append, hskip, Option.none_or,
      List.find?_cons_of_pos (by rw [hfirst]; rfl), Option.map_some, indentation_append (isIndent_eq_false hc)]
  rw [hlead, hlead]

end Alignment

/-! ## Iterations -/

/-- Renaming does not move the first line that is not blank. -/
theorem contentIndentation?_renameTokens {pair : Pair} (hp : pair.opening.isBlank = false)
    (renames : List (Text × Text)) (t : Text) :
    contentIndentation? (renameTokens pair renames t) = contentIndentation? t := by
  induction renames generalizing t with
  | nil => rfl
  | cons r renames ih =>
    have hone : SameLead t (t.replace (pair.wrap r.1) (pair.wrap r.2)) := by
      rw [Pair.wrap, Pair.wrap, List.append_assoc, List.append_assoc]
      exact sameLead_replace hp t
    rw [renameTokens_cons]
    exact (ih _).trans (contentIndentation?_of_sameLead hone).symm

/-- How far a text is indented, where that is less than a column. -/
def shortIndentation? (t : Text) (column : Nat) : Option Nat :=
  (contentIndentation? t).filter (· < column)

variable {t : Text} {column own : Nat} {pair : Pair} {policy : Shortfall}

/-- The failing policy refuses a text with too little indentation. -/
theorem align_fail_of_short (h : shortIndentation? t column = some own) :
    align t column .fail = .error own := by
  obtain ⟨hown, hless⟩ := Option.filter_eq_some_iff.mp h
  exact align_eq_error_iff.mpr ⟨rfl, hown, of_decide_eq_true hless⟩

/-- A text that is indented far enough is moved in the same way under every policy. -/
theorem align_of_not_short (h : shortIndentation? t column = none) (policy policy' : Shortfall) :
    align t column policy = align t column policy' := by
  rw [align_eq, align_eq]
  cases hown : contentIndentation? t with
  | none => rfl
  | some own =>
    have hless : ¬ own < column := by simpa [shortIndentation?, hown] using h
    simp only [hless, false_and, ite_false]

/-- Under the other policies every text is moved. -/
theorem exists_align_of_ne_fail (h : policy ≠ .fail) (t : Text) (column : Nat) :
    ∃ moved, align t column policy = .ok moved := by
  rw [align_eq]
  cases contentIndentation? t with
  | none => exact ⟨t, rfl⟩
  | some own =>
    simp only [h, and_false, ite_false]
    split
    · exact ⟨t, rfl⟩
    · exact ⟨_, rfl⟩

namespace Loop

variable {l : Loop}

/-- What is wrong with a loop that runs and whose block is indented less than its tag. -/
def fault? (l : Loop) : Option RenderError :=
  if l.elements.isEmpty then none
  else (shortIndentation? l.block l.offset).map (.underIndented l.name l.offset)

/-- Every iteration of a loop is aligned as its block is. -/
theorem shortIndentation?_renameTokens (hp : pair.opening.isBlank = false)
    (renames : List (Text × Text)) (t : Text) (column : Nat) :
    shortIndentation? (renameTokens pair renames t) column = shortIndentation? t column := by
  rw [shortIndentation?, contentIndentation?_renameTokens hp, shortIndentation?]

/-- Under the failing policy an iteration of a block with too little indentation fails. -/
theorem iteration_of_short (hp : pair.opening.isBlank = false)
    (h : shortIndentation? l.block l.offset = some own) (element : Variables) (index : Nat) :
    l.iteration pair .fail element index = .error (.underIndented l.name l.offset own) := by
  rw [← shortIndentation?_renameTokens hp (l.renames element index)] at h
  rw [iteration, align_fail_of_short h]

/-- With enough indentation all policies give the same iterations. -/
theorem iterationsFrom_of_not_short (hp : pair.opening.isBlank = false)
    (h : shortIndentation? l.block l.offset = none) (policy policy' : Shortfall)
    (elements : List Variables) (index : Nat) :
    l.iterationsFrom pair policy index elements = l.iterationsFrom pair policy' index elements := by
  induction elements generalizing index with
  | nil => rfl
  | cons element elements ih =>
    have hshort := shortIndentation?_renameTokens hp (l.renames element index) l.block l.offset
    rw [iterationsFrom, iterationsFrom, ih, iteration, iteration,
      align_of_not_short (hshort.trans h) policy policy']

/-- Only the failing policy lets iterations fail. -/
theorem exists_iterationsFrom_of_ne_fail (h : policy ≠ .fail) (l : Loop) (pair : Pair)
    (elements : List Variables) (index : Nat) :
    ∃ ts, l.iterationsFrom pair policy index elements = .ok ts := by
  induction elements generalizing index with
  | nil => exact ⟨[], rfl⟩
  | cons element elements ih =>
    obtain ⟨moved, hmoved⟩ :=
      exists_align_of_ne_fail h (renameTokens pair (l.renames element index) l.block) l.offset
    obtain ⟨ts, hts⟩ := ih (index + 1)
    exact ⟨moved.trimEnd :: ts, by rw [iterationsFrom, iteration, hmoved, hts]⟩

/-- Only the failing policy lets a loop fail. -/
theorem exists_expand_of_ne_fail (h : policy ≠ .fail) (l : Loop) (lineBreak : Text) (pair : Pair) :
    ∃ expansion, l.expand lineBreak pair policy = .ok expansion := by
  obtain ⟨ts, hts⟩ := l.exists_iterationsFrom_of_ne_fail h pair l.elements 0
  exact ⟨_, by rw [expand, iterations, hts]⟩

/-- Under the failing policy a loop fails if it has a fault; otherwise the policy does not matter. -/
theorem expand_fail (hp : pair.opening.isBlank = false) (l : Loop) (lineBreak : Text)
    (policy : Shortfall) :
    l.expand lineBreak pair .fail =
      match l.fault? with
      | some e => .error e
      | none => l.expand lineBreak pair policy := by
  rw [expand, expand, iterations, iterations, fault?]
  cases helements : l.elements with
  | nil => rfl
  | cons element elements =>
    cases hshort : shortIndentation? l.block l.offset with
    | none =>
      rw [iterationsFrom_of_not_short hp hshort .fail policy]
      rfl
    | some own =>
      rw [iterationsFrom, iteration_of_short hp hshort]
      rfl

end Loop

/-! ## Templates -/

/-- No other policy fails. -/
theorem exists_expandFrom_of_ne_fail (h : policy ≠ .fail) (template : Text) (pair : Pair)
    (loops : List Loop) (position : Nat) :
    ∃ expanded, expandFrom template pair policy position loops = .ok expanded := by
  induction loops generalizing position with
  | nil => exact ⟨_, rfl⟩
  | cons l loops ih =>
    obtain ⟨expansion, hexpansion⟩ := l.exists_expand_of_ne_fail h _ pair
    obtain ⟨more, hmore⟩ := ih l.stop
    exact ⟨_, by rw [expandFrom, hexpansion, hmore]⟩

/-- Under the failing policy the first fault of a loop is reported; without one the policy does not
matter. -/
theorem expandFrom_fail (hp : pair.opening.isBlank = false) (h : policy ≠ .fail) (template : Text)
    (loops : List Loop) (position : Nat) :
    expandFrom template pair .fail position loops =
      match loops.findSome? Loop.fault? with
      | some e => .error e
      | none => expandFrom template pair policy position loops := by
  induction loops generalizing position with
  | nil => rfl
  | cons l loops ih =>
    obtain ⟨expansion, hexpansion⟩ := l.exists_expand_of_ne_fail h _ pair
    rw [expandFrom, expandFrom, List.findSome?_cons, l.expand_fail hp _ policy, ih, hexpansion]
    cases l.fault? with
    | some e => rfl
    | none => cases loops.findSome? Loop.fault? <;> rfl

end Stencil
