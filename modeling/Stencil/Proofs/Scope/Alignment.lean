import Mathlib.Data.List.Forall2
import Stencil.Proofs.Alignment.Shift
import Stencil.Proofs.Scope.Tokenized

/-!
# Alignment and tokens

Moving a text to a column and trimming it touch white space only, and no token begins or ends with
white space or breaks a line. So both do the same to two texts that differ in the names of their
tokens.
-/

namespace Stencil

open Stencil.Alignment

variable {pair : Pair} {Name : Text → Prop} {f : Text → Text} {s t : Text}

/-- Two renamed texts make one. -/
theorem Renamed.append {s' t' : Text} (h : Renamed pair Name f s t)
    (h' : Renamed pair Name f s' t') : Renamed pair Name f (s ++ s') (t ++ t') := by
  induction h with
  | nil => exact h'
  | char hc _ ih => exact .char hc ih
  | token hn _ ih =>
    rw [List.append_assoc, List.append_assoc]
    exact .token hn ih

/-- No opening delimiter holds white space. -/
theorem Pair.Distinct.space_notMem (hp : pair.Distinct) {c : Char} (hc : Text.isSpace c = true) :
    c ∉ pair.opening := fun hm => by
  rw [hp.opening c hm] at hc
  exact nomatch hc

/-- The token of a clean name is on one line. -/
theorem Pair.Distinct.lineFeed_notMem (hp : pair.Distinct) {name : Text}
    (hn : pair.Clean name) : '\n' ∉ pair.wrap name := by
  intro hm
  rcases List.mem_append.mp hm with hm | hm
  · rcases List.mem_append.mp hm with hm | hm
    · exact hp.space_notMem rfl hm
    · exact (hn _ hm).2.2 rfl
  · exact nomatch (hp.closing _ hm).symm.trans (show Text.isSpace '\n' = true from rfl)

/-- The lines of a renamed text are the renamed lines. -/
theorem Renamed.lines (hp : pair.Distinct)
    (hclean : ∀ n, Name n → pair.Clean n ∧ pair.Clean (f n)) (h : Renamed pair Name f s t) :
    List.Forall₂ (Renamed pair Name f) (Text.lines s) (Text.lines t) := by
  induction h with
  | nil => exact .cons .nil .nil
  | @char c s t hc _ ih =>
    by_cases hfeed : c = '\n'
    · subst c
      rw [Text.lines_lineFeed, Text.lines_lineFeed]
      exact .cons .nil ih
    · have hu : '\n' ∉ [c] := fun hm => hfeed (List.mem_singleton.mp hm).symm
      generalize hs : Text.lines s = ls at ih
      generalize ht : Text.lines t = lt at ih
      cases ih with
      | nil => exact absurd hs (Text.lines_ne_nil s)
      | cons hline hmore =>
        rw [← List.singleton_append, Text.lines_append hu hs, ← List.singleton_append (l := t),
          Text.lines_append hu ht]
        exact .cons (.char hc hline) hmore
  | @token name s t hn _ ih =>
    obtain ⟨hold, hnew⟩ := hclean name hn
    generalize hs : Text.lines s = ls at ih
    generalize ht : Text.lines t = lt at ih
    cases ih with
    | nil => exact absurd hs (Text.lines_ne_nil s)
    | cons hline hmore =>
      rw [Text.lines_append (hp.lineFeed_notMem hold) hs,
        Text.lines_append (hp.lineFeed_notMem hnew) ht]
      exact .cons (.token hn hline) hmore

/-- Renamed lines make a renamed text. -/
theorem Renamed.unlines (hp : pair.Distinct) {ls lt : List Text}
    (h : List.Forall₂ (Renamed pair Name f) ls lt) :
    Renamed pair Name f (Text.unlines ls) (Text.unlines lt) := by
  induction h with
  | nil => exact .nil
  | @cons line line' ls lt hline hmore ih =>
    cases hmore with
    | nil => simpa only [Text.unlines, List.intercalate_singleton] using hline
    | cons hnext hmore =>
      simp only [Text.unlines, List.intercalate_cons_cons, List.append_assoc,
        List.singleton_append]
      exact hline.append (.char (hp.space_notMem rfl) ih)

private theorem Pair.Distinct.exists_wrap_eq_cons (hp : pair.Distinct) (name : Text) :
    ∃ c rest, pair.wrap name = c :: rest ∧ Text.isSpace c = false := by
  obtain ⟨c, more, hc⟩ := List.exists_cons_of_ne_nil hp.opening_ne_nil
  refine ⟨c, more ++ (name ++ pair.closing), ?_, hp.opening c (hc ▸ List.mem_cons_self)⟩
  rw [Pair.wrap, hc, List.append_assoc, List.cons_append]

/-- White space does not end a token. -/
theorem Pair.Distinct.closed_wrap (hp : pair.Distinct) (name : Text) :
    Text.Closed (pair.wrap name) := by
  intro c hc
  rw [Pair.wrap, List.getLast?_append, Option.or_eq_some_iff] at hc
  rcases hc with hc | ⟨hnone, _⟩
  · exact hp.closing c (List.mem_of_getLast? hc)
  · exact absurd (List.getLast?_eq_none_iff.mp hnone) hp.closing_ne_nil

/-- A line with a token in front is not blank. -/
theorem Pair.Distinct.isBlank_wrap_append (hp : pair.Distinct) (name t : Text) :
    Text.isBlank (pair.wrap name ++ t) = false := by
  obtain ⟨c, rest, hwrap, hc⟩ := hp.exists_wrap_eq_cons name
  rw [hwrap, List.cons_append, Text.isBlank, List.all_cons, hc, Bool.false_and]

/-- A renamed line is blank if it was. -/
theorem Renamed.isBlank (hp : pair.Distinct) (h : Renamed pair Name f s t) :
    s.isBlank = t.isBlank := by
  induction h with
  | nil => rfl
  | char _ _ ih => exact congrArg (Text.isSpace _ && ·) ih
  | token => rw [hp.isBlank_wrap_append, hp.isBlank_wrap_append]

/-- White space is dropped from the ends of both texts. -/
theorem Renamed.trimEnd (hp : pair.Distinct) (h : Renamed pair Name f s t) :
    Renamed pair Name f s.trimEnd t.trimEnd := by
  induction h with
  | nil => exact .nil
  | @char c s t hc hst ih =>
    rw [Text.trimEnd_cons, Text.trimEnd_cons, (Renamed.char hc hst).isBlank hp]
    split
    · exact .nil
    · exact .char hc ih
  | token hn _ ih =>
    rw [Text.trimEnd_append (hp.closed_wrap _), Text.trimEnd_append (hp.closed_wrap _)]
    exact .token hn ih

/-! ## Indentation -/

private theorem Renamed.indentation (hp : pair.Distinct) (h : Renamed pair Name f s t) :
    indentation s = indentation t := by
  induction h with
  | nil => rfl
  | char _ _ ih => rw [indentation_cons, indentation_cons, ih]
  | @token name s t _ _ _ =>
    have hnone (name t : Text) : Alignment.indentation (pair.wrap name ++ t) = 0 := by
      obtain ⟨c, rest, hwrap, hc⟩ := hp.exists_wrap_eq_cons name
      simp [Alignment.indentation, hwrap, isIndent_eq_false hc]
    rw [hnone, hnone]

private theorem Renamed.strip (hp : pair.Distinct) (h : Renamed pair Name f s t) (count : Nat) :
    Renamed pair Name f (strip count s) (strip count t) := by
  induction h generalizing count with
  | nil => cases count <;> exact .nil
  | @char c s t hc hst ih =>
    cases count with
    | zero => exact .char hc hst
    | succ count =>
      unfold Alignment.strip
      split
      · exact ih count
      · exact .char hc hst
  | @token name s t hn hst _ =>
    have hstay (name t : Text) :
        Alignment.strip count (pair.wrap name ++ t) = pair.wrap name ++ t := by
      obtain ⟨c, rest, hwrap, hc⟩ := hp.exists_wrap_eq_cons name
      rw [hwrap, List.cons_append]
      cases count with
      | zero => rfl
      | succ count => rw [Alignment.strip, isIndent_eq_false hc, if_neg Bool.false_ne_true]
    rw [hstay, hstay]
    exact .token hn hst

private theorem Renamed.padLine (hp : pair.Distinct) (h : Renamed pair Name f s t) (count : Nat) :
    Renamed pair Name f (padLine count s) (padLine count t) := by
  refine h.chars_append fun c hc => ?_
  exact hp.space_notMem (List.eq_of_mem_replicate hc ▸ rfl)

private theorem Renamed.shift (hp : pair.Distinct) (h : Renamed pair Name f s t)
    (own column : Nat) : Renamed pair Name f (shift own column s) (shift own column t) :=
  (h.strip hp (own - column)).padLine hp (column - own)

private theorem Renamed.mapLines (hp : pair.Distinct)
    (hclean : ∀ n, Name n → pair.Clean n ∧ pair.Clean (f n)) {g : Text → Text}
    (hg : ∀ s t, Renamed pair Name f s t → Renamed pair Name f (g s) (g t))
    (h : Renamed pair Name f s t) : Renamed pair Name f (mapLines g s) (mapLines g t) := by
  refine Renamed.unlines hp ?_
  rw [List.forall₂_map_left_iff, List.forall₂_map_right_iff]
  refine (h.lines hp hclean).imp fun s t hst => ?_
  rw [hst.isBlank hp]
  split
  · exact hst
  · exact hg s t hst

private theorem Renamed.contentIndentation? (hp : pair.Distinct)
    (hclean : ∀ n, Name n → pair.Clean n ∧ pair.Clean (f n)) (h : Renamed pair Name f s t) :
    contentIndentation? s = contentIndentation? t := by
  have hlines := h.lines hp hclean
  unfold Alignment.contentIndentation?
  generalize Text.lines s = ls at hlines ⊢
  generalize Text.lines t = lt at hlines ⊢
  induction hlines with
  | nil => rfl
  | cons hline _ ih =>
    rw [List.find?_cons, List.find?_cons, hline.isBlank hp]
    split
    · rw [Option.map_some, Option.map_some, hline.indentation hp]
    · exact ih

/-- Two texts that differ in the names of their tokens only are moved in the same way. -/
theorem Renamed.align (hp : pair.Distinct)
    (hclean : ∀ n, Name n → pair.Clean n ∧ pair.Clean (f n)) (h : Renamed pair Name f s t)
    (column : Nat) (policy : Shortfall) :
    (∃ own, align s column policy = .error own ∧ align t column policy = .error own) ∨
      ∃ s' t', align s column policy = .ok s' ∧ align t column policy = .ok t' ∧
        Renamed pair Name f s' t' := by
  rw [align_eq, align_eq, ← h.contentIndentation? hp hclean]
  cases Alignment.contentIndentation? s with
  | none => exact .inr ⟨s, t, rfl, rfl, h⟩
  | some own =>
    dsimp only
    split
    · exact .inl ⟨own, rfl, rfl⟩
    · split
      · exact .inr ⟨s, t, rfl, rfl, h⟩
      · exact .inr ⟨_, _, rfl, rfl, h.mapLines hp hclean fun s t hst => hst.shift hp own column⟩

end Stencil
