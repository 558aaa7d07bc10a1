import Stencil.Proofs.Grammar.LineEnding
import Stencil.Proofs.Loop.Element
import Stencil.Proofs.Loop.Match
import Stencil.Proofs.Loop.Parts

/-!
# Loops and line endings

A template without carriage returns and its `crlf` form have the same loops: each is made of the
same parts, with their line endings written out.
-/

namespace Stencil

open Grammar Pattern Text

namespace Loop

variable {template : Text} {vars : Variables} {tag body : Pair}

/-- Loops are found in step in a template without carriage returns. -/
theorem inStep_loop {c : Char} (ht : Delimiters.pairFault? tag = none)
    (hb : Delimiters.pairFault? body = none) (hc : body.closing = [c]) (hreturn : '\r' ∉ template) :
    InStep template (Grammar.loop tag body) where
  mirrors := by
    have hblock := mirrors_block (t := template) hb hc hreturn blockGroup
    have hindent : Steady template (.group (some offsetGroup)
        (.seq (.boundary .lineStart) (.star .longest (.one .blank)))) :=
      ((steady_lineStart template).seq (steady_star_one rfl rfl .longest)).named offsetGroup
    have hjoiner := (steady_inline (t := template) ht joinerGroup).group.optional .longest
    exact hindent _ _ (steady_inline ht variableGroup _ _ (hjoiner _ _ hblock))
  middle cursor rest hprevious _ := by
    refine run_loop_of_not_lineStart ?_
    rw [hprevious]
    rfl

namespace Parts

variable {p : Parts}

/-- The parts with their line endings written out. -/
def crlf (p : Parts) : Parts where
  indent := Text.crlf p.indent
  name := Text.crlf p.name
  joiner := p.joiner.map Text.crlf
  gap := Text.crlf p.gap
  lineBreak := Text.crlf p.lineBreak
  block := Text.crlf p.block
  ending := Text.crlf p.ending

/-- The parts of a loop are noted in their `crlf` form. -/
theorem notes_crlf (p : Parts) :
    p.crlf.notes = p.notes.map fun note => (note.1, Text.crlf note.2) := by
  cases hj : p.joiner <;> simp [notes, crlf, hj]

/-- The parts of a loop in their `crlf` form make the `crlf` form of its text. -/
theorem text_crlf (ht : Delimiters.pairFault? tag = none) (hb : Delimiters.pairFault? body = none)
    (p : Parts) : p.crlf.text tag body = Text.crlf (p.text tag body) := by
  have hjoiner : p.crlf.joiner.elim [] tag.wrap = Text.crlf (p.joiner.elim [] tag.wrap) := by
    rw [crlf]
    cases p.joiner with
    | none => rfl
    | some joiner => exact (Pair.crlf_wrap ht joiner).symm
  simp only [text, hjoiner, Text.crlf_append, Pair.crlf_wrap ht, Delimiters.crlf_opening hb,
    Delimiters.crlf_closing hb]
  rfl

/-- Indentation stays as it is. -/
theorem Valid.indent_crlf (hp : p.Valid tag body) : p.crlf.indent = p.indent :=
  Text.crlf_eq_self fun hm => absurd (hp.indent _ hm) (by decide)

/-- The line breaks of a loop are those of its text. -/
theorem Valid.lineFeed_mem_text (hp : p.Valid tag body) : '\n' ∈ p.text tag body := by
  have hbreak : '\n' ∈ p.lineBreak := by rcases hp.lineBreak with h | h <;> rw [h] <;> decide
  simp only [text, List.mem_append, hbreak, true_or, or_true]

end Parts

/-- Two loops of the same parts, one of a template and one of its `crlf` form. -/
def Beside (vars : Variables) (tag body : Pair) (template : Text) (l l' : Loop) : Prop :=
  ∃ (before : Text) (p : Parts) (after : Text), p.Valid tag body ∧
    template = before ++ (p.text tag body ++ after) ∧ l = p.toLoop vars tag body before.length ∧
    l' = p.crlf.toLoop vars tag body (Text.crlf before).length

/-- A template without carriage returns and its `crlf` form have the same loops. -/
theorem forall₂_all {c : Char} (ht : Delimiters.pairFault? tag = none)
    (hb : Delimiters.pairFault? body = none) (hc : body.closing = [c]) (hreturn : '\r' ∉ template)
    (vars : Variables) : List.Forall₂ (Beside vars tag body template)
      (all template vars tag body) (all (Text.crlf template) vars tag body) := by
  have hmatches := (inStep_loop ht hb hc hreturn).forall₂_occurrences
  have hboth := (List.forall₂_and_left _ _).mpr
    ⟨fun m (hm : m ∈ (Grammar.loop tag body).occurrences template) => hm, hmatches⟩
  rw [all, all, List.forall₂_map_left_iff, List.forall₂_map_right_iff]
  refine hboth.imp fun m m' ⟨hm, hbeside⟩ => ?_
  obtain ⟨before, p, after, hp, rfl, _, hstart, hstop, hnotes⟩ := exists_parts_of_mem_occurrences
    (Delimiters.closing_ne_nil ht) (Delimiters.closing_ne_nil hb) hm
  refine ⟨before, p, after, hp, rfl, ofMatch_of_notes vars hstart hstop hnotes,
    ofMatch_of_notes vars ?_ ?_ ?_⟩
  · rw [hbeside.start_eq, hstart, crlfPosition_length_append]
  · rw [hbeside.stop_eq, hstop, p.text_crlf ht hb, crlfPosition_add, crlfPosition_length_append,
      List.drop_left, List.take_left]
  · rw [hbeside.notes_eq, hnotes, p.notes_crlf]

end Loop

end Stencil
