import Stencil.Loop
import Stencil.Proofs.Delimiter
import Stencil.Proofs.Grammar.Body
import Stencil.Proofs.Pattern.Language
import Stencil.Proofs.Pattern.Occurrence
import Stencil.Proofs.Text.Cut

/-!
# Parts of loops

A loop of a template is written with indentation, tags, a block and what stands between them,
whatever the delimiters: white space in them can make it doubtful which parts a text has, but every
loop that is found has some. `exists_parts_of_mem_all` says so, and that the loop is what its parts
say.
-/

namespace Stencil

open Grammar Pattern

namespace Grammar

variable {pair : Pair} {closing : Text}

/-- A repetition of steps takes a body. -/
theorem finds_star_step (hc : closing ≠ []) (preference : Preference) :
    Finds (star preference (step closing)) (.plain (Body closing)) := by
  refine (finds_star (takes_step hc) (advances_stepLength? closing) preference).mono ?_
  rintro x noted ⟨⟨rest, hlead⟩, hnoted⟩
  refine ⟨?_, hnoted⟩
  have hbody := (leads_iff_body.mp hlead).2
  rwa [List.take_left] at hbody

/-- A tag takes a token and notes its name. -/
theorem finds_inline (hc : pair.closing ≠ []) (name : Text) : Finds (inline pair name)
    fun x noted => ∃ b, Body pair.closing b ∧ x = pair.wrap b ∧ noted = [(name, b)] := by
  refine ((finds_literal _).seq (((finds_star_step hc .longest).named name).seq
    (finds_literal _))).mono ?_
  rintro _ _ ⟨_, _, _, _, ⟨rfl, rfl⟩, ⟨b, _, _, _, ⟨_, ⟨hb, rfl⟩, rfl⟩, ⟨rfl, rfl⟩, rfl, rfl⟩,
    rfl, rfl⟩
  exact ⟨b, hb, (List.append_assoc ..).symm, rfl⟩

/-- A line break takes a line feed, or a carriage return and a line feed. -/
theorem finds_lineBreak :
    Finds lineBreak (.plain fun x => x = ['\r', '\n'] ∨ x = ['\n']) := by
  refine (((finds_one .carriageReturn).optional .longest).seq (finds_one .lineFeed)).mono ?_
  rintro _ _ ⟨_, _, _, _, hreturn, ⟨⟨d, hd, rfl⟩, rfl⟩, rfl, rfl⟩
  obtain rfl : d = '\n' := by simpa [CharSet.lineFeed] using hd
  rcases hreturn with ⟨⟨c, hc, rfl⟩, rfl⟩ | ⟨rfl, rfl⟩
  · obtain rfl : c = '\r' := by simpa [CharSet.carriageReturn] using hc
    exact ⟨.inl rfl, rfl⟩
  · exact ⟨.inr rfl, rfl⟩

/-- A gap takes blank text. -/
theorem finds_gap : Finds gap (.plain fun x => x.isBlank = true) :=
  (finds_star_one .space .longest).mono fun _ _ h => ⟨Text.isBlank_iff.mpr h.1, h.2⟩

private theorem finds_closing (closing : Text) : Finds (lineBreak.seq (gap.seq (literal closing)))
    (.plain fun x => ∃ ending, Text.Ending ending ∧ x = ending ++ closing) := by
  refine (finds_lineBreak.seq (finds_gap.seq (finds_literal closing))).mono ?_
  rintro _ _ ⟨first, _, _, _, ⟨hfirst, rfl⟩, ⟨space, _, _, _, ⟨hspace, rfl⟩, ⟨rfl, rfl⟩, rfl, rfl⟩,
    rfl, rfl⟩
  refine ⟨⟨first ++ space, ⟨space, Text.afterLineBreak?_eq_some_iff.mpr ?_, hspace⟩,
    (List.append_assoc ..).symm⟩, rfl⟩
  exact hfirst.imp (by rintro rfl; rfl) (by rintro rfl; rfl)

/-- A block takes its delimiters with a body between them, which it notes. -/
theorem finds_block (hc : pair.closing ≠ []) (name : Text) : Finds (block pair name)
    fun x noted => ∃ space first b ending, space.isBlank = true ∧
      (first = ['\r', '\n'] ∨ first = ['\n']) ∧ Body pair.closing b ∧ Text.Ending ending ∧
      x = space ++ (pair.opening ++ (first ++ (b ++ (ending ++ pair.closing)))) ∧
      noted = [(name, b)] := by
  have hinside := ((finds_star_step hc .shortest).named name).seq (finds_closing pair.closing)
  refine (finds_gap.seq ((finds_literal pair.opening).seq (finds_lineBreak.seq hinside))).mono ?_
  rintro _ _ ⟨space, _, _, _, ⟨hspace, rfl⟩, ⟨_, _, _, _, ⟨rfl, rfl⟩, ⟨first, _, _, _,
    ⟨hfirst, rfl⟩, ⟨b, _, _, _, ⟨_, ⟨hb, rfl⟩, rfl⟩, ⟨⟨ending, hending, rfl⟩, rfl⟩, rfl, rfl⟩,
    rfl, rfl⟩, rfl, rfl⟩, rfl, rfl⟩
  exact ⟨space, first, b, ending, hspace, hfirst, hb, hending, rfl, rfl⟩

end Grammar

namespace Loop

/-- The parts of a loop, in the order in which they stand. -/
structure Parts where
  /-- The spaces and tabs before the first tag. -/
  indent : Text
  /-- The text of the first tag. -/
  name : Text
  /-- The text of the second tag, if there is one. -/
  joiner : Option Text
  /-- White space before the block opens. -/
  gap : Text
  /-- The line break after the opening delimiter. -/
  lineBreak : Text
  /-- The text inside the block. -/
  block : Text
  /-- The line break and the white space before the closing delimiter. -/
  ending : Text

namespace Parts

/-- The loop as it is written. -/
def text (tag body : Pair) (p : Parts) : Text :=
  p.indent ++ (tag.wrap p.name ++ (p.joiner.elim [] tag.wrap ++ (p.gap ++ (body.opening ++
    (p.lineBreak ++ (p.block ++ (p.ending ++ body.closing)))))))

/-- What the groups of the grammar note. -/
def notes (p : Parts) : List (Text × Text) :=
  (blockGroup, p.block) :: ((p.joiner.elim [] fun joiner => [(joinerGroup, joiner)]) ++
    [(variableGroup, p.name), (offsetGroup, p.indent)])

/-- Each part is of its kind. -/
structure Valid (tag body : Pair) (p : Parts) : Prop where
  indent : ∀ c ∈ p.indent, CharSet.blank.accepts c = true
  name : Body tag.closing p.name
  joiner : ∀ joiner ∈ p.joiner, Body tag.closing joiner
  gap : p.gap.isBlank = true
  lineBreak : p.lineBreak = ['\r', '\n'] ∨ p.lineBreak = ['\n']
  block : Body body.closing p.block
  ending : Text.Ending p.ending

/-- The loop that the parts make at a position. -/
def toLoop (vars : Variables) (tag body : Pair) (start : Nat) (p : Parts) : Loop where
  start := start
  stop := start + (p.text tag body).length
  name := p.name
  elements := elementsOf vars p.name
  block := p.block
  offset := p.indent.length
  joiner := p.joiner.getD standardJoiner

end Parts

variable {tag body : Pair}

private theorem finds_indent : Finds (.group (some offsetGroup)
    (.seq (.boundary .lineStart) (.star .longest (.one .blank))))
    fun x noted => (∀ c ∈ x, CharSet.blank.accepts c = true) ∧ noted = [(offsetGroup, x)] := by
  refine (((finds_boundary .lineStart).seq (finds_star_one .blank .longest)).named
    offsetGroup).mono ?_
  rintro indent _ ⟨_, ⟨_, _, _, _, ⟨rfl, rfl⟩, ⟨hindent, rfl⟩, rfl, rfl⟩, rfl⟩
  exact ⟨hindent, rfl⟩

/-- Whatever the loop grammar finds has the parts of a loop. -/
theorem finds_loop (ht : tag.closing ≠ []) (hb : body.closing ≠ []) :
    Finds (Grammar.loop tag body) fun x noted =>
      ∃ p : Parts, p.Valid tag body ∧ x = p.text tag body ∧ noted = p.notes := by
  have hjoiner := ((finds_inline ht joinerGroup).group).optional .longest
  refine (finds_indent.seq ((finds_inline ht variableGroup).seq
    (hjoiner.seq (finds_block hb blockGroup)))).mono ?_
  rintro _ _ ⟨indent, _, _, _, ⟨hindent, rfl⟩, ⟨_, _, _, _, ⟨name, hname, rfl, rfl⟩,
    ⟨_, _, _, _, hjoiner, ⟨space, first, b, ending, hspace, hfirst, hblock, hending, rfl, rfl⟩,
      rfl, rfl⟩, rfl, rfl⟩, rfl, rfl⟩
  rcases hjoiner with ⟨joiner, hjoiner, rfl, rfl⟩ | ⟨rfl, rfl⟩
  · refine ⟨⟨indent, name, some joiner, space, first, b, ending⟩,
      ⟨hindent, hname, ?_, hspace, hfirst, hblock, hending⟩, rfl, rfl⟩
    rintro _ ⟨⟩
    exact hjoiner
  · exact ⟨⟨indent, name, none, space, first, b, ending⟩,
      ⟨hindent, hname, nofun, hspace, hfirst, hblock, hending⟩, rfl, rfl⟩

/-- A match that starts at a position and notes the parts of a loop is that loop. -/
theorem ofMatch_of_notes (vars : Variables) {p : Parts} {start : Nat} {m : Match}
    (hstart : m.start = start) (hstop : m.stop = start + (p.text tag body).length)
    (hnotes : (m.captured.map fun c => (c.name, c.text)) = p.notes) :
    ofMatch vars m = p.toLoop vars tag body start := by
  have hgroup := Match.group?_eq_find? hnotes
  have hoffset : m.group offsetGroup = p.indent := by
    rw [Match.group, hgroup, Parts.notes]
    cases p.joiner <;> rfl
  have hname : m.group variableGroup = p.name := by
    rw [Match.group, hgroup, Parts.notes]
    cases p.joiner <;> rfl
  have hblock : m.group blockGroup = p.block := by rw [Match.group, hgroup]; rfl
  have hjoiner : m.group? joinerGroup = p.joiner := by
    rw [hgroup, Parts.notes]
    cases p.joiner <;> rfl
  simp only [ofMatch, Parts.toLoop, hstart, hstop, hoffset, hname, hblock, hjoiner]

/-- Every match of the loop grammar starts a line, and its text and its notes are given by parts. -/
theorem exists_parts_of_mem_occurrences {template : Text} {m : Match} (ht : tag.closing ≠ [])
    (hb : body.closing ≠ []) (h : m ∈ (Grammar.loop tag body).occurrences template) :
    ∃ (before : Text) (p : Parts) (after : Text), p.Valid tag body ∧
      template = before ++ (p.text tag body ++ after) ∧
      (before = [] ∨ before.getLast? = some '\n') ∧ m.start = before.length ∧
      m.stop = before.length + (p.text tag body).length ∧
      (m.captured.map fun c => (c.name, c.text)) = p.notes := by
  obtain ⟨before, rest, later, rfl, hmatch, rfl⟩ := exists_of_mem_occurrences h
  obtain ⟨_, _, _, ⟨p, hp, rfl, rfl⟩, hover, hlater⟩ := finds_loop ht hb _ _ _ hmatch
  obtain rfl := Option.some.inj hlater
  refine ⟨before, p, _, hp, by rw [← hover.rest], ?_, rfl, hover.position, ?_⟩
  · cases hl : Boundary.lineStart.holds before.getLast? rest.head? with
    | true => simpa [Boundary.lineStart] using hl
    | false =>
      have hrun : (Grammar.loop tag body).matchAt? ⟨before.length, before.getLast?, rest, []⟩ =
          if Boundary.lineStart.holds before.getLast? rest.head? then _ else none := rfl
      rw [hrun, hl] at hmatch
      exact nomatch hmatch
  · have hnotes := hover.notes
    rw [Cursor.notes, Cursor.notes, List.map_nil, List.append_nil] at hnotes
    exact hnotes

/-- Every loop of a template starts a line, and both its text and what it says are given by its
parts. -/
theorem exists_parts_of_mem_all {template : Text} {vars : Variables} {l : Loop}
    (ht : tag.closing ≠ []) (hb : body.closing ≠ []) (h : l ∈ all template vars tag body) :
    ∃ (before : Text) (p : Parts) (after : Text), p.Valid tag body ∧
      template = before ++ (p.text tag body ++ after) ∧
      (before = [] ∨ before.getLast? = some '\n') ∧
      l = p.toLoop vars tag body before.length := by
  obtain ⟨m, hm, rfl⟩ := List.mem_map.mp h
  obtain ⟨before, p, after, hp, htemplate, hbefore, hstart, hstop, hnotes⟩ :=
    exists_parts_of_mem_occurrences ht hb hm
  exact ⟨before, p, after, hp, htemplate, hbefore, ofMatch_of_notes vars hstart hstop hnotes⟩

end Loop

end Stencil
