import Stencil.Proofs.Grammar.Block
import Stencil.Proofs.Loop.Reading
import Stencil.Proofs.Pattern.Occurrence

/-!
# Matching loops

The loop grammar matches at the start of a line just where a loop can be read there, and its groups
hold what is read. That no other way to match is left comes from the delimiters: none of them holds
white space and the two opening ones begin differently, so the joiner cannot be taken for a block.
-/

namespace Stencil

open Grammar Pattern

/-- Spaces and tabs are white space. -/
theorem CharSet.isSpace_of_blank {c : Char} (h : blank.accepts c = true) :
    Text.isSpace c = true := by
  have hc : c = ' ' ∨ c = '\t' := by simpa [blank] using h
  rcases hc with rfl | rfl <;> rfl

/-- Spaces and tabs are in no opening delimiter. -/
theorem Pair.Solid.not_blank {pair : Pair} (h : pair.Solid) {c : Char} (hc : c ∈ pair.opening) :
    ¬ CharSet.blank.accepts c = true := fun hblank => by
  have hspace := h.opening c hc
  rw [CharSet.isSpace_of_blank hblank] at hspace
  exact nomatch hspace

namespace Loop

/-- Pairs whose tags and blocks cannot be taken for each other or for white space. -/
structure Plain (tag body : Pair) : Prop where
  tagSolid : tag.Solid
  bodySolid : body.Solid
  head_ne : tag.opening.head? ≠ body.opening.head?

/-- The text of a second tag ahead, if there is one, and what follows. -/
def JoinerAhead (tag : Pair) : Option Text → (rest t : Text) → Prop
  | none, rest, t => t = rest
  | some joiner, rest, t => Ahead tag joiner rest t

/-- The text at the start of a line can be read as a loop. -/
def Reads (tag body : Pair) (t : Text) (r : Reading) : Prop :=
  r.offset = (t.takeWhile CharSet.blank.accepts).length ∧
    ∃ afterName afterTags inside, Ahead tag r.name afterName (t.drop r.offset) ∧
      JoinerAhead tag r.joiner afterTags afterName ∧
      opened? body.opening afterTags = some inside ∧ Closes body.closing r.block r.after inside

variable {tag body : Pair} {cursor : Cursor} {next : Cursor → Option Cursor}

/-- Where a tag opens no block does. -/
theorem opened?_eq_none_of_tag (hp : Plain tag body) {t : Text} (h : tag.opening <+: t) :
    opened? body.opening t = none := by
  rw [opened?, Option.bind_eq_none_iff]
  intro rest hrest
  obtain ⟨gap, hgap, ht⟩ :=
    (Text.afterGap?_eq_some_iff hp.bodySolid.opening_ne_nil hp.bodySolid.opening).mp hrest
  obtain ⟨more, rfl⟩ := h
  cases gap with
  | nil =>
    have hhead := congrArg List.head? ht
    rw [List.nil_append, List.head?_append_of_ne_nil _ hp.tagSolid.opening_ne_nil,
      List.head?_append_of_ne_nil _ hp.bodySolid.opening_ne_nil] at hhead
    exact absurd hhead hp.head_ne
  | cons e gap =>
    have hspace := Text.isBlank_iff.mp hgap e List.mem_cons_self
    have hmem := Pair.mem_opening_of_append_eq_cons hp.tagSolid.opening_ne_nil ht
    rw [hp.tagSolid.opening e hmem] at hspace
    exact nomatch hspace

private theorem rest_after_wrap {name rest : Text} (h : Ahead tag name rest cursor.rest) :
    (cursor.skip (tag.wrap name).length).rest = rest := by
  rw [Cursor.rest_skip, h.2, Pair.wrap, ← List.append_assoc, ← List.append_assoc, List.drop_left]

/-! ## The parts of the loop grammar -/

private theorem run_indent
    (hl : Boundary.lineStart.holds cursor.previous cursor.rest.head? = true)
    (hnext : ∀ later c rest, later.rest = c :: rest → CharSet.blank.accepts c = true →
      next later = none) :
    (Pattern.group (some offsetGroup)
        (.seq (.boundary .lineStart) (.star .longest (.one .blank)))).run cursor next =
      next ((cursor.skip (cursor.rest.takeWhile CharSet.blank.accepts).length).note offsetGroup
        cursor.rest (cursor.rest.takeWhile CharSet.blank.accepts).length) := by
  have hle := (List.takeWhile_prefix CharSet.blank.accepts (l := cursor.rest)).length_le
  have hrun : (Pattern.group (some offsetGroup)
      (.seq (.boundary .lineStart) (.star .longest (.one .blank)))).run cursor next =
        (star .longest (one .blank)).run cursor
          fun closed => next (Cursor.capture offsetGroup cursor closed) := if_pos hl
  rw [hrun, run_star_one, Cursor.capture_skip hle]
  intro later c rest hlater hc
  exact hnext _ c rest hlater hc

private theorem run_inline_of_blank (hp : Plain tag body) {name : Text} {c : Char} {rest : Text}
    (h : cursor.rest = c :: rest) (hc : CharSet.blank.accepts c = true) :
    (inline tag name).run cursor next = none := by
  refine run_inline_eq_none hp.tagSolid.closing_ne_nil ?_
  rintro x more ⟨_, hahead⟩
  have hmem := Pair.mem_opening_of_append_eq_cons hp.tagSolid.opening_ne_nil (hahead.symm.trans h)
  exact hp.tagSolid.not_blank hmem hc

/-- Where the reading goes on after a second tag, if there is one. -/
private def afterJoiner (tag : Pair) (rest : Text) : Option Text → Cursor → Cursor
  | none, cursor => cursor
  | some joiner, cursor => (cursor.skip (tag.wrap joiner).length).note joinerGroup
      (joiner ++ (tag.closing ++ rest)) joiner.length

private theorem rest_afterJoiner {joiner : Option Text} {rest : Text}
    (h : JoinerAhead tag joiner rest cursor.rest) :
    (afterJoiner tag rest joiner cursor).rest = rest := by
  cases joiner with
  | none => exact h
  | some joiner => exact rest_after_wrap h

private theorem reaches_afterJoiner {joiner : Option Text} {rest : Text} (cursor : Cursor) :
    cursor.Reaches (afterJoiner tag rest joiner cursor) := by
  cases joiner with
  | none => exact Cursor.reaches_skip 0 cursor
  | some joiner => exact (Cursor.reaches_skip _ cursor).note _ _ _

private theorem run_joiner (hp : Plain tag body) {joiner : Option Text} {rest inside : Text}
    (hj : JoinerAhead tag joiner rest cursor.rest) (ho : opened? body.opening rest = some inside) :
    (Pattern.seq (.optional .longest (.group none (inline tag joinerGroup)))
        (Grammar.block body blockGroup)).run cursor some =
      (Grammar.block body blockGroup).run (afterJoiner tag rest joiner cursor) some := by
  have hrun : (Pattern.seq (.optional .longest (.group none (inline tag joinerGroup)))
      (Grammar.block body blockGroup)).run cursor some =
        ((inline tag joinerGroup).run cursor fun later =>
          (Grammar.block body blockGroup).run later some).or
            ((Grammar.block body blockGroup).run cursor some) :=
    rfl
  rw [hrun]
  cases joiner with
  | none =>
    have hrest : cursor.rest = rest := hj
    rw [run_inline_eq_none hp.tagSolid.closing_ne_nil, Option.none_or]
    · rfl
    · rintro x more ⟨_, hahead⟩
      have hnone := opened?_eq_none_of_tag hp (t := cursor.rest) ⟨_, hahead.symm⟩
      rw [hrest, ho] at hnone
      exact absurd hnone (Option.some_ne_none inside)
  | some joiner =>
    have hahead : Ahead tag joiner rest cursor.rest := hj
    have hnone := opened?_eq_none_of_tag hp (t := cursor.rest) ⟨_, hahead.2.symm⟩
    have hblock : (Grammar.block body blockGroup).run cursor some = none := by
      refine run_block_eq_none hp.bodySolid ?_
      intro inside' hinside'
      rw [hnone] at hinside'
      exact nomatch hinside'
    rw [run_inline_of_ahead hp.tagSolid.closing_ne_nil hahead, hblock, Option.or_none]
    rfl

private theorem run_joiner_eq_none (hp : Plain tag body)
    (h : ∀ joiner rest inside, JoinerAhead tag joiner rest cursor.rest →
      opened? body.opening rest = some inside → ∀ x after, ¬ Closes body.closing x after inside) :
    (Pattern.seq (.optional .longest (.group none (inline tag joinerGroup)))
        (Grammar.block body blockGroup)).run cursor some = none := by
  have hblock (joiner : Option Text) (later : Cursor)
      (hj : JoinerAhead tag joiner later.rest cursor.rest) :
      (Grammar.block body blockGroup).run later some = none :=
    run_block_eq_none hp.bodySolid (h joiner later.rest · hj)
  have hrun : (inline tag joinerGroup).run cursor
      (fun later => (Grammar.block body blockGroup).run later some) = none := by
    by_cases hahead : ∃ joiner rest, Ahead tag joiner rest cursor.rest
    · obtain ⟨joiner, rest, hahead⟩ := hahead
      rw [run_inline_of_ahead hp.tagSolid.closing_ne_nil hahead]
      refine hblock (some joiner) _ ?_
      rw [Cursor.rest_note, rest_after_wrap hahead]
      exact hahead
    · refine run_inline_eq_none hp.tagSolid.closing_ne_nil ?_
      exact fun joiner rest hj => hahead ⟨joiner, rest, hj⟩
  exact Option.or_eq_none_iff.mpr ⟨hrun, hblock none cursor rfl⟩

/-! ## The whole loop -/

/-- Away from the start of a line no loop is found. -/
theorem run_loop_of_not_lineStart
    (hl : Boundary.lineStart.holds cursor.previous cursor.rest.head? = false) :
    (Grammar.loop tag body).run cursor next = none := by
  have hrun : (Grammar.loop tag body).run cursor next =
      if Boundary.lineStart.holds cursor.previous cursor.rest.head? then _ else none := rfl
  rw [hrun, hl]
  rfl

private theorem run_loop (hp : Plain tag body)
    (hl : Boundary.lineStart.holds cursor.previous cursor.rest.head? = true) {k : Nat}
    (hk : k = (cursor.rest.takeWhile CharSet.blank.accepts).length) :
    (Grammar.loop tag body).run cursor some =
      (inline tag variableGroup).run ((cursor.skip k).note offsetGroup cursor.rest k)
        fun later => (Pattern.seq (.optional .longest (.group none (inline tag joinerGroup)))
          (Grammar.block body blockGroup)).run later some := by
  rw [Grammar.loop, run, run_indent hl, hk]
  · rfl
  · intro later c rest hlater hc
    exact run_inline_of_blank hp hlater hc

private theorem groups_ne : blockGroup ≠ joinerGroup ∧ blockGroup ≠ variableGroup ∧
    blockGroup ≠ offsetGroup ∧ joinerGroup ≠ variableGroup ∧ joinerGroup ≠ offsetGroup ∧
    variableGroup ≠ joinerGroup ∧ variableGroup ≠ offsetGroup ∧ offsetGroup ≠ joinerGroup := by
  decide

variable {r : Reading}

/-- A loop that can be read is found, and the match says what is read. -/
theorem exists_run_of_reads (vars : Variables) (cursor : Cursor) (hp : Plain tag body)
    (hl : Boundary.lineStart.holds cursor.previous cursor.rest.head? = true)
    (hr : Reads tag body cursor.rest r) (hc : cursor.captured = []) :
    ∃ found, (Grammar.loop tag body).run cursor some = some found ∧
      ofMatch vars ⟨cursor.position, found.position, found.captured⟩ =
        ofReading vars cursor.position cursor.rest r := by
  obtain ⟨hoffset, afterName, afterTags, inside, hname, hjoiner, hopen, hclose⟩ := hr
  let indented := (cursor.skip r.offset).note offsetGroup cursor.rest r.offset
  let named := (indented.skip (tag.wrap r.name).length).note variableGroup
    (r.name ++ (tag.closing ++ afterName)) r.name.length
  let joined := afterJoiner tag afterTags r.joiner named
  let found := (joined.skipTo r.after).note blockGroup inside r.block.length
  have hindented : indented.rest = cursor.rest.drop r.offset := Cursor.rest_skip _ _
  have hname : Ahead tag r.name afterName indented.rest := hindented ▸ hname
  have hnamed : named.rest = afterName := rest_after_wrap hname
  have hjoiner : JoinerAhead tag r.joiner afterTags named.rest := by rw [hnamed]; exact hjoiner
  have hjoined : joined.rest = afterTags := rest_afterJoiner hjoiner
  have hrun : (Grammar.loop tag body).run cursor some = some found := by
    rw [run_loop hp hl hoffset, run_inline_of_ahead hp.tagSolid.closing_ne_nil hname,
      run_joiner hp hjoiner hopen]
    exact run_block_of_closes hp.bodySolid (by rw [hjoined]; exact hopen) hclose
  have hafter : found.rest = r.after :=
    Cursor.rest_skipTo (hjoined.symm ▸ hclose.suffix.trans (cuts_opened? _ _ _ hopen))
  have hreaches : cursor.Reaches found :=
    ((((Cursor.reaches_skip _ _).note _ _ _).trans ((Cursor.reaches_skip _ _).note _ _ _)).trans
      (reaches_afterJoiner _)).trans ((Cursor.reaches_skip _ _).note _ _ _)
  refine ⟨found, hrun, ?_⟩
  have hstop := hreaches.position
  rw [hafter] at hstop
  have hcaptured : found.captured = ⟨blockGroup, inside, r.block.length⟩ :: joined.captured :=
    congrArg _ (Cursor.captured_skip _ _)
  have hnames : named.captured = [⟨variableGroup, r.name ++ (tag.closing ++ afterName),
      r.name.length⟩, ⟨offsetGroup, cursor.rest, r.offset⟩] := by
    simp [named, indented, hc]
  have hindent : r.offset ≤ cursor.rest.length := by
    rw [hoffset]
    exact (List.takeWhile_prefix _).length_le
  have hblock : inside.take r.block.length = r.block := by
    obtain ⟨u, hu, _⟩ := hclose.closed
    rw [hu, List.take_left]
  cases hj : r.joiner with
  | none =>
    have hjoined : joined.captured = named.captured := by simp [joined, afterJoiner, hj]
    simp [ofMatch, ofReading, Match.group, Match.group?, Captured.text, groups_ne, hcaptured,
      hnames, hjoined, hj, hstop, hblock, hindent]
  | some joiner =>
    have hjoined : joined.captured = ⟨joinerGroup, joiner ++ (tag.closing ++ afterTags),
        joiner.length⟩ :: named.captured := by simp [joined, afterJoiner, hj]
    simp [ofMatch, ofReading, Match.group, Match.group?, Captured.text, groups_ne, hcaptured,
      hnames, hjoined, hj, hstop, hblock, hindent]

/-- Where no loop can be read none is found. -/
theorem run_loop_eq_none (hp : Plain tag body)
    (hl : Boundary.lineStart.holds cursor.previous cursor.rest.head? = true)
    (h : ∀ r, ¬ Reads tag body cursor.rest r) :
    (Grammar.loop tag body).run cursor some = none := by
  obtain ⟨k, hk⟩ : ∃ k, k = (cursor.rest.takeWhile CharSet.blank.accepts).length := ⟨_, rfl⟩
  rw [run_loop hp hl hk]
  by_cases hname : ∃ name rest, Ahead tag name rest (cursor.rest.drop k)
  · obtain ⟨name, afterName, hname⟩ := hname
    have hahead : Ahead tag name afterName
        ((cursor.skip k).note offsetGroup cursor.rest k).rest := by
      rw [Cursor.rest_note, Cursor.rest_skip]
      exact hname
    have hrest := rest_after_wrap hahead
    rw [run_inline_of_ahead hp.tagSolid.closing_ne_nil hahead]
    refine run_joiner_eq_none hp ?_
    intro joiner rest inside hj hopen x after hclose
    rw [Cursor.rest_note, hrest] at hj
    exact h ⟨k, name, joiner, x, after⟩ ⟨hk, afterName, rest, inside, hname, hj, hopen, hclose⟩
  · refine run_inline_eq_none hp.tagSolid.closing_ne_nil ?_
    intro name rest hahead
    rw [Cursor.rest_note, Cursor.rest_skip] at hahead
    exact hname ⟨name, rest, hahead⟩

/-! ## The match at a place -/

/-- Reading a loop leaves less text than there was. -/
theorem Reads.length_lt (hp : Plain tag body) {t : Text} (h : Reads tag body t r) :
    r.after.length < t.length := by
  obtain ⟨_, afterName, afterTags, inside, hname, hjoiner, hopen, hclose⟩ := h
  have hinside := (hclose.suffix.trans (cuts_opened? _ _ _ hopen)).length_le
  have htags : afterTags.length ≤ afterName.length := by
    cases hj : r.joiner with
    | none =>
      rw [hj] at hjoiner
      exact le_of_eq (congrArg List.length hjoiner.symm)
    | some joiner =>
      rw [hj] at hjoiner
      have hlength := congrArg List.length hjoiner.2
      simp only [List.length_append] at hlength
      omega
  have hopening := List.length_pos_iff.mpr hp.tagSolid.opening_ne_nil
  have hlength := congrArg List.length hname.2
  simp only [List.length_append, List.length_drop] at hlength
  omega

/-- A match that may follow the one before it is found where a loop can be read. -/
theorem exists_matchAfter?_of_reads (vars : Variables) (hp : Plain tag body) {t : Text}
    {position : Nat} {previous : Option Char} {last : Option Nat} (hlast : last.getD 0 ≤ position)
    (hl : Boundary.lineStart.holds previous t.head? = true) (hr : Reads tag body t r) :
    ∃ m, (Grammar.loop tag body).matchAfter? last ⟨position, previous, t, []⟩ = some m ∧
      ofMatch vars m = ofReading vars position t r := by
  obtain ⟨found, hrun, hloop⟩ := exists_run_of_reads vars
    ⟨position, previous, t, []⟩ hp hl hr rfl
  have hmatch : (Grammar.loop tag body).matchAt? ⟨position, previous, t, []⟩ = some found := hrun
  have hstop : found.position = position + (t.length - r.after.length) :=
    congrArg Loop.stop hloop
  have hlt := hr.length_lt hp
  have hafter : position < found.position := by omega
  exact ⟨_, matchAfter?_of_matchAt? hlast hmatch hafter, hloop⟩

/-- No match is found inside the one before, away from the start of a line, or where no loop can be
read. -/
theorem matchAfter?_eq_none (hp : Plain tag body) {t : Text} {position : Nat}
    {previous : Option Char} {last : Option Nat}
    (h : position < last.getD 0 ∨ Boundary.lineStart.holds previous t.head? = false ∨
      ∀ r, ¬ Reads tag body t r) :
    (Grammar.loop tag body).matchAfter? last ⟨position, previous, t, []⟩ = none := by
  rcases h with hinside | haway
  · exact matchAfter?_eq_none_of_lt hinside
  · refine matchAfter?_eq_none_of_matchAt? ?_
    cases hl : Boundary.lineStart.holds previous t.head? with
    | false => exact run_loop_of_not_lineStart hl
    | true => exact run_loop_eq_none hp hl (haway.resolve_left (by rw [hl]; exact nofun))

end Loop

end Stencil
