import Stencil.Expansion
import Stencil.Proofs.Loop.Element
import Stencil.Proofs.Loop.Parts

/-!
# Spans of loops

Expansion cuts a template at the ends of its loops. Loops that are found can always be cut out: they
lie inside the template, one behind the other and on lines of their own. `Spliced` says that what is
written for a template is its text between the loops as it is and each loop's own expansion.
-/

namespace Stencil

namespace Text

/-- The bytes of two texts add up. -/
theorem byteLength_append (s t : Text) : byteLength (s ++ t) = byteLength s + byteLength t := by
  induction s with
  | nil => simp [byteLength]
  | cons c s ih => simp [byteLength, ih, Nat.add_assoc]

/-- A text that is not empty takes at least one byte. -/
theorem byteLength_pos {t : Text} (h : t ≠ []) : 0 < byteLength t := by
  obtain ⟨c, rest, rfl⟩ := List.exists_cons_of_ne_nil h
  have hsize := Char.utf8Size_pos c
  rw [byteLength]
  omega

/-- A longer beginning takes more bytes. -/
theorem byteOffset_append_lt {s t : Text} (rest : Text) (ht : t ≠ []) :
    byteOffset (s ++ (t ++ rest)) s.length <
      byteOffset (s ++ (t ++ rest)) (s.length + t.length) := by
  have hlong : (s ++ (t ++ rest)).take (s.length + t.length) = s ++ t := by
    rw [← List.append_assoc, ← List.length_append, List.take_left]
  have hpos := byteLength_pos ht
  rw [byteOffset, byteOffset, List.take_left, hlong, byteLength_append]
  omega

/-- A position stands at the byte where its character begins. -/
theorem positionAt_byteOffset (t : Text) {position : Nat} (h : position ≤ t.length) :
    positionAt t (byteOffset t position) = position := by
  induction t generalizing position with
  | nil => exact (Nat.le_zero.mp h).symm
  | cons c t ih =>
    cases position with
    | zero => simp [byteOffset, byteLength, positionAt]
    | succ position =>
      have hsize := Char.utf8Size_pos c
      have hne : c.utf8Size + byteLength (t.take position) ≠ 0 := by omega
      simp only [byteOffset, List.take_succ_cons, byteLength, positionAt, hne, ite_false,
        Nat.add_sub_cancel_left]
      exact congrArg (· + 1) (ih (Nat.le_of_succ_le_succ h))

end Text

namespace Loop

/-- A loop lies in a template: it starts a line with its indentation and its tag, and ends with the
closing delimiter of its block. -/
structure LiesIn (template : Text) (tag body : Pair) (l : Loop) : Prop where
  start_lt_stop : l.start < l.stop
  stop_le_length : l.stop ≤ template.length
  /-- Both ends are byte positions of characters, and in order. -/
  bytes : Text.positionAt template (Text.byteOffset template l.start) = l.start ∧
    Text.positionAt template (Text.byteOffset template l.stop) = l.stop ∧
    Text.byteOffset template l.start < Text.byteOffset template l.stop
  lineStart : l.start = 0 ∨ template[l.start - 1]? = some '\n'
  tagged : ∃ indent : Text, (∀ c ∈ indent, c = ' ' ∨ c = '\t') ∧ indent.length = l.offset ∧
    indent ++ tag.opening <+: template.drop l.start
  closed : body.closing <:+ template.take l.stop

variable {template : Text} {vars : Variables} {tag body pair : Pair} {policy : Shortfall}

private theorem Parts.exists_text_eq (tag body : Pair) (p : Parts) :
    (∃ more, p.text tag body = p.indent ++ (tag.opening ++ more)) ∧
      ∃ before, p.text tag body = before ++ body.closing := by
  refine ⟨⟨_, by rw [Parts.text, Pair.wrap, List.append_assoc, List.append_assoc]⟩, ?_⟩
  refine ⟨p.indent ++ (tag.wrap p.name ++ (p.joiner.elim [] tag.wrap ++ (p.gap ++ (body.opening ++
    (p.lineBreak ++ (p.block ++ p.ending)))))), ?_⟩
  simp only [Parts.text, List.append_assoc]

private theorem getElem?_of_getLast?_eq_some {before : Text} {c : Char}
    (h : before.getLast? = some c) (after : Text) :
    (before ++ after)[before.length - 1]? = some c := by
  obtain ⟨more, rfl⟩ := List.getLast?_eq_some_iff.mp h
  rw [List.length_append, List.length_singleton, Nat.add_sub_cancel, List.append_assoc,
    List.getElem?_append_right (Nat.le_refl _), Nat.sub_self]
  rfl

private theorem liesIn_of_mem_all (ht : Delimiters.pairFault? tag = none)
    (hb : Delimiters.pairFault? body = none) {l : Loop} (h : l ∈ all template vars tag body) :
    l.LiesIn template tag body := by
  obtain ⟨before, p, after, hp, rfl, hstart, rfl⟩ := exists_parts_of_mem_all
    (Delimiters.closing_ne_nil ht) (Delimiters.closing_ne_nil hb) h
  obtain ⟨⟨more, hopen⟩, early, hclose⟩ := p.exists_text_eq tag body
  have hne : p.text tag body ≠ [] := by
    rw [hclose]
    exact List.append_ne_nil_of_right_ne_nil _ (Delimiters.closing_ne_nil hb)
  have hpos := List.length_pos_iff.mpr hne
  have hle : before.length + (p.text tag body).length ≤
      (before ++ (p.text tag body ++ after)).length := by
    rw [List.length_append, List.length_append]
    omega
  refine ⟨Nat.lt_add_of_pos_right hpos, hle, ⟨?_, ?_, ?_⟩, ?_, ⟨p.indent, ?_, rfl, ?_⟩, ?_⟩
  · exact Text.positionAt_byteOffset _ (Nat.le_trans (Nat.le_add_right _ _) hle)
  · exact Text.positionAt_byteOffset _ hle
  · exact Text.byteOffset_append_lt after hne
  · exact hstart.imp (congrArg List.length) (getElem?_of_getLast?_eq_some · _)
  · intro c hc
    simpa [CharSet.blank] using hp.indent c hc
  · show _ <+: (before ++ (p.text tag body ++ after)).drop before.length
    rw [List.drop_left, hopen, List.append_assoc, List.append_assoc]
    exact ⟨more ++ after, by simp only [List.append_assoc]⟩
  · show _ <:+ (before ++ (p.text tag body ++ after)).take (before.length + _)
    rw [List.take_length_add_append, List.take_left, hclose, ← List.append_assoc]
    exact List.suffix_append _ _

private theorem LiesIn.getElem?_ne_lineFeed (hb : Delimiters.pairFault? body = none) {l : Loop}
    (h : l.LiesIn template tag body) : template[l.stop - 1]? ≠ some '\n' := by
  -- The last character of a loop is one of its closing delimiter, which is not white space.
  intro hfeed
  obtain ⟨early, hearly⟩ := h.closed
  have hpos := h.start_lt_stop
  have hlast : (template.take l.stop).getLast? = some '\n' := by
    rw [List.getLast?_eq_getElem?, List.length_take_of_le h.stop_le_length,
      List.getElem?_take_of_lt (by omega)]
    exact hfeed
  rw [← hearly, List.getLast?_append_of_ne_nil _ (Delimiters.closing_ne_nil hb)] at hlast
  have hbreak := Delimiters.isLineBreak_eq_false hb (.inr (List.mem_of_getLast? hlast))
  exact absurd hbreak (by decide)

private theorem pairwise_all (ht : Delimiters.pairFault? tag = none)
    (hb : Delimiters.pairFault? body = none) (template : Text) (vars : Variables) :
    (all template vars tag body).Pairwise fun l l' =>
      l.stop < l'.start ∧ '\n' ∈ template.between l.stop l'.start := by
  have hordered : (all template vars tag body).Pairwise fun l l' => l.stop ≤ l'.start :=
    List.Pairwise.map (ofMatch vars) (fun _ _ h => h) (Pattern.pairwise_occurrences _ template)
  refine hordered.imp_of_mem fun {l l'} hl hl' hle => ?_
  have hlies := liesIn_of_mem_all ht hb hl
  have hlies' := liesIn_of_mem_all ht hb hl'
  have hpos := hlies.start_lt_stop
  have hfeed : template[l'.start - 1]? = some '\n' :=
    hlies'.lineStart.resolve_left (by omega)
  have hlt : l.stop < l'.start :=
    Nat.lt_of_le_of_ne hle fun heq => hlies.getElem?_ne_lineFeed hb (heq ▸ hfeed)
  refine ⟨hlt, List.mem_of_getElem? (i := l'.start - 1 - l.stop) ?_⟩
  rw [Text.between, List.getElem?_take_of_lt (by omega), List.getElem?_drop,
    Nat.add_sub_cancel' (by omega)]
  exact hfeed

/-! ## Cutting loops out -/

/-- From a position on, a text and what is written for it: the text between loops stays, and each
loop, which stands at its place, is written as its expansion. -/
inductive Spliced (pair : Pair) (policy : Shortfall) : Nat → List Loop → Text → Text → Prop
  /-- Behind the last loop. -/
  | rest (position : Nat) (t : Text) : Spliced pair policy position [] t t
  /-- The text before a loop, the loop, and what follows. -/
  | loop {position : Nat} {l : Loop} {loops : List Loop} {gap span expansion t out : Text} :
      l.start = position + gap.length → l.stop = l.start + span.length →
      l.expand (lineBreakOf span) pair policy = .ok expansion →
      Spliced pair policy l.stop loops t out →
      Spliced pair policy position (l :: loops) (gap ++ (span ++ t)) (gap ++ (expansion ++ out))

private theorem spliced_of_expandFrom {loops : List Loop} {position : Nat} {out : Text}
    (hfirst : ∀ l ∈ loops, position ≤ l.start)
    (hinside : ∀ l ∈ loops, l.start ≤ l.stop ∧ l.stop ≤ template.length)
    (hordered : loops.Pairwise fun l l' => l.stop ≤ l'.start)
    (h : expandFrom template pair policy position loops = .ok out) :
    Spliced pair policy position loops (template.drop position) out := by
  induction loops generalizing position out with
  | nil =>
    obtain rfl : template.drop position = out := Except.ok.inj h
    exact .rest _ _
  | cons l loops ih =>
    obtain ⟨hbehind, hordered⟩ := List.pairwise_cons.mp hordered
    obtain ⟨hinner, hinside⟩ := List.forall_mem_cons.mp hinside
    have hstart := hfirst l List.mem_cons_self
    rw [expandFrom] at h
    cases hexpand : l.expand (lineBreakOf (template.between l.start l.stop)) pair policy with
    | error e =>
      rw [hexpand] at h
      exact nomatch h
    | ok expansion =>
      rw [hexpand] at h
      cases hmore : expandFrom template pair policy l.stop loops with
      | error e =>
        simp only [hmore] at h
        exact nomatch h
      | ok more =>
        simp only [hmore] at h
        obtain rfl := Except.ok.inj h
        have hrest := ih hbehind hinside hordered hmore
        have hlength (i j : Nat) (hij : i ≤ j) (hj : j ≤ template.length) :
            j = i + (template.between i j).length := by
          rw [Text.length_between hj, Nat.add_sub_cancel' hij]
        rw [← Text.between_append_drop template hstart,
          ← Text.between_append_drop template hinner.1, List.append_assoc]
        refine .loop (hlength _ _ hstart ?_) (hlength _ _ hinner.1 hinner.2) hexpand hrest
        exact Nat.le_trans hinner.1 hinner.2

private theorem expandFrom_of_spliced {loops : List Loop} {position : Nat} {t out : Text}
    (h : Spliced pair policy position loops t out) (ht : t = template.drop position) :
    expandFrom template pair policy position loops = .ok out := by
  induction h with
  | rest position t => rw [expandFrom, ht]
  | @loop position l loops gap span expansion t out hstart hstop hexpand _ ih =>
    have hgap : template.between position l.start = gap :=
      Text.between_eq_of_drop_eq ht.symm hstart
    have hdrop : template.drop l.start = span ++ t := by
      rw [hstart, ← List.drop_drop, ← ht, List.drop_left]
    have hspan : template.between l.start l.stop = span :=
      Text.between_eq_of_drop_eq hdrop hstop
    have hmore := ih (by rw [hstop, ← List.drop_drop, hdrop, List.drop_left])
    rw [expandFrom, hspan, hexpand]
    simp only [hmore, hgap, List.append_assoc]

/-- Ordered loops inside a template are written out just as their expansions replace them. -/
theorem expandLoops_eq_ok_iff {loops : List Loop} {out : Text}
    (hinside : ∀ l ∈ loops, l.start ≤ l.stop ∧ l.stop ≤ template.length)
    (hordered : loops.Pairwise fun l l' => l.stop ≤ l'.start) :
    expandLoops template loops pair policy = .ok out ↔
      Spliced pair policy 0 loops template out :=
  ⟨spliced_of_expandFrom (fun _ _ => Nat.zero_le _) hinside hordered,
    fun h => expandFrom_of_spliced h rfl⟩

/-- A loop over nothing is written as nothing. -/
theorem expand_of_elements_eq_nil {l : Loop} (h : l.elements = []) (lineBreak : Text) :
    l.expand lineBreak pair policy = .ok [] := by
  simp only [expand, iterations, h, iterationsFrom]
  rfl

/-- The loops of a template lie in it one behind the other, so they can be cut out; what is written
for the template is its text between them as it is and the expansion of each, and a loop whose name
does not stand for a list of maps only is written as nothing. -/
theorem all_spliced {d : Delimiters} (hd : d.Usable) (template : Text) (vars : Variables) :
    (∀ l ∈ all template vars d.tag d.body, l.LiesIn template d.tag d.body) ∧
      ((all template vars d.tag d.body).Pairwise fun l l' =>
        l.stop < l'.start ∧ '\n' ∈ template.between l.stop l'.start) ∧
      ∀ policy,
        (∀ out, expandLoops template (all template vars d.tag d.body) d.token policy = .ok out ↔
          Spliced d.token policy 0 (all template vars d.tag d.body) template out) ∧
        ∀ l ∈ all template vars d.tag d.body,
          (¬ ∃ items, Dictionary.find? l.name vars = some (.list items) ∧
            ∀ item ∈ items, item.isMap = true) →
          ∀ lineBreak, l.expand lineBreak d.token policy = .ok [] := by
  obtain ⟨_, ht, hb⟩ := hd.pairFault?
  have hlies : ∀ l ∈ all template vars d.tag d.body, l.LiesIn template d.tag d.body :=
    fun l hl => liesIn_of_mem_all ht hb hl
  have hpairwise := pairwise_all ht hb template vars
  refine ⟨hlies, hpairwise, fun policy => ⟨fun out => ?_, fun l hl hname lineBreak => ?_⟩⟩
  · refine expandLoops_eq_ok_iff (fun l hl => ?_) (hpairwise.imp fun h => Nat.le_of_lt h.1)
    exact ⟨Nat.le_of_lt (hlies l hl).start_lt_stop, (hlies l hl).stop_le_length⟩
  · refine expand_of_elements_eq_nil ?_ lineBreak
    rw [elements_of_mem_all hl, elementsOf_eq_nil hname]

/-- Delimiters of several characters and several bytes. -/
def wideDelimiters : Delimiters :=
  ⟨⟨['<'], ['>']⟩, ⟨"«(".toList, ")»".toList⟩, ⟨['⟦'], "⟧⟧".toList⟩⟩

/-- Two loops, of which only the first runs. -/
def twoSpans : Text := "é\n  «(a)» ⟦\n  <x>\n ⟧⟧, à\n«(b)»⟦\ny\n⟧⟧.".toList

/-- A list of two maps under one of the two names. -/
def firstList : Variables :=
  [(['a'], .list [.map [(['x'], .null)], .map [(['x'], .bool true)]])]

/-- The first loop is written twice and the second not at all. -/
theorem all_spliced_twoSpans : wideDelimiters.Usable ∧
    ((all twoSpans firstList wideDelimiters.tag wideDelimiters.body).map fun l =>
      (l.name, l.start, l.stop)) = [(['a'], 2, 21), (['b'], 25, 36)] ∧
    Spliced wideDelimiters.token .fail 0
      (all twoSpans firstList wideDelimiters.tag wideDelimiters.body) twoSpans
        "é\n  <a_x_0>\n  <a_x_1>, à\n.".toList := by
  have husable : wideDelimiters.Usable := by rfl
  obtain ⟨_, _, hexpand⟩ := all_spliced husable twoSpans firstList
  exact ⟨husable, by rfl, ((hexpand .fail).1 _).mp (by rfl)⟩

end Loop

end Stencil
