import Mathlib.Data.Nat.Find
import Stencil.Proofs.Delimiter
import Stencil.Proofs.Grammar.Body
import Stencil.Proofs.Text.Cut

/-!
# Blocks

The delimiters of a block stand next to white space and line breaks. With no white space in the
delimiters themselves, what they match is a function of the text ahead: `opened?` and `closed?` give
the text that is left. Between them a block is the first body after which it can be closed.
-/

namespace Stencil

open Pattern

/-- A place further on in the same text. -/
structure Cursor.Reaches (cursor later : Cursor) : Prop where
  rest : later.rest <:+ cursor.rest
  position : later.position = cursor.position + (cursor.rest.length - later.rest.length)

/-- Further on from a place further on is further on. -/
theorem Cursor.Reaches.trans {first second third : Cursor} (h : first.Reaches second)
    (h' : second.Reaches third) : first.Reaches third := by
  refine ⟨h'.rest.trans h.rest, ?_⟩
  have hle := h.rest.length_le
  have hle' := h'.rest.length_le
  rw [h'.position, h.position]
  omega

/-- Stepping over characters leads to a place further on. -/
theorem Cursor.reaches_skip (n : Nat) (cursor : Cursor) : cursor.Reaches (cursor.skip n) := by
  refine ⟨rest_skip n cursor ▸ List.drop_suffix n cursor.rest, ?_⟩
  rw [rest_skip, List.length_drop]
  by_cases hn : n ≤ cursor.rest.length
  · rw [position_skip hn]
    omega
  · have hnil : (cursor.skip cursor.rest.length).rest = [] := by
      rw [rest_skip, List.drop_length]
    have hskip : cursor.skip n = cursor.skip cursor.rest.length := by
      rw [← skip_of_rest_nil hnil (n - cursor.rest.length), skip_skip]
      congr 1
      omega
    rw [hskip, position_skip (Nat.le_refl _)]
    omega

/-- A place stays further on when something is noted there. -/
theorem Cursor.Reaches.note {cursor later : Cursor} (h : cursor.Reaches later)
    (name source : Text) (size : Nat) : cursor.Reaches (later.note name source size) :=
  ⟨h.rest, h.position⟩

/-- Step to a text that ends the text ahead. -/
def Cursor.skipTo (rest : Text) (cursor : Cursor) : Cursor :=
  cursor.skip (cursor.rest.length - rest.length)

/-- A step to a text leads to where that text is ahead. -/
theorem Cursor.rest_skipTo {rest : Text} {cursor : Cursor} (h : rest <:+ cursor.rest) :
    (cursor.skipTo rest).rest = rest := by
  rw [skipTo, rest_skip, ← List.suffix_iff_eq_drop.mp h]

/-- A step to the text behind a piece is a step over the piece. -/
theorem Cursor.skipTo_eq_skip (piece : Text) {rest : Text} {cursor : Cursor}
    (h : cursor.rest = piece ++ rest) : cursor.skipTo rest = cursor.skip piece.length := by
  rw [skipTo, h, List.length_append, Nat.add_sub_cancel]

/-- Of two steps to texts the second one counts. -/
theorem Cursor.skipTo_skipTo {s t : Text} {cursor : Cursor} (ht : t <:+ cursor.rest)
    (hs : s <:+ t) : (cursor.skipTo t).skipTo s = cursor.skipTo s := by
  have hlt := ht.length_le
  have hls := hs.length_le
  rw [skipTo, rest_skipTo ht, skipTo, skip_skip, skipTo]
  congr 1
  omega

/-- What was noted stays noted in a step to a text. -/
theorem Cursor.skipTo_note (name source : Text) (size : Nat) (rest : Text) (cursor : Cursor) :
    (cursor.note name source size).skipTo rest =
      (cursor.skipTo rest).note name source size := by
  rw [skipTo, skip_note, rest_note, skipTo]

namespace Pattern

/-- A pattern leaves what a function of the text ahead says, or it fails. -/
def Leaves (p : Pattern) (left : Text → Option Text) : Prop :=
  ∀ cursor next, p.run cursor next = (left cursor.rest).bind fun rest => next (cursor.skipTo rest)

/-- What is left is the end of the text ahead. -/
def Cuts (left : Text → Option Text) : Prop := ∀ t rest, left t = some rest → rest <:+ t

variable {p q : Pattern} {f g : Text → Option Text}

/-- Two patterns leave what the second leaves of what the first has left. -/
theorem Leaves.seq (hp : Leaves p f) (hf : Cuts f) (hq : Leaves q g) (hg : Cuts g) :
    Leaves (p.seq q) fun t => (f t).bind g := by
  intro cursor next
  rw [run, hp]
  show _ = ((f cursor.rest).bind g).bind _
  cases hft : f cursor.rest with
  | none => rfl
  | some t =>
    have ht := hf _ _ hft
    rw [Option.bind_some, hq, Cursor.rest_skipTo ht, Option.bind_some]
    cases hgs : g t with
    | none => rfl
    | some s => rw [Option.bind_some, Option.bind_some, Cursor.skipTo_skipTo ht (hg _ _ hgs)]

/-- What is left of the end of a text is the end of the text. -/
theorem Cuts.bind (hf : Cuts f) (hg : Cuts g) : Cuts fun t => (f t).bind g := by
  intro t rest h
  obtain ⟨u, hu, hrest⟩ := Option.bind_eq_some_iff.mp h
  exact (hg _ _ hrest).trans (hf _ _ hu)

end Pattern

namespace Text

/-- The text after a line break is the end of the text that begins with it. -/
theorem cuts_afterLineBreak? : Cuts afterLineBreak? := by
  intro t rest h
  rcases afterLineBreak?_eq_some_iff.mp h with rfl | rfl
  · exact ⟨['\r', '\n'], rfl⟩
  · exact ⟨['\n'], rfl⟩

/-- The text after white space and a delimiter. -/
def afterGap? (delimiter t : Text) : Option Text :=
  stripPrefix? delimiter (t.dropWhile isSpace)

/-- The text after a gap and a delimiter is the end of the text that begins with them. -/
theorem cuts_afterGap? (delimiter : Text) : Cuts (afterGap? delimiter) := by
  intro t rest h
  have hdrop := stripPrefix?_eq_some_iff.mp h
  exact (List.suffix_append delimiter rest).trans (hdrop ▸ List.dropWhile_suffix isSpace)

/-- Without white space in a delimiter there is one way to skip to it. -/
theorem afterGap?_eq_some_iff {delimiter t rest : Text} (hne : delimiter ≠ [])
    (hspace : ∀ c ∈ delimiter, isSpace c = false) :
    afterGap? delimiter t = some rest ↔
      ∃ gap, isBlank gap = true ∧ t = gap ++ (delimiter ++ rest) := by
  rw [afterGap?, stripPrefix?_eq_some_iff]
  constructor
  · intro h
    refine ⟨t.takeWhile isSpace, isBlank_iff.mpr fun c => List.mem_takeWhile_imp, ?_⟩
    rw [← h, List.takeWhile_append_dropWhile]
  · rintro ⟨gap, hgap, rfl⟩
    obtain ⟨c, more, rfl⟩ := List.exists_cons_of_ne_nil hne
    have hc : ¬ isSpace c = true := by rw [hspace c List.mem_cons_self]; exact Bool.false_ne_true
    rw [List.dropWhile_append_of_pos (isBlank_iff.mp hgap), List.cons_append,
      List.dropWhile_cons_of_neg hc]

end Text

namespace Grammar

variable {delimiter : Text}

/-- A literal leaves the text behind it. -/
theorem leaves_literal (t : Text) : Leaves (literal t) (Text.stripPrefix? t) := by
  intro cursor next
  rw [run_literal]
  by_cases h : t <+: cursor.rest
  · obtain ⟨rest, hrest⟩ := h
    rw [if_pos ⟨rest, hrest⟩, Text.stripPrefix?_eq_some_iff.mpr hrest.symm, Option.bind_some,
      Cursor.skipTo_eq_skip t hrest.symm]
  · rw [if_neg h]
    cases hs : Text.stripPrefix? t cursor.rest with
    | none => rfl
    | some rest => exact absurd ⟨rest, (Text.stripPrefix?_eq_some_iff.mp hs).symm⟩ h

/-- A line break leaves the text behind it. -/
theorem leaves_lineBreak : Leaves lineBreak Text.afterLineBreak? := by
  intro cursor next
  cases h : cursor.rest with
  | nil => simp [lineBreak, run, h, Text.afterLineBreak?]
  | cons c rest =>
    by_cases hc : c = '\r'
    · subst c
      cases rest with
      | nil => simp [lineBreak, run, h, Text.afterLineBreak?, CharSet.lineFeed]
      | cons d rest =>
        by_cases hd : d = '\n'
        · subst d
          have hskip := Cursor.skipTo_eq_skip ['\r', '\n'] h
          simp [lineBreak, run, h, Text.afterLineBreak?, CharSet.lineFeed, CharSet.carriageReturn,
            hskip, Cursor.skip]
        · simp [lineBreak, run, h, Text.afterLineBreak?, CharSet.lineFeed, hd]
    · by_cases hd : c = '\n'
      · subst c
        have hskip := Cursor.skipTo_eq_skip ['\n'] h
        simp [lineBreak, run, h, Text.afterLineBreak?, CharSet.lineFeed, CharSet.carriageReturn,
          hskip, Cursor.skip]
      · simp [lineBreak, run, h, Text.afterLineBreak?, CharSet.lineFeed, CharSet.carriageReturn,
          hc, hd]

/-- White space is skipped up to a delimiter that holds none. -/
theorem leaves_gap (hne : delimiter ≠ []) (hspace : ∀ c ∈ delimiter, Text.isSpace c = false) :
    Leaves (gap.seq (literal delimiter)) (Text.afterGap? delimiter) := by
  intro cursor next
  obtain ⟨c, more, rfl⟩ := List.exists_cons_of_ne_nil hne
  rw [run, gap, run_star_one]
  · have hsplit : cursor.rest = cursor.rest.takeWhile Text.isSpace ++
        cursor.rest.dropWhile Text.isSpace := List.takeWhile_append_dropWhile.symm
    have hskip := Cursor.skipTo_eq_skip _ hsplit
    have hsuffix : cursor.rest.dropWhile Text.isSpace <:+ cursor.rest := ⟨_, hsplit.symm⟩
    rw [show CharSet.space.accepts = Text.isSpace from rfl, ← hskip, leaves_literal,
      Cursor.rest_skipTo hsuffix, Text.afterGap?]
    cases h : Text.stripPrefix? (c :: more) (cursor.rest.dropWhile Text.isSpace) with
    | none => rfl
    | some rest =>
      have hrest : rest <:+ cursor.rest.dropWhile Text.isSpace :=
        ⟨_, (Text.stripPrefix?_eq_some_iff.mp h).symm⟩
      rw [Option.bind_some, Option.bind_some, Cursor.skipTo_skipTo hsuffix hrest]
  · intro later d rest hl hd
    rw [run_literal, if_neg]
    rw [hl, List.cons_prefix_cons]
    rintro ⟨rfl, _⟩
    rw [show CharSet.space.accepts c = Text.isSpace c from rfl, hspace c List.mem_cons_self] at hd
    exact absurd hd Bool.false_ne_true

/-- The text inside a block that opens ahead. -/
def opened? (opening t : Text) : Option Text :=
  (Text.afterGap? opening t).bind Text.afterLineBreak?

/-- The text after a block that is closed ahead. -/
def closed? (closing t : Text) : Option Text :=
  (Text.afterLineBreak? t).bind (Text.afterGap? closing)

/-- The text inside a block is the end of the text that the block opens. -/
theorem cuts_opened? (opening : Text) : Cuts (opened? opening) :=
  (Text.cuts_afterGap? opening).bind Text.cuts_afterLineBreak?

/-- The text after a block is the end of the text that closes it. -/
theorem cuts_closed? (closing : Text) : Cuts (closed? closing) :=
  Text.cuts_afterLineBreak?.bind (Text.cuts_afterGap? closing)

/-- A block is closed where an ending and the closing delimiter stand. -/
theorem closed?_eq_some_iff {closing t after : Text} (hne : closing ≠ [])
    (hspace : ∀ c ∈ closing, Text.isSpace c = false) :
    closed? closing t = some after ↔ ∃ e, Text.Ending e ∧ t = e ++ (closing ++ after) := by
  simp only [closed?, Option.bind_eq_some_iff, Text.afterGap?_eq_some_iff hne hspace,
    Text.Ending, Text.afterLineBreak?_eq_some_iff]
  constructor
  · rintro ⟨_, rfl | rfl, gap, hgap, rfl⟩
    · exact ⟨'\r' :: '\n' :: gap, ⟨gap, .inl rfl, hgap⟩, rfl⟩
    · exact ⟨'\n' :: gap, ⟨gap, .inr rfl, hgap⟩, rfl⟩
  · rintro ⟨_, ⟨gap, rfl | rfl, hgap⟩, rfl⟩
    · exact ⟨_, .inl rfl, gap, hgap, rfl⟩
    · exact ⟨_, .inr rfl, gap, hgap, rfl⟩

/-- The text begins with a body after which the block is closed, and with no shorter one. -/
structure Closes (closing x after t : Text) : Prop where
  body : Body closing x
  closed : ∃ u, t = x ++ u ∧ closed? closing u = some after
  first : ∀ m < x.length, Body closing (t.take m) → closed? closing (t.drop m) = none

/-- The text after a block is the end of the text that its body begins. -/
theorem Closes.suffix {closing x after t : Text} (h : Closes closing x after t) :
    after <:+ t := by
  obtain ⟨u, hu, hclosed⟩ := h.closed
  exact (cuts_closed? _ _ _ hclosed).trans ⟨x, hu.symm⟩

/-- If the block is closed after some body, it is closed after a shortest one. -/
theorem exists_closes {closing t : Text} {n : Nat} (hn : n ≤ t.length)
    (hbody : Body closing (t.take n)) (hclosed : closed? closing (t.drop n) ≠ none) :
    ∃ x after, Closes closing x after t := by
  classical
  have hex : ∃ n, n ≤ t.length ∧ Body closing (t.take n) ∧ closed? closing (t.drop n) ≠ none :=
    ⟨n, hn, hbody, hclosed⟩
  obtain ⟨hle, hfirst, hsome⟩ := Nat.find_spec hex
  obtain ⟨after, hafter⟩ := Option.ne_none_iff_exists'.mp hsome
  refine ⟨t.take (Nat.find hex), after, hfirst, ⟨_, (List.take_append_drop _ t).symm, hafter⟩, ?_⟩
  intro m hm hbody
  rw [List.length_take, Nat.min_eq_left hle] at hm
  by_contra hne
  exact Nat.find_min hex hm ⟨by omega, hbody, hne⟩

/-! ## The pattern of a block -/

section Block

variable {pair : Pair} {name : Text} {cursor : Cursor}

private theorem run_inside (hp : pair.Solid) (cursor : Cursor) {n : Nat}
    (hn : n ≤ cursor.rest.length) :
    (sequence [lineBreak, gap, literal pair.closing]).run
        (Cursor.capture name cursor (cursor.skip n)) some =
      (closed? pair.closing (cursor.rest.drop n)).map fun after =>
        (cursor.skipTo after).note name cursor.rest n := by
  have htail : Leaves (sequence [lineBreak, gap, literal pair.closing]) (closed? pair.closing) :=
    leaves_lineBreak.seq Text.cuts_afterLineBreak? (leaves_gap hp.closing_ne_nil hp.closing)
      (Text.cuts_afterGap? _)
  rw [Cursor.capture_skip hn, htail, Cursor.rest_note, Cursor.rest_skip]
  cases h : closed? pair.closing (cursor.rest.drop n) with
  | none => rfl
  | some after =>
    have hsuffix : cursor.rest.drop n <:+ cursor.rest := List.drop_suffix n _
    have hskip : cursor.skip n = cursor.skipTo (cursor.rest.drop n) := by
      rw [Cursor.skipTo, List.length_drop, Nat.sub_sub_self hn]
    rw [Option.bind_some, Option.map_some, Cursor.skipTo_note, hskip,
      Cursor.skipTo_skipTo hsuffix (cuts_closed? _ _ _ h)]

private theorem run_block (hp : pair.Solid) (cursor : Cursor) :
    (block pair name).run cursor some =
      (opened? pair.opening cursor.rest).bind fun inside =>
        (star .shortest (step pair.closing)).run (cursor.skipTo inside) fun closed =>
          (sequence [lineBreak, gap, literal pair.closing]).run
            (Cursor.capture name (cursor.skipTo inside) closed) some := by
  have hopen : Leaves ((gap.seq (literal pair.opening)).seq lineBreak) (opened? pair.opening) :=
    (leaves_gap hp.opening_ne_nil hp.opening).seq (Text.cuts_afterGap? _) leaves_lineBreak
      Text.cuts_afterLineBreak?
  exact hopen cursor _

/-- A block that opens and closes ahead is found. -/
theorem run_block_of_closes (hp : pair.Solid) {inside x after : Text}
    (ho : opened? pair.opening cursor.rest = some inside)
    (hx : Closes pair.closing x after inside) :
    (block pair name).run cursor some =
      some ((cursor.skipTo after).note name inside x.length) := by
  obtain ⟨u, hu, hclosed⟩ := hx.closed
  have hinside := cuts_opened? _ _ _ ho
  have hafter := hx.suffix
  have hrest := Cursor.rest_skipTo hinside
  have hlength (m : Nat) (hm : m ≤ x.length) : m ≤ (cursor.skipTo inside).rest.length := by
    rw [hrest, hu, List.length_append]
    omega
  rw [run_block hp, ho, Option.bind_some]
  refine run_star_shortest_of_first (takes_step hp.closing_ne_nil) (advances_stepLength? _)
    (n := x.length) ?_ ?_ ?_
  · rw [hrest, hu]
    exact hx.body.leads u
  · intro m hm hlead
    have hfirst := hx.first m hm (by
      rw [← hrest]
      exact (leads_iff_body.mp hlead).2)
    rw [run_inside hp _ (hlength m (Nat.le_of_lt hm)), hrest, hfirst, Option.map_none]
  · rw [run_inside hp _ (hlength _ (Nat.le_refl _)), hrest, hu, List.drop_left, hclosed, ← hu,
      Option.map_some, Cursor.skipTo_skipTo hinside hafter]

/-- Where no block opens and closes ahead, none is found. -/
theorem run_block_eq_none (hp : pair.Solid)
    (h : ∀ inside, opened? pair.opening cursor.rest = some inside →
      ∀ x after, ¬ Closes pair.closing x after inside) :
    (block pair name).run cursor some = none := by
  rw [run_block hp]
  cases ho : opened? pair.opening cursor.rest with
  | none => rfl
  | some inside =>
    rw [Option.bind_some, Option.eq_none_iff_forall_ne_some]
    intro found hfound
    obtain ⟨n, hn, hnext⟩ := exists_of_run_star (takes_step hp.closing_ne_nil)
      (advances_stepLength? _) hfound
    have hle := hn.le_length (advances_stepLength? _)
    rw [run_inside hp _ hle] at hnext
    rw [Cursor.rest_skipTo (cuts_opened? _ _ _ ho)] at hn hle hnext
    have hclosed : closed? pair.closing (inside.drop n) ≠ none := by
      intro hnone
      rw [hnone] at hnext
      exact nomatch hnext
    obtain ⟨x, after, hx⟩ := exists_closes hle (leads_iff_body.mp hn).2 hclosed
    exact h inside ho x after hx

end Block

end Grammar

end Stencil
