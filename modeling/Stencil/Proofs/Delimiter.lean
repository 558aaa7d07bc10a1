import Mathlib.Data.List.Basic
import Stencil.Delimiter

/-!
# Usable delimiters

What validation promises of a pair: neither delimiter is empty and neither holds a line break. It
promises nothing about other white space; a pair without any is solid. Nor does it promise that the
delimiters can be told apart; where they can, a token is found nowhere inside another one.
-/

namespace Stencil

namespace Delimiters

private theorem sideFault?_eq_none {side : Side} {delimiter : Text}
    (h : sideFault? side delimiter = none) :
    delimiter ≠ [] ∧ ∀ c ∈ delimiter, isLineBreak c = false := by
  cases delimiter with
  | nil => simp [sideFault?] at h
  | cons c rest =>
    refine ⟨List.cons_ne_nil c rest, ?_⟩
    by_cases hany : (c :: rest).any isLineBreak = true
    · simp [sideFault?, hany] at h
    · simpa only [List.any_eq_true, not_exists, not_and, Bool.not_eq_true] using hany

variable {pair : Pair}

/-- The opening delimiter of a usable pair is not empty. -/
theorem opening_ne_nil (h : pairFault? pair = none) : pair.opening ≠ [] :=
  (sideFault?_eq_none (Option.or_eq_none_iff.mp h).1).1

/-- The closing delimiter of a usable pair is not empty. -/
theorem closing_ne_nil (h : pairFault? pair = none) : pair.closing ≠ [] :=
  (sideFault?_eq_none (Option.or_eq_none_iff.mp h).2).1

/-- No delimiter of a usable pair breaks a line. -/
theorem isLineBreak_eq_false (h : pairFault? pair = none) {c : Char}
    (hc : c ∈ pair.opening ∨ c ∈ pair.closing) : isLineBreak c = false :=
  hc.elim ((sideFault?_eq_none (Option.or_eq_none_iff.mp h).1).2 c)
    ((sideFault?_eq_none (Option.or_eq_none_iff.mp h).2).2 c)

/-- No pair of usable delimiters has a fault. -/
theorem Usable.pairFault? {d : Delimiters} (h : d.Usable) : pairFault? d.token = none ∧
    Delimiters.pairFault? d.tag = none ∧ Delimiters.pairFault? d.body = none := by
  simp only [Usable, fault?, Option.or_eq_none_iff, Option.map_eq_none_iff] at h
  exact ⟨h.1, h.2.1, h.2.2.1⟩

end Delimiters

/-- A text that begins with the opening delimiter begins with one of its characters. -/
theorem Pair.mem_opening_of_append_eq_cons {pair : Pair} (ho : pair.opening ≠ []) {c : Char}
    {rest t : Text} (heq : pair.opening ++ rest = c :: t) : c ∈ pair.opening := by
  obtain ⟨d, more, hd⟩ := List.exists_cons_of_ne_nil ho
  rw [hd, List.cons_append] at heq
  rw [hd, (List.cons.inj heq).1]
  exact List.mem_cons_self

/-- A usable pair without white space. -/
structure Pair.Solid (pair : Pair) : Prop where
  usable : Delimiters.pairFault? pair = none
  opening : ∀ c ∈ pair.opening, Text.isSpace c = false
  closing : ∀ c ∈ pair.closing, Text.isSpace c = false

namespace Pair.Solid

variable {pair : Pair}

/-- The opening delimiter of a solid pair is not empty. -/
theorem opening_ne_nil (h : pair.Solid) : pair.opening ≠ [] := Delimiters.opening_ne_nil h.usable

/-- The closing delimiter of a solid pair is not empty. -/
theorem closing_ne_nil (h : pair.Solid) : pair.closing ≠ [] := Delimiters.closing_ne_nil h.usable

/-- Solid pairs are recognized by a look at all characters. -/
theorem of_all (h : Delimiters.pairFault? pair = none)
    (hspace : (pair.opening ++ pair.closing).all (!Text.isSpace ·) = true) : pair.Solid := by
  simp only [List.all_eq_true, Bool.not_eq_true'] at hspace
  exact ⟨h, fun c hc => hspace c (List.mem_append_left _ hc),
    fun c hc => hspace c (List.mem_append_right _ hc)⟩

end Pair.Solid

/-! ## Delimiters apart -/

namespace Pair

/-- A usable pair whose delimiters share no character. -/
structure Apart (pair : Pair) : Prop where
  usable : Delimiters.pairFault? pair = none
  disjoint : ∀ c ∈ pair.opening, c ∉ pair.closing

/-- A name that holds no character of a delimiter. -/
def Free (pair : Pair) (name : Text) : Prop := ∀ c ∈ name, c ∉ pair.opening ∧ c ∉ pair.closing

instance (pair : Pair) : DecidablePred pair.Free := fun name =>
  List.decidableBAll (fun c : Char => c ∉ pair.opening ∧ c ∉ pair.closing) name

variable {pair : Pair} {t : Text}

/-- The opening delimiter of a pair that is apart is not empty. -/
theorem Apart.opening_ne_nil (h : pair.Apart) : pair.opening ≠ [] :=
  Delimiters.opening_ne_nil h.usable

/-- The closing delimiter of a pair that is apart is not empty. -/
theorem Apart.closing_ne_nil (h : pair.Apart) : pair.closing ≠ [] :=
  Delimiters.closing_ne_nil h.usable

/-- No token is empty. -/
theorem wrap_ne_nil (ho : pair.opening ≠ []) (name : Text) : pair.wrap name ≠ [] := by
  rw [wrap, List.append_assoc]
  exact List.append_ne_nil_of_left_ne_nil ho _

/-- A token does not begin with a character that is not in the opening delimiter. -/
theorem wrap_not_isPrefix_cons (ho : pair.opening ≠ []) {name : Text} {c : Char}
    (hc : c ∉ pair.opening) : ¬ pair.wrap name <+: c :: t := by
  rintro ⟨rest, heq⟩
  rw [wrap, List.append_assoc, List.append_assoc] at heq
  exact hc (mem_opening_of_append_eq_cons ho heq)

private theorem name_eq_of_isPrefix {name other : Text} {d : Char} {more more' : Text}
    (hn : d ∉ name) (ho : d ∉ other) (h : name ++ d :: more <+: other ++ d :: more') :
    name = other := by
  -- Neither name holds the first character of the closing delimiter, so both end at it.
  induction name generalizing other with
  | nil =>
    cases other with
    | nil => rfl
    | cons c other =>
      have hdc : d = c := (List.cons_prefix_cons.mp h).1
      exact absurd (hdc ▸ List.mem_cons_self) ho
  | cons c name ih =>
    cases other with
    | nil =>
      have hcd : c = d := (List.cons_prefix_cons.mp h).1
      exact absurd (hcd ▸ List.mem_cons_self) hn
    | cons e other =>
      obtain ⟨rfl, hrest⟩ := List.cons_prefix_cons.mp h
      rw [ih (fun hm => hn (List.mem_cons_of_mem _ hm))
        (fun hm => ho (List.mem_cons_of_mem _ hm)) hrest]

private theorem Apart.notMem_opening (hp : pair.Apart) {name : Text}
    (hn : pair.Free name) {c : Char} (hc : c ∈ name ++ pair.closing) : c ∉ pair.opening := by
  rcases List.mem_append.mp hc with hc | hc
  · exact (hn c hc).1
  · exact fun hopen => hp.disjoint c hopen hc

/-- The token of another name begins nowhere inside a token. -/
theorem wrap_not_isPrefix (hp : pair.Apart) {name other : Text} (hn : pair.Free name)
    (ho : pair.Free other) (hne : name ≠ other) {v : Text} (hv : v <:+ pair.wrap other)
    (hnil : v ≠ []) : ¬ pair.wrap name <+: v ++ t := by
  obtain ⟨d, more, hd⟩ := List.exists_cons_of_ne_nil hp.closing_ne_nil
  obtain ⟨pre, hpre⟩ := hv
  rw [wrap, List.append_assoc] at hpre
  rcases List.append_eq_append_iff.mp hpre with ⟨late, hopen, rfl⟩ | ⟨early, rfl, hrest⟩
  · rw [wrap, List.append_assoc, List.append_assoc]
    intro hwrap
    cases pre with
    | nil =>
      rw [hopen, List.nil_append, List.prefix_append_right_inj] at hwrap
      have hname : name ++ d :: more <+: other ++ d :: (more ++ t) := by
        simpa only [hd, List.append_assoc, List.cons_append] using hwrap
      have hmem : d ∈ pair.closing := hd ▸ List.mem_cons_self
      exact hne (name_eq_of_isPrefix (fun hm => (hn d hm).2 hmem)
        (fun hm => (ho d hm).2 hmem) hname)
    | cons p pre =>
      -- The opening delimiter would go on into the name or the closing delimiter.
      have hlength : late.length < pair.opening.length := by
        rw [hopen, List.length_append, List.length_cons]
        omega
      obtain ⟨x, hx⟩ := List.prefix_of_prefix_length_le (List.prefix_append late _)
        ((List.prefix_append _ _).trans hwrap) (Nat.le_of_lt hlength)
      rw [← hx, List.append_assoc, List.prefix_append_right_inj] at hwrap
      cases x with
      | nil => rw [← hx, List.append_nil] at hlength; omega
      | cons c x =>
        obtain ⟨e, w, hw⟩ := List.exists_cons_of_ne_nil
          (List.append_ne_nil_of_right_ne_nil other hp.closing_ne_nil)
        rw [hw, List.cons_append, List.cons_append, List.cons_prefix_cons] at hwrap
        have hnot : c ∉ pair.opening :=
          hp.notMem_opening ho (by rw [hw, hwrap.1]; exact List.mem_cons_self)
        exact hnot (hx ▸ List.mem_append_right late List.mem_cons_self)
  · obtain ⟨c, v, rfl⟩ := List.exists_cons_of_ne_nil hnil
    refine wrap_not_isPrefix_cons hp.opening_ne_nil (hp.notMem_opening ho (c := c) ?_)
    rw [hrest]
    exact List.mem_append_right _ List.mem_cons_self

/-! ## Tokens inside tokens -/

/-- A token is as long as its name and its delimiters together. -/
theorem length_wrap (pair : Pair) (name : Text) :
    (pair.wrap name).length = pair.opening.length + name.length + pair.closing.length := by
  simp only [wrap, List.length_append]

/-- The characters of a text that are in no delimiter. -/
def freePart (pair : Pair) (t : Text) : Text :=
  t.filter fun c => c ∉ pair.opening ∧ c ∉ pair.closing

/-- What is free of delimiters in a text is so in its parts. -/
theorem freePart_append (pair : Pair) (s t : Text) :
    pair.freePart (s ++ t) = pair.freePart s ++ pair.freePart t := List.filter_append ..

/-- No more is free of delimiters than there is. -/
theorem length_freePart_le (pair : Pair) (t : Text) : (pair.freePart t).length ≤ t.length :=
  List.length_filter_le ..

/-- A text is free of delimiters if nothing is lost with them. -/
theorem free_of_length_freePart (h : (pair.freePart t).length = t.length) : pair.Free t := by
  intro c hc
  simpa using List.length_filter_eq_length_iff.mp h c hc

/-- Without the characters of the delimiters a token is its name. -/
theorem freePart_wrap {name : Text} (hn : pair.Free name) : pair.freePart (pair.wrap name) = name := by
  have hopening : pair.freePart pair.opening = [] := by simp +contextual [freePart]
  have hclosing : pair.freePart pair.closing = [] := by simp +contextual [freePart]
  have hname : pair.freePart name = name := List.filter_eq_self.mpr fun c hc => by simpa using hn c hc
  rw [wrap, freePart_append, freePart_append, hopening, hclosing, hname, List.nil_append,
    List.append_nil]

/-- A token of a free name stands in no other one. -/
theorem wrap_isInfix_wrap_iff (hp : Delimiters.pairFault? pair = none) {name other : Text}
    (hn : pair.Free name) (ho : pair.Free other) :
    pair.wrap name <:+: pair.wrap other ↔ name = other := by
  refine ⟨?_, fun h => h ▸ List.infix_refl _⟩
  rintro ⟨pre, post, h⟩
  obtain ⟨o, opening, hopening⟩ := List.exists_cons_of_ne_nil (Delimiters.opening_ne_nil hp)
  obtain ⟨d, closing, hclosing⟩ := List.exists_cons_of_ne_nil (Delimiters.closing_ne_nil hp)
  cases pre with
  | nil =>
    have hd : d ∈ pair.closing := hclosing ▸ List.mem_cons_self
    have hnames : name ++ d :: closing <+: other ++ d :: closing :=
      ⟨post, by simpa [wrap, hclosing] using h⟩
    exact name_eq_of_isPrefix (fun hm => (hn d hm).2 hd) (fun hm => (ho d hm).2 hd) hnames
  | cons c pre =>
    -- By the lengths all that stands around the token is free, and yet a token begins with it.
    have hc : c = o := by
      rw [wrap, wrap, hopening] at h
      exact (List.cons.inj h).1
    have hlengths := congrArg List.length h
    have hlengths' := congrArg (fun t => (pair.freePart t).length) h
    simp only [freePart_append, freePart_wrap hn, freePart_wrap ho, List.length_append,
      length_wrap] at hlengths hlengths'
    have hpre := pair.length_freePart_le (c :: pre)
    have hpost := pair.length_freePart_le post
    have hfree : pair.Free (c :: pre) := free_of_length_freePart (by omega)
    exact absurd (hc ▸ hopening ▸ List.mem_cons_self) (hfree c List.mem_cons_self).1

end Pair

end Stencil
