import Stencil.Proofs.Pattern.Stride

/-!
# Languages of patterns

Whatever a pattern finds, it has taken a text of a certain kind, its groups have noted parts of that
text, and the search went on behind it. Kinds are put together as patterns are, so what a whole
grammar takes can be read off its parts without following the search.
-/

namespace Stencil

namespace Cursor

/-- What the groups closed so far have taken, by name, the latest first. -/
def notes (cursor : Cursor) : List (Text × Text) :=
  cursor.captured.map fun c => (c.name, c.text)

/-- On the way from one place to another a text is stepped over and groups note parts of it. -/
structure Over (cursor later : Cursor) (x : Text) (noted : List (Text × Text)) : Prop where
  rest : cursor.rest = x ++ later.rest
  position : later.position = cursor.position + x.length
  notes : later.notes = noted ++ cursor.notes

variable {cursor later last : Cursor} {x y rest : Text} {noted noted' : List (Text × Text)}

theorem Over.refl (cursor : Cursor) : cursor.Over cursor [] [] := ⟨rfl, rfl, rfl⟩

/-- Texts that are stepped over one after another are stepped over together. -/
theorem Over.trans (h : cursor.Over later x noted) (h' : later.Over last y noted') :
    cursor.Over last (x ++ y) (noted' ++ noted) where
  rest := by rw [h.rest, h'.rest, List.append_assoc]
  position := by rw [h'.position, h.position, List.length_append, Nat.add_assoc]
  notes := by rw [h'.notes, h.notes, List.append_assoc]

/-- Characters that are ahead are stepped over, and nothing is noted. -/
theorem over_skip (h : cursor.rest = x ++ rest) : cursor.Over (cursor.skip x.length) x [] where
  rest := by rw [rest_skip, h, List.drop_left]
  position := position_skip (by rw [h, List.length_append]; omega)
  notes := by rw [notes, captured_skip]; rfl

/-- A group notes all that was stepped over inside it. -/
theorem Over.capture (h : cursor.Over later x noted) (name : Text) :
    cursor.Over (capture name cursor later) x ((name, x) :: noted) where
  rest := h.rest
  position := h.position
  notes := by
    have htext : cursor.rest.take (later.position - cursor.position) = x := by
      rw [h.position, Nat.add_sub_cancel_left, h.rest, List.take_left]
    have hnotes := h.notes
    simp only [Cursor.notes, Cursor.capture, List.map_cons, Captured.text, htext,
      List.cons_append] at hnotes ⊢
    rw [hnotes]

end Cursor

/-- What a group of a match took is the latest note under its name. -/
theorem Match.group?_eq_find? {m : Match} {notes : List (Text × Text)}
    (h : (m.captured.map fun c => (c.name, c.text)) = notes) (name : Text) :
    m.group? name = (notes.find? fun note => note.1 = name).map Prod.snd := by
  rw [← h, List.find?_map, Option.map_map]
  rfl

namespace Pattern

/-- What a pattern may take: texts, each with what named groups note of it. -/
abbrev Kind := Text → List (Text × Text) → Prop

/-- Texts of which nothing is noted. -/
def Kind.plain (L : Text → Prop) : Kind := fun x noted => L x ∧ noted = []

/-- A text of one kind followed by one of another. -/
def Kind.then (K L : Kind) : Kind := fun z noted =>
  ∃ x y n m, K x n ∧ L y m ∧ z = x ++ y ∧ noted = m ++ n

/-- A text of a kind, or nothing. -/
def Kind.orNothing (K : Kind) : Kind := fun x noted => K x noted ∨ x = [] ∧ noted = []

/-- Texts of a kind, noted under a name. -/
def Kind.named (name : Text) (K : Kind) : Kind := fun x noted =>
  ∃ n, K x n ∧ noted = (name, x) :: n

/-- Whatever the pattern finds, it has taken a text of this kind and gone on behind it. -/
def Finds (p : Pattern) (K : Kind) : Prop :=
  ∀ cursor next found, p.run cursor next = some found →
    ∃ later x noted, K x noted ∧ cursor.Over later x noted ∧ next later = some found

variable {p q : Pattern} {K L : Kind} {stride : Text → Option Nat}

/-- What takes texts of a kind takes texts of every wider kind. -/
theorem Finds.mono (hp : Finds p K) (h : ∀ x noted, K x noted → L x noted) : Finds p L := by
  intro cursor next found hrun
  obtain ⟨later, x, noted, hx, hover, hnext⟩ := hp cursor next found hrun
  exact ⟨later, x, noted, h x noted hx, hover, hnext⟩

/-- One pattern after another takes a text of the first kind and then one of the second. -/
theorem Finds.seq (hp : Finds p K) (hq : Finds q L) : Finds (p.seq q) (K.then L) := by
  intro cursor next found h
  obtain ⟨middle, x, n, hx, hover, h⟩ := hp cursor _ found h
  obtain ⟨later, y, m, hy, hover', h⟩ := hq middle next found h
  exact ⟨later, x ++ y, m ++ n, ⟨x, y, n, m, hx, hy, rfl, rfl⟩, hover.trans hover', h⟩

/-- A named group notes the text that it takes. -/
theorem Finds.named (hp : Finds p K) (name : Text) :
    Finds (group (some name) p) (K.named name) := by
  intro cursor next found h
  obtain ⟨later, x, n, hx, hover, h⟩ := hp cursor _ found h
  exact ⟨_, x, (name, x) :: n, ⟨n, hx, rfl⟩, hover.capture name, h⟩

/-- A group without a name takes what is in it. -/
theorem Finds.group (hp : Finds p K) : Finds (group none p) K := hp

/-- An optional pattern takes what it takes, or nothing. -/
theorem Finds.optional (hp : Finds p K) (preference : Preference) :
    Finds (optional preference p) K.orNothing := by
  intro cursor next found h
  have hways : p.run cursor next = some found ∨ next cursor = some found := by
    cases preference with
    | longest => exact (Option.or_eq_some_iff.mp h).imp_right And.right
    | shortest => exact ((Option.or_eq_some_iff.mp h).imp_right And.right).symm
  rcases hways with h | h
  · obtain ⟨later, x, n, hx, hover, h⟩ := hp cursor next found h
    exact ⟨later, x, n, .inl hx, hover, h⟩
  · exact ⟨cursor, [], [], .inr ⟨rfl, rfl⟩, .refl cursor, h⟩

/-- A boundary takes nothing. -/
theorem finds_boundary (condition : Boundary) :
    Finds (boundary condition) (.plain (· = [])) := by
  intro cursor next found h
  simp only [run, Option.ite_none_right_eq_some] at h
  exact ⟨cursor, [], [], ⟨rfl, rfl⟩, .refl cursor, h.2⟩

/-- A literal takes itself. -/
theorem finds_literal (t : Text) : Finds (literal t) (.plain (· = t)) := by
  intro cursor next found h
  rw [run_literal, Option.ite_none_right_eq_some] at h
  obtain ⟨⟨rest, hrest⟩, h⟩ := h
  exact ⟨_, t, [], ⟨rfl, rfl⟩, Cursor.over_skip hrest.symm, h⟩

/-- A set takes one of its characters. -/
theorem finds_one (set : CharSet) :
    Finds (one set) (.plain fun x => ∃ c, set.accepts c = true ∧ x = [c]) := by
  intro cursor next found h
  cases hrest : cursor.rest with
  | nil =>
    simp only [run, hrest] at h
    cases h
  | cons c rest =>
    simp only [run, hrest, Option.ite_none_right_eq_some] at h
    exact ⟨cursor.skip 1, [c], [], ⟨⟨c, h.1, rfl⟩, rfl⟩, Cursor.over_skip (x := [c]) hrest,
      by rw [Cursor.skip_succ hrest]; exact h.2⟩

/-- A repetition takes a text through which its strides lead. -/
theorem finds_star (hp : Takes p stride) (ha : Advances stride) (preference : Preference) :
    Finds (star preference p) (.plain fun x => ∃ rest, Leads stride (x ++ rest) x.length) := by
  intro cursor next found h
  obtain ⟨n, hn, h⟩ := exists_of_run_star hp ha h
  have hle := hn.le_length ha
  have hlength : (cursor.rest.take n).length = n := List.length_take_of_le hle
  have hsplit : cursor.rest = cursor.rest.take n ++ cursor.rest.drop n :=
    (List.take_append_drop n _).symm
  refine ⟨_, cursor.rest.take n, [], ⟨⟨cursor.rest.drop n, ?_⟩, rfl⟩, Cursor.over_skip hsplit, ?_⟩
  · rw [hlength, ← hsplit]
    exact hn
  · rw [hlength]
    exact h

/-- A pattern matches a text from one end to the other. -/
def MatchesWhole (p : Pattern) (t : Text) : Prop :=
  ((p.seq (boundary .textEnd)).matchAt? (Cursor.start t)).isSome

/-- A repetition matches the texts that its strides lead through to the end, whichever number of
rounds it prefers. -/
theorem matchesWhole_star_iff (hp : Takes p stride) (ha : Advances stride)
    (preference : Preference) {t : Text} :
    (star preference p).MatchesWhole t ↔ Leads stride t t.length := by
  have hend (later : Cursor) : (boundary .textEnd).run later some = none ↔ later.rest ≠ [] := by
    cases h : later.rest <;> simp [run, Boundary.textEnd, h]
  rw [MatchesWhole, Option.isSome_iff_ne_none, matchAt?, run, Ne, run_star_eq_none_iff hp ha]
  constructor
  · intro h
    by_contra hnot
    refine h fun n hn => (hend _).mpr ?_
    rw [Cursor.rest_skip]
    intro hdrop
    have hle : t.length ≤ n := List.drop_eq_nil_iff.mp hdrop
    exact hnot (Nat.le_antisymm (hn.le_length ha) hle ▸ hn)
  · intro h hnone
    refine (hend _).mp (hnone t.length h) ?_
    rw [Cursor.rest_skip]
    exact List.drop_length

private theorem forall_accepts_of_leads {set : CharSet} {t : Text} {n : Nat}
    (h : Leads (strideOne set) t n) : ∀ c ∈ t.take n, set.accepts c = true := by
  induction h with
  | stop t => exact fun c hc => absurd hc List.not_mem_nil
  | @round t m n hm _ ih =>
    cases t with
    | nil => cases hm
    | cons d t =>
      simp only [strideOne, Option.ite_none_right_eq_some, Option.some.injEq] at hm
      obtain ⟨hd, rfl⟩ := hm
      rw [Nat.add_comm, List.take_succ_cons]
      exact List.forall_mem_cons.mpr ⟨hd, ih⟩

/-- A repetition of characters takes characters of its set. -/
theorem finds_star_one (set : CharSet) (preference : Preference) :
    Finds (star preference (one set)) (.plain fun x => ∀ c ∈ x, set.accepts c = true) := by
  intro cursor next found h
  obtain ⟨later, x, noted, ⟨⟨rest, hlead⟩, hnoted⟩, hover, h⟩ :=
    finds_star (takes_one set) (advances_one set) preference cursor next found h
  have hall := forall_accepts_of_leads hlead
  rw [List.take_left] at hall
  exact ⟨later, x, noted, ⟨hall, hnoted⟩, hover, h⟩

end Pattern

end Stencil
