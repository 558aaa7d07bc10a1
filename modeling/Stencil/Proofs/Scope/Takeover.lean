import Stencil.Proofs.Delimiter
import Stencil.Proofs.Dictionary
import Stencil.Proofs.Text.Replace
import Stencil.Render

/-!
# Keys taken over by other keys

The renames of an iteration are made one after another in the same text, so what one of them writes
can be read by a later one. A key keeps its token unless the name given to it is renamed again: as a
later key, or as the qualified form of a key. The second happens to `id` of an element that has a key
`id_0` as well, and `renameTokens_wrap_key_iff` says that there is no third way.
-/

namespace Stencil

open Dictionary

/-! ## Renames that lengthen names -/

variable {pair : Pair} {renames more : List (Text × Text)} {t : Text}

/-- Renames are applied from first to last. -/
theorem renameTokens_append :
    renameTokens pair (renames ++ more) t = renameTokens pair more (renameTokens pair renames t) :=
  List.foldl_append

/-- Longer names make no text shorter. -/
theorem length_le_length_renameTokens (ho : pair.opening ≠ [])
    (h : ∀ r ∈ renames, r.1.length ≤ r.2.length) (t : Text) :
    t.length ≤ (renameTokens pair renames t).length := by
  induction renames generalizing t with
  | nil => exact Nat.le_refl _
  | cons r renames ih =>
    obtain ⟨hr, hrenames⟩ := List.forall_mem_cons.mp h
    have hwrap : (pair.wrap r.1).length ≤ (pair.wrap r.2).length := by
      simp only [Pair.length_wrap]
      omega
    have hone := Text.length_le_length_replace (pair.wrap_ne_nil ho r.1) hwrap t
    exact Nat.le_trans hone (ih hrenames _)

/-- What has become longer never gets back to what it was: a text stays under such renames only if
none of their tokens stands in it. -/
theorem renameTokens_eq_self_iff (ho : pair.opening ≠ [])
    (h : ∀ r ∈ renames, r.1.length < r.2.length) :
    renameTokens pair renames t = t ↔ ∀ r ∈ renames, ¬ pair.wrap r.1 <:+: t := by
  induction renames with
  | nil => simp [renameTokens]
  | cons r renames ih =>
    obtain ⟨hr, hrenames⟩ := List.forall_mem_cons.mp h
    have hne := pair.wrap_ne_nil ho r.1
    rw [renameTokens_cons, List.forall_mem_cons]
    by_cases hin : pair.wrap r.1 <:+: t
    · refine iff_of_false ?_ fun hall => hall.1 hin
      intro hsame
      have hwrap : (pair.wrap r.1).length < (pair.wrap r.2).length := by
        simp only [Pair.length_wrap]
        omega
      have hlonger := Text.length_lt_length_replace hne hwrap hin
      have hrest := length_le_length_renameTokens ho
        (fun r hr => Nat.le_of_lt (hrenames r hr)) (t.replace (pair.wrap r.1) (pair.wrap r.2))
      rw [hsame] at hrest
      omega
    · rw [Text.replace_eq_self hne hin, ih hrenames, and_iff_right hin]

/-! ## Iterations -/

/-- An iteration gives a key a longer name. -/
theorem length_lt_length_iterationName (loop key : Text) (index : Nat) :
    key.length < (iterationName loop key index).length := by
  simp only [iterationName, List.length_append, List.length_cons]
  omega

/-- The qualified name of a key with a number behind it is the name of an iteration. -/
theorem qualifiedName_append_index (loop key : Text) (index : Nat) :
    Loop.qualifiedName loop (key ++ '_' :: Text.ofNat index) = iterationName loop key index := by
  simp only [Loop.qualifiedName, iterationName, List.append_assoc, List.cons_append]

/-- The name of an iteration is longer than the qualified name of its key. -/
theorem length_qualifiedName_lt_length_iterationName (loop key : Text) (index : Nat) :
    (Loop.qualifiedName loop key).length < (iterationName loop key index).length := by
  rw [← qualifiedName_append_index]
  simp only [Loop.qualifiedName, List.length_append, List.length_cons]
  omega

/-- A key that takes a token over: one that is renamed later, or whose qualified form is, and of
which that token stands in the one that a key has been given. -/
def Loop.TakesOver (l : Loop) (pair : Pair) (element : Variables) (index : Nat)
    (other key : Text) : Prop :=
  (key < other ∧ pair.wrap other <:+: pair.wrap (iterationName l.name key index)) ∨
    (Loop.qualifiedName l.name other ∉ keys element ∧
      pair.wrap (Loop.qualifiedName l.name other) <:+: pair.wrap (iterationName l.name key index))

variable {l : Loop} {element : Variables} {index : Nat} {key : Text}

namespace Loop

/-- What an iteration renames after a key: the later keys, and the qualified forms of all keys. -/
def renamesAfter (l : Loop) (element : Variables) (index : Nat) (key : Text) : List (Text × Text) :=
  ((keys element).filter (key < ·)).map (fun k => (k, iterationName l.name k index)) ++
    ((keys element).filter fun k => qualifiedName l.name k ∉ keys element).map
      fun k => (qualifiedName l.name k, iterationName l.name k index)

private theorem contains_eq (name : Text) :
    (!contains name element) = decide (name ∉ keys element) := by
  rw [contains, Bool.eq_iff_iff, decide_eq_true_iff, ← find?_eq_none_iff]
  cases find? name element <;> simp

private theorem exists_renames_eq (ho : Ordered element) (hkey : key ∈ keys element) :
    ∃ early : List Text, (∀ k ∈ early, k ∈ keys element ∧ k ≠ key) ∧
      l.renames element index = early.map (fun k => (k, iterationName l.name k index)) ++
        (key, iterationName l.name key index) :: l.renamesAfter element index key := by
  -- The keys are in order, so those before the key are the smaller ones.
  obtain ⟨early, late, hkeys⟩ := List.append_of_mem hkey
  have hpairs : (early ++ key :: late).Pairwise (· < ·) := hkeys ▸ ho
  obtain ⟨_, hlate, hearly⟩ := List.pairwise_append.mp hpairs
  have hbefore : ∀ k ∈ early, k < key := fun k hk => hearly k hk key List.mem_cons_self
  have hafter : ∀ k ∈ late, key < k := (List.pairwise_cons.mp hlate).1
  have hfilter : (keys element).filter (key < ·) = late := by
    have hnone : early.filter (key < ·) = [] := by
      rw [List.filter_eq_nil_iff]
      intro k hk hlt
      exact List.lt_irrefl k (List.lt_trans (hbefore k hk) (of_decide_eq_true hlt))
    have hall : late.filter (key < ·) = late :=
      List.filter_eq_self.mpr fun k hk => decide_eq_true (hafter k hk)
    rw [hkeys, List.filter_append, hnone, List.nil_append,
      List.filter_cons_of_neg (by simp), hall]
  refine ⟨early, ?_, ?_⟩
  · intro k hk
    refine ⟨hkeys ▸ List.mem_append_left _ hk, ?_⟩
    rintro rfl
    exact List.lt_irrefl k (hbefore k hk)
  · simp only [renames, contains_eq, renamesAfter, hfilter]
    rw [hkeys, List.map_append, List.map_cons, List.append_assoc, List.cons_append]

private theorem length_lt_of_mem_renamesAfter {r : Text × Text}
    (hr : r ∈ l.renamesAfter element index key) : r.1.length < r.2.length := by
  rcases List.mem_append.mp hr with hr | hr
  · obtain ⟨k, _, rfl⟩ := List.mem_map.mp hr
    exact length_lt_length_iterationName l.name k index
  · obtain ⟨k, _, rfl⟩ := List.mem_map.mp hr
    exact length_qualifiedName_lt_length_iterationName l.name k index

private theorem forall_mem_renamesAfter_iff :
    (∀ r ∈ l.renamesAfter element index key,
      ¬ pair.wrap r.1 <:+: pair.wrap (iterationName l.name key index)) ↔
    ∀ other ∈ keys element, ¬ l.TakesOver pair element index other key := by
  simp only [renamesAfter, TakesOver, List.forall_mem_append, List.forall_mem_map,
    List.mem_filter, decide_eq_true_iff, not_or, not_and]
  constructor
  · rintro ⟨hbare, hqualified⟩ other hother
    exact ⟨fun hlater => hbare other ⟨hother, hlater⟩,
      fun hnot => hqualified other ⟨hother, hnot⟩⟩
  · intro h
    exact ⟨fun other hother => (h other hother.1).1 hother.2,
      fun other hother => (h other hother.1).2 hother.2⟩

private theorem renameTokens_wrap_key (hp : Delimiters.pairFault? pair = none)
    (ho : Ordered element) (hkeys : ∀ k ∈ keys element, pair.Free k) (hkey : key ∈ keys element) :
    renameTokens pair (l.renames element index) (pair.wrap key) =
      renameTokens pair (l.renamesAfter element index key)
        (pair.wrap (iterationName l.name key index)) := by
  have hopening := Delimiters.opening_ne_nil hp
  obtain ⟨early, hearly, hrenames⟩ := exists_renames_eq ho hkey
  have hstay : renameTokens pair (early.map fun k => (k, iterationName l.name k index))
      (pair.wrap key) = pair.wrap key := by
    rw [renameTokens_eq_self_iff hopening]
    · intro r hr
      obtain ⟨k, hk, rfl⟩ := List.mem_map.mp hr
      obtain ⟨hmem, hne⟩ := hearly k hk
      exact (Pair.wrap_isInfix_wrap_iff hp (hkeys k hmem) (hkeys key hkey)).not.mpr hne
    · intro r hr
      obtain ⟨k, _, rfl⟩ := List.mem_map.mp hr
      exact length_lt_length_iterationName l.name k index
  have hone : Text.replace (pair.wrap key) (pair.wrap key)
      (pair.wrap (iterationName l.name key index)) =
        pair.wrap (iterationName l.name key index) := by
    simpa [Text.replace_nil (pair.wrap_ne_nil hopening key)] using
      Text.replace_append (pair.wrap_ne_nil hopening key) []
  rw [hrenames, renameTokens_append, hstay, renameTokens_cons, hone]

private theorem takesOver_iff (hp : Delimiters.pairFault? pair = none) (hname : pair.Free l.name)
    (hindex : pair.Free ('_' :: Text.ofNat index)) (hkeys : ∀ k ∈ keys element, pair.Free k)
    (hkey : key ∈ keys element) {other : Text} (hother : other ∈ keys element) :
    l.TakesOver pair element index other key ↔
      (other = iterationName l.name key index ∧ key < other) ∨
        (other = key ++ '_' :: Text.ofNat index ∧
          iterationName l.name key index ∉ keys element) := by
  have hnew : pair.Free (iterationName l.name key index) := by
    intro c hc
    simp only [iterationName, List.mem_append, List.mem_cons] at hc
    rcases hc with (hc | rfl | hc) | hc
    · exact hname c hc
    · exact hindex _ List.mem_cons_self
    · exact hkeys key hkey c hc
    · exact hindex c (List.mem_cons.mpr hc)
  have hqualified : pair.Free (qualifiedName l.name other) := by
    intro c hc
    simp only [qualifiedName, List.mem_append, List.mem_cons] at hc
    rcases hc with hc | rfl | hc
    · exact hname c hc
    · exact hindex _ List.mem_cons_self
    · exact hkeys other hother c hc
  have hsame : qualifiedName l.name other = iterationName l.name key index ↔
      other = key ++ '_' :: Text.ofNat index := by
    rw [← qualifiedName_append_index]
    simp [qualifiedName]
  rw [TakesOver, Pair.wrap_isInfix_wrap_iff hp (hkeys other hother) hnew,
    Pair.wrap_isInfix_wrap_iff hp hqualified hnew, hsame, and_comm]
  refine or_congr_right ?_
  rw [and_comm]
  refine and_congr_right fun h => ?_
  rw [hsame.mpr h]

end Loop

/-- The token of a key gets the name of the iteration exactly if no key takes it over. Where an
underscore and the digits of the index cannot be taken for delimiters, that is: its new name is not a
later key, nor the qualified form of a key unless it is a key itself. -/
theorem renameTokens_wrap_key_iff (hp : Delimiters.pairFault? pair = none) (ho : Ordered element)
    (hname : pair.Free l.name) (hkeys : ∀ k ∈ keys element, pair.Free k) (hkey : key ∈ keys element)
    (index : Nat) :
    (renameTokens pair (l.renames element index) (pair.wrap key) =
        pair.wrap (iterationName l.name key index) ↔
      ∀ other ∈ keys element, ¬ l.TakesOver pair element index other key) ∧
    (pair.Free ('_' :: Text.ofNat index) →
      (renameTokens pair (l.renames element index) (pair.wrap key) =
          pair.wrap (iterationName l.name key index) ↔
        ¬ (iterationName l.name key index ∈ keys element ∧ key < iterationName l.name key index) ∧
          (key ++ '_' :: Text.ofNat index ∈ keys element →
            iterationName l.name key index ∈ keys element))) := by
  have hgeneral : renameTokens pair (l.renames element index) (pair.wrap key) =
      pair.wrap (iterationName l.name key index) ↔
        ∀ other ∈ keys element, ¬ l.TakesOver pair element index other key := by
    rw [Loop.renameTokens_wrap_key hp ho hkeys hkey,
      renameTokens_eq_self_iff (Delimiters.opening_ne_nil hp) fun r hr =>
        Loop.length_lt_of_mem_renamesAfter hr, Loop.forall_mem_renamesAfter_iff]
  refine ⟨hgeneral, fun hindex => ?_⟩
  rw [hgeneral]
  constructor
  · intro h
    refine ⟨fun ⟨hnew, hlater⟩ => ?_, fun hindexed => ?_⟩
    · exact h _ hnew
        ((Loop.takesOver_iff hp hname hindex hkeys hkey hnew).mpr (.inl ⟨rfl, hlater⟩))
    · by_contra hnew
      exact h _ hindexed
        ((Loop.takesOver_iff hp hname hindex hkeys hkey hindexed).mpr (.inr ⟨rfl, hnew⟩))
  · rintro ⟨hlater, hindexed⟩ other hother htakes
    rcases (Loop.takesOver_iff hp hname hindex hkeys hkey hother).mp htakes with
      ⟨rfl, hless⟩ | ⟨rfl, hnew⟩
    · exact hlater ⟨hother, hless⟩
    · exact hnew (hindexed hother)

/-- An element with a key and the same key followed by the number of the iteration. -/
def numberedKeys : Variables := [("id".toList, .string ['A']), ("id_0".toList, .string ['B'])]

/-- A loop over one such element that writes the shorter key. -/
def itemsLoop : Loop :=
  ⟨0, 17, "items".toList, [numberedKeys], "\x7b\x7bid\x7d\x7d".toList, 0, Loop.standardJoiner⟩

/-- The qualified form of `id_0` takes the token of `id` over: the loop writes `B`. -/
theorem renameTokens_wrap_key_numberedKeys :
    (Delimiters.pairFault? Delimiters.standard.token = none ∧ Ordered numberedKeys ∧
      Delimiters.standard.token.Free itemsLoop.name ∧
      (∀ k ∈ keys numberedKeys, Delimiters.standard.token.Free k) ∧
      "id".toList ∈ keys numberedKeys ∧
      Delimiters.standard.token.Free ('_' :: Text.ofNat 0)) ∧
    renameTokens Delimiters.standard.token (itemsLoop.renames numberedKeys 0)
        (Delimiters.standard.token.wrap "id".toList) ≠
      Delimiters.standard.token.wrap (iterationName itemsLoop.name "id".toList 0) ∧
    render "(items)[\n\x7b\x7bid\x7d\x7d\n]".toList
      [("items".toList, .list [.map numberedKeys])] {} = .ok ['B'] := by
  have hp : Delimiters.pairFault? Delimiters.standard.token = none := by rfl
  have ho : Ordered numberedKeys := by decide
  have hname : Delimiters.standard.token.Free itemsLoop.name := by decide
  have hkeys : ∀ k ∈ keys numberedKeys, Delimiters.standard.token.Free k := by decide
  have hkey : "id".toList ∈ keys numberedKeys := by decide
  have hindex : Delimiters.standard.token.Free ('_' :: Text.ofNat 0) := by decide
  refine ⟨⟨hp, ho, hname, hkeys, hkey, hindex⟩, ?_, by rfl⟩
  intro hsame
  have hkept := ((renameTokens_wrap_key_iff hp ho hname hkeys hkey 0).2 hindex).mp hsame
  exact absurd (hkept.2 (by decide)) (by decide)

end Stencil
