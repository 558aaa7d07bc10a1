import Mathlib.Data.List.Nodup
import Stencil.Dictionary

/-!
# Looking up and binding

In a dictionary that binds no name twice, looking a name up is membership, and bindings inserted one
after another are found before the ones that were there.
-/

namespace Stencil

namespace Dictionary

variable {α : Type}

/-- No name is bound to two values. -/
def Functional (d : List (Text × α)) : Prop :=
  ∀ name v w, (name, v) ∈ d → (name, w) ∈ d → v = w

instance (d : List (Text × α)) : Decidable (Ordered d) :=
  inferInstanceAs (Decidable ((keys d).Pairwise (· < ·)))

variable {d : List (Text × α)} {name : Text} {v : α}

/-- What is found under a name is an entry of that name. -/
theorem mem_of_find?_eq_some (h : find? name d = some v) : (name, v) ∈ d := by
  induction d with
  | nil => exact nomatch h
  | cons b d ih =>
    obtain ⟨key, value⟩ := b
    by_cases hk : key = name
    · simp only [find?, hk, ite_true, Option.some.injEq] at h
      rw [hk, h]
      exact List.mem_cons_self
    · simp only [find?, hk, ite_false] at h
      exact List.mem_cons_of_mem _ (ih h)

/-- Nothing is found just under the names that are no keys. -/
theorem find?_eq_none_iff : find? name d = none ↔ name ∉ keys d := by
  induction d with
  | nil => simp [keys]
  | cons b d ih =>
    obtain ⟨key, value⟩ := b
    by_cases hk : key = name
    · simp [find?, keys, hk]
    · have hne : ¬ name = key := fun h => hk h.symm
      simpa [find?, keys, hk, hne] using ih

/-- Where names are bound once, what is found under a name is its entry. -/
theorem find?_eq_some_iff (hd : Functional d) : find? name d = some v ↔ (name, v) ∈ d := by
  refine ⟨mem_of_find?_eq_some, fun h => ?_⟩
  cases hfind : find? name d with
  | none => exact absurd (List.mem_map_of_mem h) (find?_eq_none_iff.mp hfind)
  | some w => rw [hd name v w h (mem_of_find?_eq_some hfind)]

/-- Entries with different keys bind every name once. -/
theorem functional_of_nodup (h : (keys d).Nodup) : Functional d :=
  fun _ _ _ hv hw => congrArg Prod.snd (List.inj_on_of_nodup_map h hv hw rfl)

/-- In what order names are bound makes no difference where none is bound twice. -/
theorem find?_eq_of_perm {d' : List (Text × α)} (hperm : d.Perm d') (hd : Functional d') :
    find? name d = find? name d' := by
  have hd' : Functional d := fun name v w hv hw =>
    hd name v w (hperm.mem_iff.mp hv) (hperm.mem_iff.mp hw)
  ext v
  rw [find?_eq_some_iff hd', find?_eq_some_iff hd, hperm.mem_iff]

/-- The keys of a dictionary in order are different. -/
theorem Ordered.nodup (h : Ordered d) : (keys d).Nodup := by
  refine List.Pairwise.imp ?_ h
  intro name other hless heq
  exact List.lt_irrefl other (heq ▸ hless)

/-- A dictionary in order binds every name once. -/
theorem Ordered.functional (h : Ordered d) : Functional d := functional_of_nodup h.nodup

/-- With entries left out every name is still bound at most once. -/
theorem Functional.filter (h : Functional d) (p : Text × α → Bool) : Functional (d.filter p) :=
  fun name v w hv hw => h name v w (List.mem_filter.mp hv).1 (List.mem_filter.mp hw).1

/-! ## Inserting -/

/-- An entry after an insertion is the new one or was there. -/
theorem mem_insert {b : Text × α} (h : b ∈ Dictionary.insert name v d) :
    b = (name, v) ∨ b ∈ d := by
  induction d with
  | nil => exact .inl (List.mem_singleton.mp h)
  | cons entry d ih =>
    obtain ⟨key, old⟩ := entry
    simp only [Dictionary.insert] at h
    split at h
    · exact (List.mem_cons.mp h).imp_right (List.mem_cons_of_mem _)
    · split at h
      · rcases List.mem_cons.mp h with rfl | h
        · exact .inr List.mem_cons_self
        · exact (ih h).imp_right (List.mem_cons_of_mem _)
      · exact List.mem_cons.mp h

/-- Inserting keeps the names in order. -/
theorem Ordered.insert (h : Ordered d) (name : Text) (v : α) :
    Ordered (Dictionary.insert name v d) := by
  induction d with
  | nil => exact List.pairwise_singleton _ _
  | cons entry d ih =>
    obtain ⟨key, old⟩ := entry
    obtain ⟨hfirst, hrest⟩ := List.pairwise_cons.mp h
    simp only [Dictionary.insert]
    split
    · next hkey => exact List.pairwise_cons.mpr ⟨hkey ▸ hfirst, hrest⟩
    · next hne =>
      split
      · next hless =>
        refine List.pairwise_cons.mpr ⟨?_, ih hrest⟩
        intro other hother
        obtain ⟨b, hb, rfl⟩ := List.mem_map.mp hother
        rcases mem_insert hb with rfl | hb
        · exact hless
        · exact hfirst b.1 (List.mem_map_of_mem hb)
      · next hnot =>
        have hless : name < key :=
          (List.le_iff_lt_or_eq.mp (List.not_lt.mp hnot)).resolve_right (Ne.symm hne)
        refine List.pairwise_cons.mpr ⟨?_, h⟩
        intro other hother
        rcases List.mem_cons.mp hother with rfl | hother
        · exact hless
        · exact List.lt_trans hless (hfirst other hother)

/-- Insertions keep a dictionary in order. -/
theorem Ordered.insertAll {bindings : List (Text × α)} (h : Ordered d) :
    Ordered (Dictionary.insertAll bindings d) := by
  induction bindings generalizing d with
  | nil => exact h
  | cons b bindings ih => exact ih (h.insert b.1 b.2)

/-- What is made of a list of bindings is in order. -/
theorem ordered_ofList (bindings : List (Text × α)) : Ordered (ofList bindings) :=
  Ordered.insertAll List.Pairwise.nil

/-- An entry after insertions is a new one or was there. -/
theorem mem_insertAll {bindings : List (Text × α)} {b : Text × α}
    (h : b ∈ insertAll bindings d) : b ∈ bindings ∨ b ∈ d := by
  induction bindings generalizing d with
  | nil => exact .inr h
  | cons entry bindings ih =>
    rcases ih h with h | h
    · exact .inl (List.mem_cons_of_mem _ h)
    · refine (mem_insert h).imp_left fun heq => ?_
      rw [heq]
      exact List.mem_cons_self

private theorem insert_perm (h : name ∉ keys d) :
    (Dictionary.insert name v d).Perm ((name, v) :: d) := by
  induction d with
  | nil => exact .refl _
  | cons entry d ih =>
    obtain ⟨key, old⟩ := entry
    obtain ⟨hne, hrest⟩ := not_or.mp (mt List.mem_cons.mpr h)
    rw [Dictionary.insert, if_neg (Ne.symm hne)]
    split
    · exact ((ih hrest).cons (key, old)).trans (.swap (name, v) (key, old) d)
    · exact .refl _

private theorem insertAll_perm {bindings : List (Text × α)} (h : (keys (bindings ++ d)).Nodup) :
    (insertAll bindings d).Perm (bindings ++ d) := by
  induction bindings generalizing d with
  | nil => exact .refl d
  | cons b bindings ih =>
    obtain ⟨hb, hrest⟩ := List.nodup_cons.mp h
    have hname : b.1 ∉ keys d := fun hmem =>
      hb (List.map_append ▸ List.mem_append_right (keys bindings) hmem)
    have hinsert : (bindings ++ insert b.1 b.2 d).Perm (b :: (bindings ++ d)) :=
      ((insert_perm hname).append_left bindings).trans List.perm_middle
    exact (ih ((hinsert.map Prod.fst).nodup_iff.mpr h)).trans hinsert

/-- With different keys the dictionary of a list has the entries of the list. -/
theorem ofList_perm (h : (keys d).Nodup) : (ofList d).Perm d := by
  have hperm : (insertAll d []).Perm (d ++ []) := insertAll_perm (by rwa [List.append_nil])
  rwa [List.append_nil] at hperm

private theorem insert_of_forall_lt (h : ∀ key ∈ keys d, key < name) :
    Dictionary.insert name v d = d ++ [(name, v)] := by
  induction d with
  | nil => rfl
  | cons entry d ih =>
    obtain ⟨hkey, hkeys⟩ := List.forall_mem_cons.mp h
    have hne : ¬ entry.1 = name := fun he => List.lt_irrefl name (he ▸ hkey)
    rw [Dictionary.insert, if_neg hne, if_pos hkey, ih hkeys, List.cons_append]

private theorem insertAll_of_ordered {bindings : List (Text × α)} (h : Ordered (d ++ bindings)) :
    insertAll bindings d = d ++ bindings := by
  induction bindings generalizing d with
  | nil => exact (List.append_nil d).symm
  | cons b bindings ih =>
    have hbehind : ∀ key ∈ keys d, key < b.1 := by
      have hpairs := h
      rw [Ordered, keys, List.map_append, List.pairwise_append] at hpairs
      exact fun key hkey => hpairs.2.2 key hkey b.1 List.mem_cons_self
    have hfold : insertAll (b :: bindings) d = insertAll bindings (insert b.1 b.2 d) := rfl
    rw [hfold, insert_of_forall_lt hbehind, ih (by rwa [List.append_assoc]), List.append_assoc]
    rfl

/-- Bindings in the order of their names are a dictionary already. -/
theorem ofList_of_ordered (h : Ordered d) : ofList d = d := insertAll_of_ordered h

private theorem find?_append (d d' : List (Text × α)) :
    find? name (d ++ d') = (find? name d).or (find? name d') := by
  induction d with
  | nil => rfl
  | cons b d ih =>
    obtain ⟨key, value⟩ := b
    by_cases hk : key = name
    · simp [find?, hk]
    · simpa [find?, hk] using ih

/-- Among bindings inserted one after another the last one of a name counts. -/
theorem find?_insertAll_reverse (bindings d : List (Text × α)) :
    find? name (insertAll bindings d) = (find? name bindings.reverse).or (find? name d) := by
  induction bindings generalizing d with
  | nil => rfl
  | cons b bindings ih =>
    have hinsert : find? name (insert b.1 b.2 d) = (find? name [b]).or (find? name d) := by
      by_cases hname : name = b.1
      · rw [hname, find?_insert_self]
        simp [find?]
      · rw [find?_insert_of_ne b.2 d hname]
        simp [find?, Ne.symm hname]
    have hfold : insertAll (b :: bindings) d = insertAll bindings (insert b.1 b.2 d) := rfl
    rw [hfold, ih, hinsert, List.reverse_cons, find?_append, Option.or_assoc]

/-- Where no name is bound twice, inserted bindings go before all others. -/
theorem find?_insertAll {bindings : List (Text × α)} (h : Functional bindings)
    (d : List (Text × α)) :
    find? name (insertAll bindings d) = (find? name bindings).or (find? name d) := by
  rw [find?_insertAll_reverse, find?_eq_of_perm bindings.reverse_perm h]

end Dictionary

end Stencil
