import Stencil.Proofs.Scope.Name

/-!
# Looking names up

Renaming the tokens of an iteration and looking the new names up in the flat variables is looking
the old names up by scope.
-/

namespace Stencil

open Dictionary

variable {vars : Variables} {loops : List Loop} {l : Loop} {element : Variables} {i : Nat}

/-! ## The flat variables -/

/-- The bindings of loops are the entries of their elements, under the names of iterations. -/
theorem mem_bindings_iff {name : Text} {value : Value} :
    (name, value) ∈ loops.flatMap Loop.bindings ↔ ∃ l ∈ loops, ∃ i element,
      l.elements[i]? = some element ∧
        ∃ k, (k, value) ∈ element ∧ name = iterationName l.name k i := by
  constructor
  · intro h
    obtain ⟨l, hl, h⟩ := List.mem_flatMap.mp h
    obtain ⟨⟨element, i⟩, helement, h⟩ := List.mem_flatMap.mp h
    obtain ⟨⟨k, v⟩, hk, heq⟩ := List.mem_map.mp h
    obtain ⟨rfl, rfl⟩ := Prod.mk.inj heq
    exact ⟨l, hl, i, element, List.mem_zipIdx_iff_getElem?.mp helement, k, hk, rfl⟩
  · rintro ⟨l, hl, i, element, helement, k, hk, rfl⟩
    exact List.mem_flatMap.mpr ⟨l, hl, List.mem_flatMap.mpr
      ⟨(element, i), List.mem_zipIdx_iff_getElem?.mpr helement,
        List.mem_map.mpr ⟨(k, value), hk, rfl⟩⟩⟩

namespace Separate

private theorem functional_bindings (h : Separate vars loops) :
    Functional (loops.flatMap Loop.bindings) := by
  -- The name gives back the index, the key and the name of the loop, and those the element.
  intro name v w hv hw
  obtain ⟨l, hl, i, element, helement, k, hk, rfl⟩ := mem_bindings_iff.mp hv
  obtain ⟨l', hl', i', element', helement', k', hk', hname⟩ := mem_bindings_iff.mp hw
  obtain ⟨hqualified, rfl⟩ := iterationName_inj hname
  obtain ⟨hloop, rfl⟩ := qualifiedName_inj (h.loop_not_continued l hl l' hl')
    (h.loop_not_continued l' hl' l hl) hqualified
  rw [h.elements_eq l' hl', ← hloop, ← h.elements_eq l hl, helement] at helement'
  obtain rfl := Option.some.inj helement'
  exact (h.elementOrdered l hl element (List.mem_of_getElem? helement)).functional k v w hk hk'

/-- The flat variables are the scope outside the loops, names of iterations included. -/
theorem find?_flatVariables (h : Separate vars loops) (name : Text) :
    find? name (flatVariables vars loops) = indexedScope vars loops name := by
  have hbindings : find? name (Dictionary.ofList (loops.flatMap Loop.bindings)) =
      find? name (loops.flatMap Loop.bindings) := by
    rw [ofList, find?_insertAll h.functional_bindings, find?_nil, Option.or_none]
  rw [flatVariables, find?_insertAll (h.ordered.functional.filter _), hbindings]
  rfl

/-- The name of an iteration's key stands for the entry of the key. -/
theorem find?_iterationName (h : Separate vars loops) (hl : l ∈ loops)
    (he : l.elements[i]? = some element) {k : Text} {value : Value}
    (hk : find? k element = some value) :
    find? (iterationName l.name k i) (flatVariables vars loops) = some value := by
  have hmem := mem_of_find?_eq_some hk
  have hbinds : l.Binds k i := ⟨element, he, List.mem_map_of_mem hmem⟩
  have htop : topScope vars (iterationName l.name k i) = none := by
    rw [topScope, find?_eq_none_iff]
    intro hname
    obtain ⟨entry, hentry, heq⟩ := List.mem_map.mp hname
    obtain ⟨hvars, hmap⟩ := List.mem_filter.mp hentry
    exact h.outside_ne l hl i k hbinds entry hvars (by simpa using hmap) heq
  rw [h.find?_flatVariables, indexedScope, htop, Option.none_or,
    find?_eq_some_iff h.functional_bindings]
  exact mem_bindings_iff.mpr ⟨l, hl, i, element, he, k, hmem, rfl⟩

end Separate

/-! ## The renames of an iteration -/

private theorem renamedTo_cons (r : Text × Text) (renames : List (Text × Text)) (name : Text) :
    renamedTo (r :: renames) name = renamedTo renames (if name = r.1 then r.2 else name) :=
  rfl

/-- A name that no rename is about stays. -/
theorem renamedTo_of_forall_ne {renames : List (Text × Text)} {name : Text}
    (h : ∀ r ∈ renames, r.1 ≠ name) : renamedTo renames name = name := by
  induction renames with
  | nil => rfl
  | cons r renames ih =>
    have hr : ¬ name = r.1 := fun he => h r List.mem_cons_self he.symm
    rw [renamedTo_cons, if_neg hr, ih fun r' hr' => h r' (List.mem_cons_of_mem r hr')]

/-- A name is renamed once if all its renames agree and the new name is not renamed. -/
theorem renamedTo_of_forall_eq {renames : List (Text × Text)} {name new : Text}
    (hmem : name ∈ renames.map Prod.fst) (hnew : ∀ r ∈ renames, r.1 = name → r.2 = new)
    (hstay : ∀ r ∈ renames, r.1 ≠ new) : renamedTo renames name = new := by
  induction renames with
  | nil => exact absurd hmem List.not_mem_nil
  | cons r renames ih =>
    have hstay' : ∀ r' ∈ renames, r'.1 ≠ new := fun r' hr' => hstay r' (List.mem_cons_of_mem r hr')
    rw [renamedTo_cons]
    by_cases hr : name = r.1
    · rw [if_pos hr, hnew r List.mem_cons_self hr.symm, renamedTo_of_forall_ne hstay']
    · rw [if_neg hr]
      refine ih ?_ (fun r' hr' => hnew r' (List.mem_cons_of_mem r hr')) hstay'
      exact (List.mem_cons.mp hmem).resolve_left hr

/-- What an iteration renames: its keys, by themselves and with the name of the loop in front. -/
theorem Loop.mem_renames_iff {r : Text × Text} : r ∈ l.renames element i ↔ ∃ k ∈ keys element,
    r.2 = iterationName l.name k i ∧
      (r.1 = k ∨ r.1 = Loop.qualifiedName l.name k ∧ r.1 ∉ keys element) := by
  have hcontains (name : Text) :
      (!Dictionary.contains name element) = true ↔ name ∉ keys element := by
    rw [Dictionary.contains, Bool.not_eq_true', Option.isSome_eq_false_iff,
      Option.isNone_iff_eq_none, find?_eq_none_iff]
  simp only [Loop.renames, List.mem_append, List.mem_map, List.mem_filter, hcontains]
  constructor
  · rintro (⟨k, hk, rfl⟩ | ⟨k, ⟨hk, hnot⟩, rfl⟩)
    · exact ⟨k, hk, rfl, .inl rfl⟩
    · exact ⟨k, hk, rfl, .inr ⟨rfl, hnot⟩⟩
  · obtain ⟨old, new⟩ := r
    rintro ⟨k, hk, hnew, hold⟩
    simp only at hnew hold
    rcases hold with rfl | ⟨rfl, hnot⟩
    · exact .inl ⟨_, hk, by rw [hnew]⟩
    · exact .inr ⟨k, ⟨hk, hnot⟩, by rw [hnew]⟩

private theorem qualifiedName_eq_iff {loop key key' : Text} :
    Loop.qualifiedName loop key = Loop.qualifiedName loop key' ↔ key = key' := by
  simp [Loop.qualifiedName]

private theorem stripPrefix?_eq_some_iff_qualifiedName {loop name key : Text} :
    Text.stripPrefix? (loop ++ ['_']) name = some key ↔ name = Loop.qualifiedName loop key := by
  rw [Text.stripPrefix?_eq_some_iff, Loop.qualifiedName, List.append_assoc, List.singleton_append]

private theorem renamedTo_of_notMem {name : Text} (hnot : name ∉ keys element)
    (hqualified : ∀ k ∈ keys element, name ≠ Loop.qualifiedName l.name k) :
    renamedTo (l.renames element i) name = name := by
  apply renamedTo_of_forall_ne
  intro r hr
  obtain ⟨k, hk, _, hold | ⟨hold, _⟩⟩ := Loop.mem_renames_iff.mp hr
  · rw [hold]
    exact fun he => hnot (he ▸ hk)
  · rw [hold]
    exact fun he => hqualified k hk he.symm

namespace Separate

private theorem fst_ne_iterationName (h : Separate vars loops) (hl : l ∈ loops)
    (he : l.elements[i]? = some element) {k : Text} (hk : k ∈ keys element)
    {r : Text × Text} (hr : r ∈ l.renames element i) : r.1 ≠ iterationName l.name k i := by
  obtain ⟨k', hk', _, hold⟩ := Loop.mem_renames_iff.mp hr
  obtain ⟨hkey, hindexed⟩ := h.key_ne l hl i k k' ⟨element, he, hk⟩ ⟨element, he, hk'⟩
  rcases hold with hold | ⟨hold, _⟩
  · rw [hold]
    exact hindexed
  · rw [hold]
    intro heq
    have hcancel : Loop.qualifiedName l.name k' =
        Loop.qualifiedName l.name (k ++ '_' :: Text.ofNat i) := by
      rw [heq]
      simp [iterationName, Loop.qualifiedName]
    exact hkey (qualifiedName_eq_iff.mp hcancel)

private theorem renamedTo_key (h : Separate vars loops) (hl : l ∈ loops)
    (he : l.elements[i]? = some element) {k : Text} (hk : k ∈ keys element) :
    renamedTo (l.renames element i) k = iterationName l.name k i := by
  refine renamedTo_of_forall_eq ?_ ?_ fun r hr => h.fst_ne_iterationName hl he hk hr
  · have hmem : (k, iterationName l.name k i) ∈ l.renames element i :=
      Loop.mem_renames_iff.mpr ⟨k, hk, rfl, .inl rfl⟩
    exact List.mem_map_of_mem hmem
  · intro r hr hold
    obtain ⟨k', _, hnew, hk' | ⟨_, hnot⟩⟩ := Loop.mem_renames_iff.mp hr
    · rw [hnew, ← hk', hold]
    · exact absurd (hold ▸ hk) hnot

private theorem renamedTo_qualifiedName (h : Separate vars loops) (hl : l ∈ loops)
    (he : l.elements[i]? = some element) {k : Text} (hk : k ∈ keys element)
    (hnot : Loop.qualifiedName l.name k ∉ keys element) :
    renamedTo (l.renames element i) (Loop.qualifiedName l.name k) = iterationName l.name k i := by
  refine renamedTo_of_forall_eq ?_ ?_ fun r hr => h.fst_ne_iterationName hl he hk hr
  · have hmem : (Loop.qualifiedName l.name k, iterationName l.name k i) ∈ l.renames element i :=
      Loop.mem_renames_iff.mpr ⟨k, hk, rfl, .inr ⟨rfl, hnot⟩⟩
    exact List.mem_map_of_mem hmem
  · intro r hr hold
    obtain ⟨k', hk', hnew, hkey | ⟨hqualified, _⟩⟩ := Loop.mem_renames_iff.mp hr
    · exact absurd (hold ▸ hkey ▸ hk') hnot
    · rw [hnew, qualifiedName_eq_iff.mp (hqualified.symm.trans hold)]

/-- Looking up the name that an iteration gives to a name is looking the name up by scope. -/
theorem find?_renamedTo (h : Separate vars loops) (hl : l ∈ loops)
    (he : l.elements[i]? = some element) (name : Text) :
    find? (renamedTo (l.renames element i) name) (flatVariables vars loops) =
      l.scope element (indexedScope vars loops) name ∧
    (l.scope element (indexedScope vars loops) name = none →
      renamedTo (l.renames element i) name = name) := by
  unfold Loop.scope
  cases hname : find? name element with
  | some value =>
    have hk : name ∈ keys element := List.mem_map_of_mem (mem_of_find?_eq_some hname)
    rw [h.renamedTo_key hl he hk, h.find?_iterationName hl he hname]
    exact ⟨rfl, nofun⟩
  | none =>
    have hnot := find?_eq_none_iff.mp hname
    rw [Option.none_or]
    cases hstrip : Text.stripPrefix? (l.name ++ ['_']) name with
    | none =>
      have hstay : renamedTo (l.renames element i) name = name := by
        apply renamedTo_of_notMem hnot
        intro k _ he
        rw [stripPrefix?_eq_some_iff_qualifiedName.mpr he] at hstrip
        exact nomatch hstrip
      rw [hstay, Option.bind_none, Option.none_or, h.find?_flatVariables]
      exact ⟨rfl, fun _ => rfl⟩
    | some k =>
      have hqualified := stripPrefix?_eq_some_iff_qualifiedName.mp hstrip
      rw [Option.bind_some]
      cases hk : find? k element with
      | some value =>
        have hmem : k ∈ keys element := List.mem_map_of_mem (mem_of_find?_eq_some hk)
        rw [hqualified, h.renamedTo_qualifiedName hl he hmem (hqualified ▸ hnot),
          h.find?_iterationName hl he hk]
        exact ⟨rfl, nofun⟩
      | none =>
        have hstay : renamedTo (l.renames element i) name = name := by
          apply renamedTo_of_notMem hnot
          intro k' hk' he
          rw [qualifiedName_eq_iff.mp (he.symm.trans hqualified)] at hk'
          exact find?_eq_none_iff.mp hk hk'
        rw [hstay, Option.none_or, h.find?_flatVariables]
        exact ⟨rfl, fun _ => rfl⟩

end Separate

end Stencil
