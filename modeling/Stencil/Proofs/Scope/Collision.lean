import Mathlib.Data.List.Sigma
import Stencil.Proofs.Loop.Element
import Stencil.Proofs.Scope.Lookup
import Stencil.Render

/-!
# Collisions

All iterations of all loops share one dictionary, and the name of an iteration is its loop, its key
and its number with underscores between them. The number is always told, but not where the loop ends
and the key begins: a loop `a` with the key `b_c` and a loop `a_b` with the key `c` give the same
name, and the entry of the later loop stays. `find?_iterationName_iff` says that this is the only
way in which an entry gets lost. Within one loop the key is told as well, so a loop by itself loses
no entry, whatever its keys look like.
-/

namespace Stencil

open Dictionary

/-- The entry under a key in an iteration of a loop. -/
def Loop.bound? (l : Loop) (key : Text) (index : Nat) : Option Value :=
  (l.elements[index]?).bind (find? key)

variable {vars : Variables} {loops : List Loop} {name : Text} {value : Value}

private theorem mem_bindings_iff_bound?
    (hloops : ∀ l ∈ loops, ∀ element ∈ l.elements, Ordered element) :
    (name, value) ∈ loops.flatMap Loop.bindings ↔
      ∃ l ∈ loops, ∃ k i, l.bound? k i = some value ∧ name = iterationName l.name k i := by
  rw [mem_bindings_iff]
  constructor
  · rintro ⟨l, hl, i, element, helement, k, hk, rfl⟩
    have hordered := hloops l hl element (List.mem_of_getElem? helement)
    refine ⟨l, hl, k, i, ?_, rfl⟩
    rw [Loop.bound?, helement, Option.bind_some, find?_eq_some_iff hordered.functional]
    exact hk
  · rintro ⟨l, hl, k, i, hentry, rfl⟩
    obtain ⟨element, helement, hk⟩ := Option.bind_eq_some_iff.mp hentry
    exact ⟨l, hl, i, element, helement, k, mem_of_find?_eq_some hk, rfl⟩

private theorem exists_find?_flatVariables (hv : Ordered vars)
    (hloops : ∀ l ∈ loops, ∀ element ∈ l.elements, Ordered element) {l : Loop} (hl : l ∈ loops)
    {k : Text} {i : Nat} (hentry : l.bound? k i = some value)
    (htop : topScope vars (iterationName l.name k i) = none) :
    ∃ l' ∈ loops, ∃ k' value', l'.bound? k' i = some value' ∧
      Loop.qualifiedName l.name k = Loop.qualifiedName l'.name k' ∧
      find? (iterationName l.name k i) (flatVariables vars loops) = some value' := by
  have hfind : find? (iterationName l.name k i) (flatVariables vars loops) =
      find? (iterationName l.name k i) (loops.flatMap Loop.bindings).reverse := by
    rw [flatVariables, find?_insertAll (hv.functional.filter _), ofList, find?_insertAll_reverse,
      find?_nil, Option.or_none]
    exact congrArg (Option.or · _) htop
  have hmem : (iterationName l.name k i, value) ∈ loops.flatMap Loop.bindings :=
    (mem_bindings_iff_bound? hloops).mpr ⟨l, hl, k, i, hentry, rfl⟩
  cases hfound : find? (iterationName l.name k i) (loops.flatMap Loop.bindings).reverse with
  | none =>
    exact absurd (List.mem_map_of_mem (List.mem_reverse.mpr hmem)) (find?_eq_none_iff.mp hfound)
  | some value' =>
    obtain ⟨l', hl', k', i', hentry', hname⟩ := (mem_bindings_iff_bound? hloops).mp
      (List.mem_reverse.mp (mem_of_find?_eq_some hfound))
    obtain ⟨hqualified, rfl⟩ := iterationName_inj hname
    exact ⟨l', hl', k', value', hentry', hqualified, hfind.trans hfound⟩

/-- Every entry of an iteration is found under its name, where no variable but a map bears it, just
if two loops of the template give a name to one value only. -/
theorem find?_iterationName_iff (hv : vars.Proper) (template : Text) (tag body : Pair) :
    (∀ l ∈ Loop.all template vars tag body, ∀ k i value, l.bound? k i = some value →
        topScope vars (iterationName l.name k i) = none →
        find? (iterationName l.name k i)
          (flatVariables vars (Loop.all template vars tag body)) = some value) ↔
      ∀ l ∈ Loop.all template vars tag body, ∀ l' ∈ Loop.all template vars tag body,
        ∀ k k' i value value', l.bound? k i = some value → l'.bound? k' i = some value' →
        Loop.qualifiedName l.name k = Loop.qualifiedName l'.name k' →
        topScope vars (iterationName l.name k i) = none → value = value' := by
  have hloops : ∀ l ∈ Loop.all template vars tag body, ∀ element ∈ l.elements, Ordered element := by
    intro l hl element helement
    rw [Loop.elements_of_mem_all hl] at helement
    exact Loop.ordered_of_mem_elementsOf hv helement
  constructor
  · intro h l hl l' hl' k k' i value value' hentry hentry' hqualified htop
    have hname : iterationName l.name k i = iterationName l'.name k' i := by
      have happend := congrArg (· ++ '_' :: Text.ofNat i) hqualified
      simpa only [Loop.qualifiedName, iterationName, List.append_assoc, List.cons_append]
        using happend
    have hfind := h l hl k i value hentry htop
    have hfind' := h l' hl' k' i value' hentry' (hname ▸ htop)
    exact Option.some.inj (hfind.symm.trans (hname ▸ hfind'))
  · intro h l hl k i value hentry htop
    obtain ⟨l', hl', k', value', hentry', hqualified, hfind⟩ :=
      exists_find?_flatVariables hv.ordered hloops hl hentry htop
    rw [hfind, h l hl l' hl' k k' i value value' hentry hentry' hqualified htop]

/-- Two lists whose names and keys are joined to the same name. -/
def twoLists : Variables :=
  [("a".toList, .list [.map [("b_c".toList, .string ['X'])]]),
    ("a_b".toList, .list [.map [("c".toList, .string ['Y'])]])]

/-- A loop over each of the two lists. -/
def twoLoops : Text := "(a)[\n\x7b\x7bb_c\x7d\x7d\n]\n(a_b)[\n\x7b\x7bc\x7d\x7d\n]".toList

private theorem proper_twoLists : twoLists.Proper where
  ordered := by
    show List.Pairwise _ (keys twoLists)
    decide
  element_ordered := by
    intro name items entries hitems hentries
    simp only [twoLists, List.mem_cons, Prod.mk.injEq, Value.list.injEq, List.not_mem_nil,
      or_false] at hitems
    rcases hitems with ⟨_, rfl⟩ | ⟨_, rfl⟩
    all_goals
      obtain rfl := Value.map.inj (List.mem_singleton.mp hentries)
      exact List.pairwise_singleton _ _

/-- The entry of the loop over `a` is lost to that of the loop over `a_b`: both loops write `Y`. -/
theorem find?_iterationName_twoLoops :
    twoLists.Proper ∧ Delimiters.standard.Usable ∧
      render twoLoops twoLists {} = .ok "Y\nY".toList ∧
      ¬ ∀ l ∈ Loop.all twoLoops twoLists Delimiters.standard.tag Delimiters.standard.body,
        ∀ k i value, l.bound? k i = some value →
          topScope twoLists (iterationName l.name k i) = none →
          find? (iterationName l.name k i) (flatVariables twoLists
            (Loop.all twoLoops twoLists Delimiters.standard.tag Delimiters.standard.body)) =
              some value := by
  have hloops : Loop.all twoLoops twoLists Delimiters.standard.tag Delimiters.standard.body =
      [⟨0, 14, "a".toList, [[("b_c".toList, .string ['X'])]], "\x7b\x7bb_c\x7d\x7d".toList, 0,
          ['\n']⟩,
        ⟨15, 29, "a_b".toList, [[("c".toList, .string ['Y'])]], "\x7b\x7bc\x7d\x7d".toList, 0,
          ['\n']⟩] := by
    rfl
  refine ⟨proper_twoLists, by rfl, by rfl, ?_⟩
  rw [find?_iterationName_iff proper_twoLists, hloops]
  intro h
  have hsame := h _ List.mem_cons_self _ (List.mem_cons_of_mem _ List.mem_cons_self) "b_c".toList
    "c".toList 0 (.string ['X']) (.string ['Y']) (by rfl) (by rfl) (by rfl) (by rfl)
  exact absurd (Value.string.inj hsame) (by decide)

/-! ## One loop -/

namespace Loop

/-- A loop binds as many names as its elements have entries. -/
theorem length_bindings (l : Loop) : l.bindings.length = l.elements.flatten.length := by
  have hlengths : l.elements.zipIdx.map (fun entry => entry.1.length) =
      l.elements.map List.length := by
    conv_rhs => rw [← List.zipIdx_map_fst 0 l.elements, List.map_map]
    rfl
  simp only [bindings, iterationBindings, List.length_flatMap, List.length_map, List.length_flatten,
    hlengths]

variable {l : Loop}

/-- The iterations of a loop give no name twice. -/
theorem nodup_keys_bindings (h : ∀ element ∈ l.elements, Ordered element) :
    (keys l.bindings).Nodup := by
  have hkeys : keys l.bindings = l.elements.zipIdx.flatMap fun entry =>
      (keys entry.1).map fun key => iterationName l.name key entry.2 := by
    simp only [bindings, iterationBindings, keys, List.map_flatMap, List.map_map]
    rfl
  rw [hkeys, List.nodup_flatMap]
  constructor
  · intro entry hentry
    have hnodup := (h entry.1 (List.fst_mem_of_mem_zipIdx hentry)).nodup
    exact hnodup.map fun key key' hname => (iterationName_left_inj hname).1
  · refine (List.pairwise_map.mp (List.nodup_zipIdx_map_snd l.elements)).imp fun hne => ?_
    intro name hname hname'
    obtain ⟨key, _, rfl⟩ := List.mem_map.mp hname
    obtain ⟨key', _, heq⟩ := List.mem_map.mp hname'
    exact hne (iterationName_left_inj heq.symm).2

/-- One loop over dictionaries gives each of its entries one flat variable. -/
theorem flatVariables_perm (h : ∀ element ∈ l.elements, Ordered element) :
    (flatVariables [] [l]).Perm l.bindings := by
  have hflat : flatVariables [] [l] = ofList l.bindings := by
    rw [flatVariables, List.flatMap_singleton]
    rfl
  exact hflat ▸ ofList_perm (nodup_keys_bindings h)

/-- Under the name of a key of an iteration stands the entry of the key, or nothing without one. -/
theorem find?_iterationName_singleton (h : ∀ element ∈ l.elements, Ordered element) (key : Text)
    (index : Nat) :
    find? (iterationName l.name key index) (flatVariables [] [l]) = l.bound? key index := by
  have hfunctional := functional_of_nodup (nodup_keys_bindings h)
  ext value
  rw [find?_eq_of_perm (flatVariables_perm h) hfunctional, find?_eq_some_iff hfunctional,
    ← List.flatMap_singleton bindings l, mem_bindings_iff_bound? (by simpa using h)]
  constructor
  · rintro ⟨l', hl', key', index', hentry, hname⟩
    obtain rfl := List.mem_singleton.mp hl'
    obtain ⟨rfl, rfl⟩ := iterationName_left_inj hname
    exact hentry
  · exact fun hentry => ⟨l, List.mem_singleton_self l, key, index, hentry, rfl⟩

end Loop

/-- Names of iterations are the same just for the same number and the same qualified name. So a loop
by itself loses no entry: the flat variables are a dictionary with as many entries as its elements
have together, and under the name of a key of an iteration stands what the element has there. -/
theorem flatVariables_singleton_lossless :
    (∀ loop key index loop' key' index',
      iterationName loop key index = iterationName loop' key' index' ↔
        index = index' ∧ Loop.qualifiedName loop key = Loop.qualifiedName loop' key') ∧
    ∀ l : Loop, (∀ element ∈ l.elements, Ordered element) →
      Ordered (flatVariables [] [l]) ∧
      (flatVariables [] [l]).length = l.elements.flatten.length ∧
      ∀ key index, find? (iterationName l.name key index) (flatVariables [] [l]) =
        l.bound? key index := by
  refine ⟨fun _ _ _ _ _ _ => iterationName_eq_iff, fun l h => ⟨?_, ?_, ?_⟩⟩
  · exact Ordered.insertAll (ordered_ofList _)
  · rw [(Loop.flatVariables_perm h).length_eq, Loop.length_bindings]
  · exact Loop.find?_iterationName_singleton h

/-- Two elements whose keys look like each other followed by the number of an iteration. -/
def numberedLoop : Loop :=
  ⟨0, 0, ['v'], [[("x".toList, .string ['A']), ("x_0".toList, .string ['B']),
      ("x_0_1".toList, .string ['C'])],
    [("x".toList, .string ['D']), ("x_0".toList, .string ['E'])]], [], 0, ['\n']⟩

/-- Keys that look like those of iterations lose no entry either. -/
theorem flatVariables_singleton_lossless_numberedLoop :
    (∀ element ∈ numberedLoop.elements, Ordered element) ∧
      (flatVariables [] [numberedLoop]).length = 5 ∧
      find? "v_x_0_1_0".toList (flatVariables [] [numberedLoop]) = some (.string ['C']) ∧
      find? "v_x_0_1".toList (flatVariables [] [numberedLoop]) = some (.string ['E']) := by
  have hordered : ∀ element ∈ numberedLoop.elements, Ordered element := by decide
  obtain ⟨_, hlength, hfind⟩ := flatVariables_singleton_lossless.2 numberedLoop hordered
  exact ⟨hordered, hlength, hfind "x_0_1".toList 0, hfind "x_0".toList 1⟩

end Stencil
