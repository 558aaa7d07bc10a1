import Stencil.Loop
import Stencil.Proofs.Dictionary

/-!
# Elements of loops

A loop runs over maps of the list that its name stands for among the variables, and over their
scalar entries only. So what is known of the variables and of the maps in their lists is known of
every element.
-/

namespace Stencil

/-- Variables are proper when they bind no name twice and the maps in their lists do not either. -/
structure Variables.Proper (vars : Variables) : Prop where
  /-- The variables are a dictionary. -/
  ordered : Dictionary.Ordered vars
  /-- So is every map in a list among them. -/
  element_ordered : ∀ name items entries, (name, .list items) ∈ vars → .map entries ∈ items →
    Dictionary.Ordered entries

/-- A dictionary stays in order when entries are left out. -/
theorem Dictionary.Ordered.filter {α : Type} {d : List (Text × α)} (h : Ordered d)
    (p : Text × α → Bool) : Ordered (d.filter p) :=
  List.Pairwise.sublist (List.filter_sublist.map Prod.fst) h

namespace Loop

variable {vars : Variables} {name : Text} {element : Variables} {l : Loop}

private theorem eq_map_of_mapM {items : List Value} {maps : List Variables}
    (h : items.mapM Value.asMap? = some maps) : items = maps.map Value.map := by
  induction items generalizing maps with
  | nil =>
    obtain rfl : [] = maps := Option.some.inj h
    rfl
  | cons item items ih =>
    rw [List.mapM_cons] at h
    obtain ⟨entries, hentries, h⟩ := Option.bind_eq_some_iff.mp h
    obtain ⟨more, hmore, h⟩ := Option.bind_eq_some_iff.mp h
    obtain rfl : entries :: more = maps := Option.some.inj h
    have hitem : item = .map entries := by
      cases item with
      | map entries' => exact congrArg Value.map (Option.some.inj hentries)
      | _ => exact nomatch hentries
    rw [List.map_cons, ← ih hmore, hitem]

/-- A loop runs over nothing, or over the scalar parts of a list of maps. -/
theorem elementsOf_eq (vars : Variables) (name : Text) :
    elementsOf vars name = [] ∨ ∃ maps : List Variables,
      Dictionary.find? name vars = some (.list (maps.map Value.map)) ∧
        elementsOf vars name = maps.map scalars := by
  unfold elementsOf
  cases hfind : Dictionary.find? name vars with
  | none => exact .inl rfl
  | some value =>
    cases value with
    | list items =>
      cases hmaps : items.mapM Value.asMap? with
      | none => exact .inl (by simp [Value.asList?, hmaps])
      | some maps =>
        exact .inr ⟨maps, by rw [eq_map_of_mapM hmaps], by simp [Value.asList?, hmaps]⟩
    | _ => exact .inl rfl

/-- Where the name does not stand for a list of maps only, there is nothing to run over. -/
theorem elementsOf_eq_nil (h : ¬ ∃ items, Dictionary.find? name vars = some (.list items) ∧
    ∀ item ∈ items, item.isMap = true) : elementsOf vars name = [] := by
  refine (elementsOf_eq vars name).resolve_right ?_
  rintro ⟨maps, hfind, _⟩
  refine h ⟨maps.map Value.map, hfind, fun item hitem => ?_⟩
  obtain ⟨entries, _, rfl⟩ := List.mem_map.mp hitem
  rfl

/-- Each element is the scalar part of a map in the list that the name stands for. -/
theorem exists_of_mem_elementsOf (h : element ∈ elementsOf vars name) :
    ∃ items entries, (name, .list items) ∈ vars ∧ .map entries ∈ items ∧
      element = scalars entries := by
  rcases elementsOf_eq vars name with hnil | ⟨maps, hfind, hmaps⟩
  · rw [hnil] at h
    exact absurd h List.not_mem_nil
  · rw [hmaps] at h
    obtain ⟨entries, hentries, rfl⟩ := List.mem_map.mp h
    exact ⟨_, entries, Dictionary.mem_of_find?_eq_some hfind, List.mem_map_of_mem hentries, rfl⟩

/-- Elements of proper variables are dictionaries. -/
theorem ordered_of_mem_elementsOf (hv : vars.Proper) (h : element ∈ elementsOf vars name) :
    Dictionary.Ordered element := by
  obtain ⟨items, entries, hitems, hentries, rfl⟩ := exists_of_mem_elementsOf h
  exact (hv.element_ordered name items entries hitems hentries).filter _

/-- A loop of a template runs over what its name stands for. -/
theorem elements_of_mem_all {template : Text} {tag body : Pair}
    (h : l ∈ all template vars tag body) : l.elements = elementsOf vars l.name := by
  obtain ⟨m, _, rfl⟩ := List.mem_map.mp h
  rfl

end Loop

end Stencil
