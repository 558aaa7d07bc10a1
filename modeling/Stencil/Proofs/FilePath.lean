import Stencil.FilePath
import Stencil.Proofs.Text.Split

/-!
# Parts of paths

Of the pieces between the slashes of a path only some lead anywhere: names and steps up. They are
the same for a path and for the path written anew from its parts, so the path without its last name
leads as far as all its pieces but that one.
-/

namespace Stencil

namespace FilePath

/-- A text that can be the name of something in a folder. -/
structure IsName (n : Text) : Prop where
  ne_nil : n ≠ []
  ne_here : n ≠ ['.']
  ne_up : n ≠ ['.', '.']
  slash_notMem : '/' ∉ n

instance (n : Text) : Decidable (IsName n) :=
  decidable_of_iff (n ≠ [] ∧ n ≠ ['.'] ∧ n ≠ ['.', '.'] ∧ '/' ∉ n)
    ⟨fun ⟨hnil, hhere, hup, hslash⟩ => ⟨hnil, hhere, hup, hslash⟩,
      fun h => ⟨h.ne_nil, h.ne_here, h.ne_up, h.slash_notMem⟩⟩

/-- Whether a piece of a path leads anywhere. -/
def leads (piece : Text) : Bool := piece ≠ [] ∧ piece ≠ ['.']

/-- The pieces of a path that lead anywhere. -/
def steps (path : Text) : List Text := (Text.split '/' path).filter leads

variable {path piece n : Text} {part : Part} {ps : List Part}

/-- A piece of a path leads on unless it is empty or a dot. -/
theorem leads_iff : leads piece = true ↔ piece ≠ [] ∧ piece ≠ ['.'] := by
  rw [leads, decide_eq_true_eq]

/-- The empty piece and the dot lead nowhere. -/
theorem leads_eq_false_iff : leads piece = false ↔ piece = [] ∨ piece = ['.'] := by
  rw [← Bool.not_eq_true, leads_iff, not_and_or, not_not, not_not]

/-- A name leads on. -/
theorem IsName.leads (h : IsName n) : FilePath.leads n = true := leads_iff.mpr ⟨h.ne_nil, h.ne_here⟩

/-! ## Parts -/

/-- What a path says before its pieces: that it begins at the root, or with a dot. -/
def lead (path : Text) : List Part :=
  if isAbsolute path then [.root]
  else if (Text.split '/' path).head? = some ['.'] then [.here]
  else []

/-- The first piece says no more than the others, apart from the lead. -/
theorem parts_eq (path : Text) : parts path = lead path ++ (Text.split '/' path).filterMap part? := by
  obtain ⟨piece, more, hsplit⟩ := List.exists_cons_of_ne_nil (Text.split_ne_nil '/' path)
  simp only [parts, hsplit, lead, isAbsolute, firstPart?, List.head?_cons, Option.some.injEq,
    decide_eq_true_eq]
  by_cases habsolute : path.head? = some '/'
  · obtain ⟨rest, rfl⟩ := List.head?_eq_some_iff.mp habsolute
    rw [Text.split_mark] at hsplit
    obtain ⟨rfl, rfl⟩ := List.cons.inj hsplit
    rfl
  · by_cases hhere : piece = ['.']
    · simp [habsolute, hhere, part?]
    · cases hpart : part? piece <;> simp [habsolute, hhere, hpart]

/-- The names among the parts of a path are names. -/
def Part.Proper : Part → Prop
  | .name n => IsName n
  | _ => True

/-- A piece that is a name is read as that name. -/
theorem part?_of_isName (h : IsName n) : part? n = some (.name n) := by
  simp [part?, h.ne_nil, h.ne_here, h.ne_up]

/-- A piece without slashes is read as a proper part. -/
theorem proper_of_part? (hslash : '/' ∉ piece) (h : part? piece = some part) : part.Proper := by
  unfold part? at h
  split at h
  · cases h
  · next hleads =>
    rw [not_or] at hleads
    split at h
    · cases h
      trivial
    · next hup =>
      cases h
      exact ⟨hleads.1, hleads.2, hup, hslash⟩

/-- The parts of a path are proper. -/
theorem proper_of_mem_parts (h : part ∈ parts path) : part.Proper := by
  rw [parts_eq, List.mem_append, List.mem_filterMap] at h
  rcases h with h | ⟨piece, hpiece, h⟩
  · unfold lead at h
    split at h
    · rw [List.mem_singleton.mp h]
      trivial
    · split at h
      · rw [List.mem_singleton.mp h]
        trivial
      · exact absurd h List.not_mem_nil
  · exact proper_of_part? (Text.notMem_of_mem_split hpiece) h

/-- What a path has for a name is its last part. -/
theorem getLast?_parts_of_name? (h : name? path = some n) :
    (parts path).getLast? = some (.name n) := by
  unfold name? at h
  split at h
  · next hlast =>
    cases h
    exact hlast
  · cases h

/-- What a path has for a name can be the name of something in a folder. -/
theorem isName_of_name? (h : name? path = some n) : IsName n :=
  proper_of_mem_parts (List.mem_of_getLast? (getLast?_parts_of_name? h))

/-! ## Steps -/

/-- The piece that a part is written as, where it leads anywhere. -/
def Part.step? : Part → Option Text
  | .up => some ['.', '.']
  | .name n => some n
  | _ => none

/-- A piece that leads anywhere is the step of its part, and no other piece is. -/
theorem part?_bind_step? (piece : Text) :
    (part? piece).bind Part.step? = if leads piece then some piece else none := by
  by_cases hstay : piece = [] ∨ piece = ['.']
  · rcases hstay with rfl | rfl <;> rfl
  · have hleads : leads piece = true := leads_iff.mpr (not_or.mp hstay)
    rw [part?, if_neg hstay, if_pos hleads]
    split
    · next hup => rw [hup]; rfl
    · rfl

/-- The pieces of a path that lead anywhere are those of its parts. -/
theorem steps_eq (path : Text) : steps path = (parts path).filterMap Part.step? := by
  have hlead : (lead path).filterMap Part.step? = [] := by
    unfold lead
    split
    · rfl
    · split <;> rfl
  rw [parts_eq, List.filterMap_append, hlead, List.nil_append, List.filterMap_filterMap, steps,
    ← List.filterMap_eq_filter]
  exact List.filterMap_congr fun piece _ => by
    rw [part?_bind_step?, Option.guard]

/-- The text of a proper part holds no slash. -/
theorem Part.Proper.slash_notMem (h : part.Proper) : '/' ∉ part.text := by
  cases part with
  | name n => exact IsName.slash_notMem h
  | root => exact List.not_mem_nil
  | here => decide
  | up => decide

/-- A proper part has its text for a step if that leads anywhere. -/
theorem Part.Proper.step?_eq (h : part.Proper) :
    part.step? = if leads part.text then some part.text else none := by
  cases part with
  | name n => exact (if_pos (IsName.leads h)).symm
  | _ => rfl

/-- Parts are written with slashes between them, but for the root alone. -/
theorem ofParts_of_ne (h : ps ≠ [.root]) :
    ofParts ps = List.intercalate ['/'] (ps.map Part.text) := by
  unfold ofParts
  split
  · exact absurd rfl h
  · rfl

/-- A path written from its parts leads as they do. -/
theorem steps_ofParts (hps : ∀ part ∈ ps, part.Proper) :
    steps (ofParts ps) = ps.filterMap Part.step? := by
  by_cases hroot : ps = [.root]
  · rw [hroot]
    rfl
  · by_cases hne : ps = []
    · rw [hne]
      rfl
    · have hslash : ∀ piece ∈ ps.map Part.text, '/' ∉ piece := by
        intro piece hpiece
        obtain ⟨part, hpart, rfl⟩ := List.mem_map.mp hpiece
        exact (hps part hpart).slash_notMem
      rw [steps, ofParts_of_ne hroot, Text.split_intercalate (mt List.map_eq_nil_iff.mp hne) hslash,
        List.filter_map, ← List.filterMap_eq_filter, List.map_filterMap]
      refine List.filterMap_congr fun part hpart => ?_
      rw [(hps part hpart).step?_eq, Option.guard, Function.comp_apply]
      split <;> rfl

/-- A path is absolute just if its first part is the root. -/
theorem isAbsolute_iff : isAbsolute path = true ↔ (parts path).head? = some .root := by
  have hnot (pieces : List Text) : (pieces.filterMap part?).head? ≠ some .root := by
    intro h
    obtain ⟨piece, _, hpiece⟩ := List.mem_filterMap.mp (List.mem_of_head? h)
    unfold part? at hpiece
    split at hpiece
    · cases hpiece
    · split at hpiece <;> cases hpiece
  rw [parts_eq, lead]
  by_cases habsolute : isAbsolute path = true
  · simp [habsolute]
  · simp only [habsolute, Bool.false_eq_true, ite_false, false_iff]
    split
    · simp
    · exact hnot _

/-- The text of a proper part other than the root begins, and not with a slash. -/
theorem Part.Proper.head?_text (h : part.Proper) (hroot : part ≠ .root) :
    ∃ c more, part.text = c :: more ∧ c ≠ '/' := by
  have hslash := h.slash_notMem
  cases htext : part.text with
  | nil =>
    cases part with
    | name n => exact absurd htext (IsName.ne_nil h)
    | root => exact absurd rfl hroot
    | here => cases htext
    | up => cases htext
  | cons c more =>
    refine ⟨c, more, rfl, fun hc => hslash ?_⟩
    rw [htext, hc]
    exact List.mem_cons_self

/-- The path of proper parts is absolute just if the first of them is the root. -/
theorem isAbsolute_ofParts (hps : ∀ part ∈ ps, part.Proper) :
    isAbsolute (ofParts ps) = true ↔ ps.head? = some .root := by
  cases ps with
  | nil => simp [ofParts, isAbsolute]
  | cons part ps =>
    by_cases hroot : part = .root
    · subst hroot
      cases ps with
      | nil => simp [ofParts, isAbsolute]
      | cons next ps => simp [ofParts, isAbsolute, Part.text, List.intercalate_cons_cons]
    · obtain ⟨c, more, htext, hc⟩ := (hps part List.mem_cons_self).head?_text hroot
      have hne : part :: ps ≠ [.root] := fun h => hroot (List.cons.inj h).1
      rw [ofParts_of_ne hne, isAbsolute, List.map_cons, htext]
      cases ps with
      | nil => simp [hc, hroot]
      | cons next ps => simp [hc, hroot, List.intercalate_cons_cons]

/-- A path leads through its last name from where the path without that name leads. -/
theorem steps_of_parent? {parent : Text} (hparent : parent? path = some parent)
    (hname : name? path = some n) :
    isAbsolute parent = isAbsolute path ∧ steps path = steps parent ++ [n] := by
  obtain ⟨ps, hparts⟩ := List.getLast?_eq_some_iff.mp (getLast?_parts_of_name? hname)
  have hps : ∀ part ∈ ps, part.Proper := fun part hpart =>
    proper_of_mem_parts (hparts ▸ List.mem_append_left _ hpart)
  have hparent : ofParts ps = parent := by
    simpa [parent?, hparts] using hparent
  rw [← hparent, steps_ofParts hps, steps_eq, hparts, List.filterMap_append]
  refine ⟨?_, rfl⟩
  rw [Bool.eq_iff_iff, isAbsolute_ofParts hps, isAbsolute_iff, hparts]
  cases ps with
  | nil => simp
  | cons part ps => rfl

end FilePath

end Stencil
