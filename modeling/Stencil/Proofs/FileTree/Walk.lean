import Stencil.FileTree
import Stencil.Proofs.FilePath

/-!
# Following ways

A step is taken from a folder: it stays, goes up, or goes to a name that is there. A way that leads
somewhere leads there also without the pieces that stay, and all names of a location that a way
leads to are names.
-/

namespace Stencil

open FilePath

/-! ## Locations -/

namespace Location

/-- A location whose names are names. -/
def Proper (p : Location) : Prop := ∀ n ∈ p, IsName n

/-- A location in a folder, or further below it. -/
def Below (base p : Location) : Prop := ∃ names, names ≠ [] ∧ p = base ++ names

variable {p q : Location}

/-- A location is below the ones that it properly continues. -/
theorem below_iff : p.Below q ↔ p <+: q ∧ q ≠ p := by
  constructor
  · rintro ⟨names, hne, rfl⟩
    exact ⟨List.prefix_append p names, fun h => hne (List.append_right_eq_self.mp h)⟩
  · rintro ⟨⟨names, rfl⟩, hne⟩
    exact ⟨names, fun h => hne (List.append_right_eq_self.mpr h), rfl⟩

/-- Proper locations one after another are proper. -/
theorem Proper.append (hp : p.Proper) (hq : q.Proper) : Proper (p ++ q) :=
  List.forall_mem_append.mpr ⟨hp, hq⟩

/-- The folder of a proper location is proper. -/
theorem Proper.dropLast (hp : p.Proper) : Proper p.dropLast :=
  fun n hn => hp n (List.dropLast_subset p hn)

/-- The parts of the path of a location are its names, after the root. -/
theorem parts_path (hp : p.Proper) : parts p.path = .root :: p.map .name := by
  have hpieces : (Text.split '/' (List.intercalate ['/'] p)).filterMap part? = p.map .name := by
    by_cases hne : p = []
    · rw [hne]
      rfl
    · rw [Text.split_intercalate hne fun n hn => (hp n hn).slash_notMem, ← List.filterMap_eq_map]
      exact List.filterMap_congr fun n hn => part?_of_isName (hp n hn)
  have hlead : lead p.path = [.root] := rfl
  rw [parts_eq, hlead, path, Text.split_mark, List.filterMap_cons_none (by rfl), hpieces]
  rfl

end Location

namespace FileTree

variable {t : FileTree} {p q : Location} {piece : Text} {pieces more : List Text} {r : Route}

/-- A step goes from a folder to the same one, to the one above, or to a name in it. -/
theorem step_eq_ok_iff : t.step p piece = .ok q ↔ t.hasFolder p = true ∧
    (leads piece = false ∧ q = p ∨ piece = ['.', '.'] ∧ q = p.dropLast ∨
      leads piece = true ∧ piece ≠ ['.', '.'] ∧ Text.byteLength piece ≤ maxName ∧
        (t.at? q).isSome = true ∧ q = p ++ [piece]) := by
  unfold step hasFolder
  cases t.at? p with
  | none => simp
  | some node =>
    cases node with
    | file content => simp
    | folder =>
      simp only [true_and]
      split
      · next hstay =>
        have hleads := leads_eq_false_iff.mpr hstay
        have hup : piece ≠ ['.', '.'] := by
          rintro rfl
          cases hleads
        simp [hleads, hup, eq_comm (a := p)]
      · next hstay =>
        have hleads := leads_iff.mpr (not_or.mp hstay)
        split
        · next hup =>
          rw [hup] at hleads
          simp [hup, hleads, eq_comm (a := q)]
        · next hup =>
          simp only [hleads, hup, Bool.true_eq_false, false_and, false_or, true_and, ne_eq,
            not_false_eq_true]
          split
          · next hlong => simp [Nat.not_le.mpr hlong]
          · next hshort =>
            split
            · next hnone =>
              refine iff_of_false nofun ?_
              rintro ⟨_, hsome, rfl⟩
              rw [Option.isNone_iff_eq_none.mp hnone] at hsome
              cases hsome
            · next hsome =>
              have hsome := Option.isSome_iff_ne_none.mpr (mt Option.isNone_iff_eq_none.mpr hsome)
              constructor
              · intro h
                cases h
                exact ⟨Nat.not_lt.mp hshort, hsome, rfl⟩
              · rintro ⟨_, _, rfl⟩
                rfl

/-- A walk begins with a step to its first piece. -/
theorem walk_cons_eq_ok_iff : t.walk p (piece :: pieces) = .ok q ↔
    ∃ next, t.step p piece = .ok next ∧ t.walk next pieces = .ok q := by
  rw [walk]
  cases t.step p piece <;> simp

/-- A walk along pieces and more pieces goes on from where the first ones lead. -/
theorem walk_append_eq_ok_iff : t.walk p (pieces ++ more) = .ok q ↔
    ∃ middle, t.walk p pieces = .ok middle ∧ t.walk middle more = .ok q := by
  induction pieces generalizing p with
  | nil => simp [walk]
  | cons piece pieces ih =>
    simp only [List.cons_append, walk_cons_eq_ok_iff, ih]
    constructor
    · rintro ⟨next, hstep, middle, hwalk, hmore⟩
      exact ⟨middle, ⟨next, hstep, hwalk⟩, hmore⟩
    · rintro ⟨middle, ⟨next, hstep, hwalk⟩, hmore⟩
      exact ⟨next, hstep, middle, hwalk, hmore⟩

/-- A walk along one piece is a step. -/
theorem walk_singleton_eq_ok_iff : t.walk p [piece] = .ok q ↔ t.step p piece = .ok q := by
  rw [walk_cons_eq_ok_iff]
  simp [walk]

/-- All names that a way leads through are names. -/
theorem proper_of_walk (hp : p.Proper) (hpieces : ∀ piece ∈ pieces, '/' ∉ piece)
    (h : t.walk p pieces = .ok q) : q.Proper := by
  induction pieces generalizing p with
  | nil =>
    cases h
    exact hp
  | cons piece pieces ih =>
    obtain ⟨hpiece, hpieces⟩ := List.forall_mem_cons.mp hpieces
    obtain ⟨next, hstep, hwalk⟩ := walk_cons_eq_ok_iff.mp h
    refine ih ?_ hpieces hwalk
    rcases (step_eq_ok_iff.mp hstep).2 with ⟨_, rfl⟩ | ⟨_, rfl⟩ | ⟨hleads, hup, _, _, rfl⟩
    · exact hp
    · exact hp.dropLast
    · refine hp.append fun n hn => ?_
      rw [List.mem_singleton.mp hn]
      exact ⟨(leads_iff.mp hleads).1, (leads_iff.mp hleads).2, hup, hpiece⟩

/-- Names lead to the location of these names. -/
theorem eq_of_walk_names (hpieces : ∀ piece ∈ pieces, IsName piece)
    (h : t.walk p pieces = .ok q) : q = p ++ pieces := by
  induction pieces generalizing p with
  | nil =>
    exact (Except.ok.inj h).symm.trans (List.append_nil p).symm
  | cons piece pieces ih =>
    obtain ⟨hpiece, hpieces⟩ := List.forall_mem_cons.mp hpieces
    obtain ⟨next, hstep, hwalk⟩ := walk_cons_eq_ok_iff.mp h
    rcases (step_eq_ok_iff.mp hstep).2 with ⟨hstay, _⟩ | ⟨hup, _⟩ | ⟨_, _, _, _, rfl⟩
    · rw [hpiece.leads] at hstay
      cases hstay
    · exact absurd hup hpiece.ne_up
    · rw [ih hpieces hwalk, List.append_assoc, List.singleton_append]

/-- Pieces that stay can be left out. -/
theorem walk_filter_leads (h : t.walk p pieces = .ok q) :
    t.walk p (pieces.filter leads) = .ok q := by
  induction pieces generalizing p with
  | nil => exact h
  | cons piece pieces ih =>
    obtain ⟨next, hstep, hwalk⟩ := walk_cons_eq_ok_iff.mp h
    cases hleads : leads piece with
    | true =>
      rw [List.filter_cons_of_pos hleads]
      exact walk_cons_eq_ok_iff.mpr ⟨next, hstep, ih hwalk⟩
    | false =>
      rw [List.filter_cons_of_neg (by simp [hleads])]
      rcases (step_eq_ok_iff.mp hstep).2 with ⟨_, rfl⟩ | ⟨rfl, _⟩ | ⟨htrue, _⟩
      · exact ih hwalk
      · cases hleads
      · rw [hleads] at htrue
        cases htrue

/-- A way leads to a location if no system refuses it and its pieces lead there. -/
theorem locate_eq_ok_iff : t.locate r = .ok p ↔
    refusal? r = none ∧ t.walk r.start r.pieces = .ok p := by
  rw [locate]
  cases refusal? r <;> simp

/-- All names of a location that a path leads to are names. -/
theorem proper_of_locate (hhere : Location.Proper t.here) {path : Text}
    (h : t.locate (t.route path) = .ok p) : p.Proper := by
  have hstart : Location.Proper (t.route path).start := by
    unfold route
    split
    · exact nofun
    · exact hhere
  exact proper_of_walk hstart (fun _ => Text.notMem_of_mem_split) (locate_eq_ok_iff.mp h).2

end FileTree

end Stencil
