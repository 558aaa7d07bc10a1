import Stencil.Proofs.FileTree.Walk

/-!
# Trees alike but for some contents

Two trees may have folders and files at the same locations and differ in what the files hold. Ways
lead to the same locations in both, and files are written at the same ones: to follow a way, no file
is read. So what reads only files below one folder gives the same in both where these are the same.
-/

namespace Stencil

/-- Whether a folder is there, and not a file. -/
def Node.isFolder : Node → Bool
  | .folder => true
  | .file _ => false

namespace FileTree

/-- Trees that differ at most in what files hold that are not below a location. -/
structure Alike (base : Location) (t u : FileTree) : Prop where
  here : u.here = t.here
  kind : ∀ p, (u.at? p).map Node.isFolder = (t.at? p).map Node.isFolder
  below : ∀ p, base.Below p → u.at? p = t.at? p

namespace Alike

variable {base p : Location} {t u : FileTree} {r : Route}

/-- Nothing is there in both trees, or a folder, or a file. -/
theorem kinds (h : Alike base t u) (p : Location) :
    t.at? p = none ∧ u.at? p = none ∨ t.at? p = some .folder ∧ u.at? p = some .folder ∨
      ∃ a b, t.at? p = some (.file a) ∧ u.at? p = some (.file b) := by
  have hkind := h.kind p
  cases ht : t.at? p with
  | none =>
    rw [ht, Option.map_none, Option.map_eq_none_iff] at hkind
    exact .inl ⟨rfl, hkind⟩
  | some node =>
    rw [ht] at hkind
    obtain ⟨node', hu, hnode⟩ := Option.map_eq_some_iff.mp hkind
    refine .inr ?_
    cases node with
    | folder =>
      cases node' with
      | folder => exact .inl ⟨rfl, hu⟩
      | file b => cases hnode
    | file a =>
      cases node' with
      | folder => cases hnode
      | file b => exact .inr ⟨a, b, rfl, hu⟩

/-- Nothing is in one tree where nothing is in the other. -/
theorem isNone (h : Alike base t u) (p : Location) : (u.at? p).isNone = (t.at? p).isNone := by
  rcases h.kinds p with ⟨ht, hu⟩ | ⟨ht, hu⟩ | ⟨_, _, ht, hu⟩ <;> simp [ht, hu]

/-- Folders are at the same locations. -/
theorem hasFolder (h : Alike base t u) (p : Location) : u.hasFolder p = t.hasFolder p := by
  unfold FileTree.hasFolder
  rcases h.kinds p with ⟨ht, hu⟩ | ⟨ht, hu⟩ | ⟨_, _, ht, hu⟩ <;> rw [ht, hu]

/-! ## Ways -/

/-- A step leads to the same location or fails alike. -/
theorem step (h : Alike base t u) (p : Location) (piece : Text) : u.step p piece = t.step p piece := by
  unfold FileTree.step
  rcases h.kinds p with ⟨ht, hu⟩ | ⟨ht, hu⟩ | ⟨_, _, ht, hu⟩
  · rw [ht, hu]
  · simp only [ht, hu, h.isNone]
  · rw [ht, hu]

/-- A walk leads to the same location or fails alike. -/
theorem walk (h : Alike base t u) (p : Location) (pieces : List Text) :
    u.walk p pieces = t.walk p pieces := by
  induction pieces generalizing p with
  | nil => rfl
  | cons piece pieces ih =>
    rw [FileTree.walk, FileTree.walk, h.step]
    cases t.step p piece with
    | error e => rfl
    | ok next => exact ih next

/-- A path describes the same way. -/
theorem route (h : Alike base t u) (path : Text) : u.route path = t.route path := by
  rw [FileTree.route, FileTree.route, h.here]

/-- A way leads to the same location or fails alike. -/
theorem locate (h : Alike base t u) (r : Route) : u.locate r = t.locate r := by
  rw [FileTree.locate, FileTree.locate, h.walk]

/-! ## Reading and writing -/

/-- A new name has the same location or is refused alike. -/
theorem vacancy (h : Alike base t u) (p : Location) (name : Text) :
    u.vacancy p name = t.vacancy p name := by
  unfold FileTree.vacancy
  rcases h.kinds p with ⟨ht, hu⟩ | ⟨ht, hu⟩ | ⟨_, _, ht, hu⟩ <;> rw [ht, hu]

/-- A way ends at the same location for a new file or is refused alike. -/
theorem target (h : Alike base t u) (r : Route) : u.target r = t.target r := by
  simp only [FileTree.target, h.walk, h.step, h.vacancy, h.hasFolder]

/-- Below the location the same bytes are read. -/
theorem read (h : Alike base t u) (hbelow : ∀ p, t.locate r = .ok p → base.Below p) :
    u.read r = t.read r := by
  rw [FileTree.read, FileTree.read, h.locate]
  cases hlocate : t.locate r with
  | error e => rfl
  | ok p => simp only [h.below p (hbelow p hlocate)]

/-- Below the location the same text is read. -/
theorem readText (h : Alike base t u) (hbelow : ∀ p, t.locate r = .ok p → base.Below p) :
    u.readText r = t.readText r := by
  rw [FileTree.readText, FileTree.readText, h.read hbelow]

/-- Trees stay alike when the same is put in both. -/
theorem put (h : Alike base t u) (p : Location) (node : Node) :
    Alike base (t.put p node) (u.put p node) := by
  have hself : (u.put p node).at? p = (t.put p node).at? p := by
    by_cases hp : p = []
    · rw [hp]
      rfl
    · rw [at?_put_self u node hp, at?_put_self t node hp]
  refine ⟨h.here, fun q => ?_, fun q hq => ?_⟩ <;> by_cases hqp : q = p
  · rw [hqp, hself]
  · rw [at?_put_of_ne u node hqp, at?_put_of_ne t node hqp, h.kind]
  · rw [hqp, hself]
  · rw [at?_put_of_ne u node hqp, at?_put_of_ne t node hqp, h.below q hq]

end Alike

/-- A tree is alike when a file that is not below the location gets another content. -/
theorem alike_put {base p : Location} {t : FileTree} {old : ByteArray}
    (hold : t.at? p = some (.file old)) (hbelow : ¬ base.Below p) (data : ByteArray) :
    Alike base t (t.put p (.file data)) where
  here := rfl
  kind q := by
    by_cases hqp : q = p
    · have hp : p ≠ [] := by
        rintro rfl
        cases hold
      rw [hqp, at?_put_self t _ hp, hold]
      rfl
    · rw [at?_put_of_ne t _ hqp]
  below q hq := at?_put_of_ne t _ fun hqp => hbelow (hqp ▸ hq)

end FileTree

end Stencil
