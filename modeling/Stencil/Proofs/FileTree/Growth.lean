import Stencil.Proofs.FileTree.Walk

/-!
# Growing trees

A tree grows when things are added and no folder comes or goes. What a way led to it leads to still,
so a location where a file was written keeps being found. Writing a file is such a growth, because a
file is never written where a folder is.
-/

namespace Stencil

open FilePath

namespace FileTree

/-- A tree with all that another tree has and with the same folders. -/
structure Grows (t u : FileTree) : Prop where
  here : u.here = t.here
  folder : ∀ p, u.hasFolder p = t.hasFolder p
  stays : ∀ p, (t.at? p).isSome = true → (u.at? p).isSome = true

namespace Grows

variable {t u v : FileTree} {p q : Location} {piece : Text} {pieces : List Text} {r : Route}

theorem refl (t : FileTree) : Grows t t := ⟨rfl, fun _ => rfl, fun _ h => h⟩

/-- Growing twice is growing. -/
theorem trans (h : Grows t u) (h' : Grows u v) : Grows t v :=
  ⟨h'.here.trans h.here, fun p => (h'.folder p).trans (h.folder p),
    fun p hp => h'.stays p (h.stays p hp)⟩

/-- A file written where no folder is lets the tree grow. -/
theorem put (hp : p ≠ []) (hfolder : t.hasFolder p = false) (data : ByteArray) :
    Grows t (t.put p (.file data)) where
  here := rfl
  folder q := by
    by_cases hq : q = p
    · rw [hq, hfolder, hasFolder, at?_put_self t _ hp]
    · rw [hasFolder, hasFolder, at?_put_of_ne t _ hq]
  stays q hq := by
    by_cases hqp : q = p
    · rw [hqp, at?_put_self t _ hp]
      rfl
    · rwa [at?_put_of_ne t _ hqp]

/-- The current folder of a grown tree is proper. -/
theorem proper_here (h : Grows t u) (hhere : Location.Proper t.here) : Location.Proper u.here := by
  rw [h.here]
  exact hhere

/-- A step that was possible leads to the same location. -/
theorem step (h : Grows t u) (hstep : t.step p piece = .ok q) : u.step p piece = .ok q := by
  obtain ⟨hfolder, hcases⟩ := step_eq_ok_iff.mp hstep
  refine step_eq_ok_iff.mpr ⟨(h.folder p).trans hfolder, hcases.imp_right (Or.imp_right ?_)⟩
  rintro ⟨hleads, hup, hshort, hsome, hq⟩
  exact ⟨hleads, hup, hshort, h.stays q hsome, hq⟩

/-- A walk that was possible leads to the same location. -/
theorem walk (h : Grows t u) (hwalk : t.walk p pieces = .ok q) : u.walk p pieces = .ok q := by
  induction pieces generalizing p with
  | nil => exact hwalk
  | cons piece pieces ih =>
    obtain ⟨next, hstep, hmore⟩ := walk_cons_eq_ok_iff.mp hwalk
    exact walk_cons_eq_ok_iff.mpr ⟨next, h.step hstep, ih hmore⟩

/-- A path describes the same way. -/
theorem route (h : Grows t u) (path : Text) : u.route path = t.route path := by
  rw [FileTree.route, FileTree.route, h.here]

/-- A way that led to a location leads there. -/
theorem locate (h : Grows t u) (hlocate : t.locate r = .ok p) : u.locate r = .ok p :=
  locate_eq_ok_iff.mpr ((locate_eq_ok_iff.mp hlocate).imp_right h.walk)

/-- A path that led to a location leads there. -/
theorem locate_route (h : Grows t u) {path : Text} (hlocate : t.locate (t.route path) = .ok p) :
    u.locate (u.route path) = .ok p := by
  rw [h.route]
  exact h.locate hlocate

end Grows

/-! ## Writing -/

variable {t u : FileTree} {p q : Location} {name : Text} {r : Route}

/-- A location where a file can be written: it lies in a folder that names lead to, and there is no
folder. -/
structure Vacant (t : FileTree) (p : Location) : Prop where
  allowed : refusal? p.route = none
  above : t.walk [] p.dropLast = .ok p.dropLast
  folder : t.hasFolder p.dropLast = true
  short : ∀ name, p.getLast? = some name → Text.byteLength name ≤ maxName
  free : t.hasFolder p = false

/-- The last piece of a way is its last one that is not empty. -/
theorem lastPiece?_append (pieces : List Text) (hname : name ≠ []) :
    lastPiece? (pieces ++ [name]) = some (pieces, name, false) := by
  simp [lastPiece?, hname]

/-- A slash after the last piece of a way is noticed. -/
theorem lastPiece?_append_slash (pieces : List Text) (hname : name ≠ []) :
    lastPiece? (pieces ++ [name] ++ [[]]) = some (pieces, name, true) := by
  simp [lastPiece?, hname]

/-- A new name has a location if a folder is there to hold it and the name is not too long. -/
theorem vacancy_eq_ok_iff : t.vacancy p name = .ok q ↔
    t.hasFolder p = true ∧ Text.byteLength name ≤ maxName ∧ q = p ++ [name] := by
  unfold vacancy hasFolder
  cases t.at? p with
  | none => simp
  | some node =>
    cases node with
    | file data => simp
    | folder =>
      by_cases hlong : maxName < Text.byteLength name
      · simp [hlong, Nat.not_le.mpr hlong]
      · simp [hlong, Nat.not_lt.mp hlong, eq_comm (a := q)]

/-- A file is written at a free place in a folder, and with no slash behind its name. -/
theorem free_of_target (h : t.target r = .ok q) : refusal? r = none ∧
    ∃ before piece above, lastPiece? r.pieces = some (before, piece, false) ∧
      t.walk r.start before = .ok above ∧ t.vacancy above piece = .ok q ∧ t.hasFolder q = false := by
  unfold target at h
  split at h
  · cases h
  · cases h
  · next before piece slash hallowed hlast =>
    split at h
    · cases h
    · next above hwalk =>
      split at h
      · split at h <;> cases h
      · split at h
        · cases h
        · cases h
        · next p hvacancy =>
          split at h
          · cases h
          · next hfree =>
            cases h
            obtain ⟨hslash, hfree⟩ := not_or.mp hfree
            rw [Bool.not_eq_true] at hslash hfree
            rw [hslash] at hlast
            exact ⟨hallowed, before, piece, above, hlast, hwalk, hvacancy, hfree⟩

/-- What is written along the names of a location is written there, and nothing behind a slash. -/
theorem vacant_of_target (hp : p.Proper) (hne : p ≠ []) {slash : Bool}
    (h : t.target ⟨[], if slash then p ++ [[]] else p⟩ = .ok q) :
    slash = false ∧ t.Vacant p ∧ q = p := by
  obtain ⟨front, name, rfl⟩ := (List.eq_nil_or_concat' p).resolve_left hne
  have hname : IsName name := hp name (List.mem_append_right _ List.mem_cons_self)
  obtain ⟨hallowed, before, piece, above, hlast, hwalk, hvacancy, hfree⟩ := free_of_target h
  have hslash : slash = false ∧ front = before ∧ name = piece := by
    cases slash with
    | true =>
      rw [if_pos rfl, lastPiece?_append_slash front hname.ne_nil] at hlast
      cases hlast
    | false =>
      rw [if_neg Bool.false_ne_true, lastPiece?_append front hname.ne_nil] at hlast
      cases hlast
      exact ⟨rfl, rfl, rfl⟩
  obtain ⟨rfl, rfl, rfl⟩ := hslash
  obtain rfl : above = front :=
    eq_of_walk_names (fun n hn => hp n (List.mem_append_left _ hn)) hwalk
  obtain ⟨hfolder, hshort, rfl⟩ := vacancy_eq_ok_iff.mp hvacancy
  refine ⟨rfl, ⟨hallowed, ?_, ?_, ?_, hfree⟩, rfl⟩
  · rwa [List.dropLast_concat]
  · rwa [List.dropLast_concat]
  · simpa using hshort

/-- Once something is there, the names of a location lead to it. -/
theorem Vacant.locate (h : t.Vacant p) (hp : p.Proper) (hne : p ≠ [])
    (hsome : (u.at? p).isSome = true) (hgrows : Grows t u) : u.locate p.route = .ok p := by
  obtain ⟨front, name, rfl⟩ := (List.eq_nil_or_concat' p).resolve_left hne
  have hname : IsName name := hp name (List.mem_append_right _ List.mem_cons_self)
  have habove := hgrows.walk h.above
  have hfolder := (hgrows.folder _).trans h.folder
  rw [List.dropLast_concat] at habove hfolder
  have hstep : u.step front name = .ok (front ++ [name]) :=
    step_eq_ok_iff.mpr ⟨hfolder, .inr (.inr ⟨hname.leads, hname.ne_up,
      h.short name List.getLast?_concat, hsome, rfl⟩)⟩
  exact locate_eq_ok_iff.mpr ⟨h.allowed, walk_append_eq_ok_iff.mpr
    ⟨front, habove, walk_singleton_eq_ok_iff.mpr hstep⟩⟩

end FileTree

end Stencil
