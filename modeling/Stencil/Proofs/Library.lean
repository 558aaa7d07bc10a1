import Stencil.Library
import Stencil.Proofs.FileTree.Growth
import Stencil.Proofs.FileTree.Likeness

/-!
# Where names lead

Every name that stands for a file stands for one below the folder of templates. It does so the same
before the file is there, where the folder for it is followed and the last name of the path added, and
after, where the whole path is followed. No file is read for it.
-/

namespace Stencil

open FilePath

namespace Named

variable {t u : FileTree} {folder name path : Text} {base p : Location} {found : Named}

/-! ## Following a path -/

/-- A path is followed to its end, or all but its last part is. -/
theorem of_follow (h : follow t path = .ok found) :
    t.locate (t.route path) = .ok found.location ∧ found.slash = false ∨
      ∃ parent above, parent? path = some parent ∧ t.locate (t.route parent) = .ok above ∧
        (found = ⟨above, true⟩ ∨ ∃ n, name? path = some n ∧ found = ⟨above ++ [n], false⟩) := by
  unfold follow at h
  split at h
  · next p hlocate =>
    cases h
    exact .inl ⟨hlocate, rfl⟩
  · split at h
    · cases h
    · next parent hparent =>
      refine .inr ⟨parent, ?_⟩
      split at h
      · cases h
      · next above habove =>
        split at h
        · next n hname =>
          cases h
          exact ⟨above, hparent, habove, .inr ⟨n, hname, rfl⟩⟩
        · cases h
          exact ⟨above, hparent, habove, .inl rfl⟩

/-- What a path is followed to has a proper location. -/
theorem proper_of_follow (hhere : Location.Proper t.here) (h : follow t path = .ok found) :
    found.location.Proper := by
  rcases of_follow h with ⟨hlocate, _⟩ | ⟨parent, above, _, habove, rfl | ⟨n, hname, rfl⟩⟩
  · exact FileTree.proper_of_locate hhere hlocate
  · exact FileTree.proper_of_locate hhere habove
  · refine (FileTree.proper_of_locate hhere habove).append fun m hm => ?_
    rw [List.mem_singleton.mp hm]
    exact isName_of_name? hname

/-- Where all but the last name of a path leads somewhere, the path leads to that name there. -/
theorem locate_of_parent? {parent n : Text} {above q : Location} (hparent : parent? path = some parent)
    (hname : name? path = some n) (habove : t.locate (t.route parent) = .ok above)
    (hlocate : t.locate (t.route path) = .ok q) : q = above ++ [n] := by
  -- Written anew from its parts, the path without its last name may have lost dots and slashes, so
  -- the two ways are compared by the pieces that lead anywhere.
  obtain ⟨habsolute, hsteps⟩ := steps_of_parent? hparent hname
  have hstart : (t.route path).start = (t.route parent).start := by
    rw [FileTree.route, FileTree.route, habsolute]
  have hall : t.walk (t.route path).start (steps path) = .ok q :=
    FileTree.walk_filter_leads (FileTree.locate_eq_ok_iff.mp hlocate).2
  have hfront : t.walk (t.route parent).start (steps parent) = .ok above :=
    FileTree.walk_filter_leads (FileTree.locate_eq_ok_iff.mp habove).2
  rw [hstart, hsteps] at hall
  obtain ⟨middle, hmiddle, hlast⟩ := FileTree.walk_append_eq_ok_iff.mp hall
  obtain rfl : middle = above := Except.ok.inj (hmiddle.symm.trans hfront)
  exact FileTree.eq_of_walk_names (List.forall_mem_singleton.mpr (isName_of_name? hname)) hlast

/-- What a path is followed to stays the same in a growing tree, with no slash after it. -/
theorem follow_grows (hgrows : FileTree.Grows t u) (h : follow t path = .ok found)
    (hslash : found.slash = false) : follow u path = .ok found := by
  rcases of_follow h with ⟨hlocate, _⟩ | ⟨parent, above, hparent, habove, rfl | ⟨n, hname, rfl⟩⟩
  · have hu := hgrows.locate_route hlocate
    obtain ⟨location, slash⟩ := found
    obtain rfl : slash = false := hslash
    simp only [follow, hu]
  · cases hslash
  · have hu := hgrows.locate_route habove
    -- The file may have come to be there, and then the whole path is followed.
    cases hwhole : u.locate (u.route path) with
    | error e => simp only [follow, hwhole, hparent, hu, hname]
    | ok q => rw [follow, hwhole, locate_of_parent? hparent hname hu hwhole]

/-- Trees that are alike let a path be followed alike. -/
theorem follow_alike (h : FileTree.Alike base t u) (path : Text) : follow u path = follow t path := by
  simp only [follow, h.route, h.locate]

/-! ## Finding a file -/

/-- A name stands for what its path is followed to, if that is below the folder of templates. -/
theorem find_eq_ok_iff : find t folder name = .ok found ↔
    follow t (join folder (trimmed name)) = .ok found ∧
      ∃ base, t.locate (t.route folder) = .ok base ∧ base.Below found.location := by
  unfold find
  cases follow t (join folder (trimmed name)) with
  | error e => simp
  | ok n =>
    cases t.locate (t.route folder) with
    | error e => simp
    | ok base =>
      have hbelow : ¬ (n.location = base ∨ !base.isPrefixOf n.location) ↔ base.Below n.location := by
        rw [Location.below_iff, ← List.isPrefixOf_iff_prefix]
        simp [and_comm]
      simp only [Except.ok.injEq, exists_eq_left']
      split
      · next houtside =>
        refine iff_of_false nofun ?_
        rintro ⟨rfl, hfound⟩
        exact hbelow.mpr hfound houtside
      · next hinside =>
        constructor
        · intro h
          cases h
          exact ⟨rfl, hbelow.mp hinside⟩
        · rintro ⟨rfl, _⟩
          rfl

/-- What a name stands for has a proper location. -/
theorem proper_of_find (hhere : Location.Proper t.here) (h : find t folder name = .ok found) :
    found.location.Proper := proper_of_follow hhere (find_eq_ok_iff.mp h).1

/-- What a name stands for is below the folder of templates. -/
theorem below_of_find (hbase : t.locate (t.route folder) = .ok base)
    (h : find t folder name = .ok found) : base.Below found.location := by
  obtain ⟨_, base', hbase', hbelow⟩ := find_eq_ok_iff.mp h
  rwa [Except.ok.inj (hbase.symm.trans hbase')]

/-- No name stands for the root. -/
theorem location_ne_nil (h : find t folder name = .ok found) : found.location ≠ [] := by
  obtain ⟨_, base, _, names, hne, hfound⟩ := find_eq_ok_iff.mp h
  rw [hfound]
  exact List.append_ne_nil_of_right_ne_nil base hne

/-- A name stands for the same in a growing tree, before its file is there and after. -/
theorem find_grows (hgrows : FileTree.Grows t u) (h : find t folder name = .ok found)
    (hslash : found.slash = false) : find u folder name = .ok found := by
  obtain ⟨hfollow, base, hbase, hbelow⟩ := find_eq_ok_iff.mp h
  exact find_eq_ok_iff.mpr
    ⟨follow_grows hgrows hfollow hslash, base, hgrows.locate_route hbase, hbelow⟩

/-- In trees that are alike a name stands for the same file. -/
theorem find_alike (h : FileTree.Alike base t u) (folder name : Text) :
    find u folder name = find t folder name := by
  simp only [find, follow_alike h, h.route, h.locate]

/-! ## The path of a file -/

/-- The parts of the path of a named file are the root and the names of its location. -/
theorem parts_path (h : found.location.Proper) : parts found.path = .root :: found.location.map .name := by
  obtain ⟨location, slash⟩ := found
  cases slash with
  | false => exact Location.parts_path h
  | true =>
    rw [← Location.parts_path h]
    have hlead : lead (location.path ++ ['/']) = lead location.path := rfl
    have hslash : parts (location.path ++ ['/']) = parts location.path := by
      rw [parts_eq, parts_eq, hlead, Text.split_append_mark, List.filterMap_append]
      exact congrArg _ (List.append_nil _)
    by_cases hend : location.path.getLast? = some '/'
    · simp [path, join, isAbsolute, hend]
    · have hpath : location.path ≠ [] := List.cons_ne_nil _ _
      simpa [path, join, isAbsolute, hend, hpath] using hslash

/-- The path of a named file leads nowhere but there. -/
theorem eq_of_locate_route (h : found.location.Proper) (hlocate : t.locate found.route = .ok p) :
    p = found.location := by
  have hwalk := (FileTree.locate_eq_ok_iff.mp hlocate).2
  obtain ⟨location, slash⟩ := found
  cases slash with
  | false => exact FileTree.eq_of_walk_names h hwalk
  | true =>
    obtain ⟨middle, hmiddle, hlast⟩ := FileTree.walk_append_eq_ok_iff.mp hwalk
    obtain rfl : middle = location := FileTree.eq_of_walk_names h hmiddle
    rcases (FileTree.step_eq_ok_iff.mp (FileTree.walk_singleton_eq_ok_iff.mp hlast)).2 with
      ⟨_, hstay⟩ | ⟨hup, _⟩ | ⟨hleads, _⟩
    · exact hstay
    · cases hup
    · cases hleads

end Named

end Stencil
