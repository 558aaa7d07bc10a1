import Stencil.Server
import Stencil.Proofs.Library

/-!
# What a request does

Two kinds of requests matter: those that store a text under a name, and those that ask for a rendering.
An answer either leaves the tree as it was, or it is the one to a stored text, and then one file is
written where no folder is. So trees grow from request to request.
-/

namespace Stencil

namespace Server

variable {folder name text : Text} {t u : FileTree} {r : Request} {order : Order} {found : Named}

/-! ## Requests -/

/-- A request to store a text under a name. -/
structure Request.Stores (r : Request) (name text : Text) : Prop where
  method : r.method = "PUT".toList
  target : ∃ written, Resource.ofPath? (pathOf r.target) = some (.template written) ∧
    nameOf? written = some name
  body : Text.ofBytes? r.body = some text

/-- The request to store a text under a name as it is written in a path. -/
def Request.put (written text : Text) : Request :=
  ⟨"PUT".toList, "/templates/".toList ++ written, false, text.bytes⟩

/-- The request to render as a text in JSON says. -/
def Request.post (order : Text) : Request := ⟨"POST".toList, "/render".toList, true, order.bytes⟩

/-- A request stores one text under one name. -/
theorem Request.Stores.unique {other text' : Text} (h : r.Stores name text)
    (h' : r.Stores other text') : other = name ∧ text' = text := by
  obtain ⟨written, hwritten, hname⟩ := h.target
  obtain ⟨written', hwritten', hname'⟩ := h'.target
  obtain rfl : written' = written := by simpa [hwritten] using hwritten'.symm
  exact ⟨Option.some.inj (hname'.symm.trans hname), Option.some.inj (h'.body.symm.trans h.body)⟩

/-- Where a text is written that is stored under a name. -/
def place (t : FileTree) (folder name : Text) : Except Failure Location := do
  let found ← Named.find t folder name
  (t.target found.route).mapError .file

/-- A new template has a place where its name stands for a file that can be written. -/
theorem place_eq_ok_iff {p : Location} : place t folder name = .ok p ↔
    ∃ found, Named.find t folder name = .ok found ∧ t.target found.route = .ok p := by
  unfold place
  cases Named.find t folder name with
  | error e => exact iff_of_false nofun nofun
  | ok found =>
    change (t.target found.route).mapError Failure.file = .ok p ↔ _
    cases htarget : t.target found.route <;> simp [Except.mapError, htarget]

/-- A template is stored by putting its bytes at its place. -/
theorem stored_eq (t : FileTree) (folder name text : Text) : stored t folder name text =
    (place t folder name).map fun p => t.put p (.file (Text.bytes text)) := by
  unfold stored place
  cases Named.find t folder name with
  | error e => rfl
  | ok found =>
    change (t.write found.route (Text.bytes text)).mapError Failure.file =
      ((t.target found.route).mapError Failure.file).map _
    rw [FileTree.write]
    cases t.target found.route <;> rfl

/-- What storing a text comes to: the name stands for a free place, where the file with the text is. -/
structure Written (t : FileTree) (folder name text : Text) (found : Named) (u : FileTree) : Prop where
  find : Named.find t folder name = .ok found
  slash : found.slash = false
  vacant : t.Vacant found.location
  tree : u = t.put found.location (.file (Text.bytes text))

/-- A template that is stored is written to the file that its name stands for. -/
theorem written_of_stored (hhere : Location.Proper t.here) (h : stored t folder name text = .ok u) :
    ∃ found, Written t folder name text found u := by
  rw [stored_eq] at h
  cases hplace : place t folder name with
  | error e =>
    rw [hplace] at h
    cases h
  | ok p =>
    rw [hplace] at h
    cases h
    obtain ⟨found, hfind, htarget⟩ := place_eq_ok_iff.mp hplace
    obtain ⟨hslash, hvacant, rfl⟩ := FileTree.vacant_of_target (Named.proper_of_find hhere hfind)
      (Named.location_ne_nil hfind) htarget
    exact ⟨found, hfind, hslash, hvacant, rfl⟩

/-- Nothing is written to the root. -/
theorem Written.ne_nil (h : Written t folder name text found u) : found.location ≠ [] :=
  Named.location_ne_nil h.find

/-- Nothing is written anywhere else. -/
theorem Written.at?_of_ne (h : Written t folder name text found u) {p : Location}
    (hne : p ≠ found.location) : u.at? p = t.at? p := by
  rw [h.tree, FileTree.at?_put_of_ne t _ hne]

/-- Writing a template makes a tree grow. -/
theorem Written.grows (h : Written t folder name text found u) : FileTree.Grows t u := by
  rw [h.tree]
  exact FileTree.Grows.put h.ne_nil h.vacant.free _

/-! ## Answers -/

/-- No failure has the status of a stored template. -/
theorem status_ofFailure_ne (e : Failure) : (Response.ofFailure e).status ≠ 201 := by
  cases e <;> simp [Response.ofFailure, Response.statusOf]

/-- No rendering has the status of a stored template. -/
theorem status_answerRender_ne : (answerRender t folder r).status ≠ 201 := by
  unfold answerRender
  split
  · decide
  · split
    · decide
    · decide
    · split
      · exact (by decide : 200 ≠ 201)
      · exact status_ofFailure_ne _

/-- Whatever the tree, a request is turned away or greeted, rendered, or stored. -/
theorem answer_dispatch (folder : Text) (r : Request) :
    (∃ response, response.status ≠ 201 ∧ ∀ t, answer folder t r = (response, t)) ∨
      (∀ t, answer folder t r = (answerRender t folder r, t)) ∨
      ∃ written, r.method = "PUT".toList ∧
        Resource.ofPath? (pathOf r.target) = some (.template written) ∧
        ∀ t, answer folder t r = answerStore t folder written r := by
  have hmethod : r.method = (String.ofList r.method).toList := String.toList_ofList.symm
  -- The response must not depend on the tree, so it is named before any tree is given.
  unfold answer
  generalize String.ofList r.method = method at hmethod ⊢
  cases htarget : Resource.ofPath? (pathOf r.target) with
  | none => exact .inl ⟨.bare 404, (by decide : 404 ≠ 201), fun _ => rfl⟩
  | some resource =>
    cases resource with
    | root =>
      refine .inl ?_
      by_cases hget : method = "GET"
      · rw [hget]
        exact ⟨.ofText greeting, (by decide : 200 ≠ 201), fun _ => rfl⟩
      · by_cases hhead : method = "HEAD"
        · rw [hhead]
          exact ⟨⟨200, some .text, []⟩, (by decide : 200 ≠ 201), fun _ => rfl⟩
        · exact ⟨.bare 405, (by decide : 405 ≠ 201), fun t => by simp [hget, hhead]⟩
    | rendering =>
      by_cases hpost : method = "POST"
      · rw [hpost]
        exact .inr (.inl fun _ => rfl)
      · exact .inl ⟨.bare 405, (by decide : 405 ≠ 201), fun t => by simp [hpost]⟩
    | template written =>
      by_cases hput : method = "PUT"
      · rw [hput]
        exact .inr (.inr ⟨written, by rw [hmethod, hput], rfl, fun _ => rfl⟩)
      · exact .inl ⟨.bare 405, (by decide : 405 ≠ 201), fun t => by simp [hput]⟩

/-- An answer leaves the tree as it was, or tells that a text was stored. -/
theorem answer_cases (folder : Text) (t : FileTree) (r : Request) :
    (answer folder t r).1.status ≠ 201 ∧ (answer folder t r).2 = t ∨
      ∃ name text u, r.Stores name text ∧ stored t folder name text = .ok u ∧
        answer folder t r = (.bare 201, u) := by
  rcases answer_dispatch folder r with ⟨response, hstatus, h⟩ | h | ⟨written, hmethod, htarget, h⟩
  · rw [h]
    exact .inl ⟨hstatus, rfl⟩
  · rw [h]
    exact .inl ⟨status_answerRender_ne, rfl⟩
  · rw [h, answerStore]
    split
    · next name text hname hbody =>
      split
      · next u hstored =>
        exact .inr ⟨name, text, u, ⟨hmethod, ⟨written, htarget, hname⟩, hbody⟩, hstored, rfl⟩
      · exact .inl ⟨status_ofFailure_ne _, rfl⟩
    · exact .inl ⟨(by decide : 400 ≠ 201), rfl⟩

/-- What a request writes, if it writes anything. -/
theorem answer_eq_or_written (hhere : Location.Proper t.here) (folder : Text) (r : Request) :
    (answer folder t r).2 = t ∨ (answer folder t r).1.status = 201 ∧ ∃ name text found,
      r.Stores name text ∧ Written t folder name text found (answer folder t r).2 := by
  rcases answer_cases folder t r with ⟨_, htree⟩ | ⟨name, text, u, hstores, hstored, hanswer⟩
  · exact .inl htree
  · obtain ⟨found, hwritten⟩ := written_of_stored hhere hstored
    rw [hanswer]
    exact .inr ⟨rfl, name, text, found, hstores, hwritten⟩

/-- Answering a request makes a tree grow. -/
theorem grows_answer (hhere : Location.Proper t.here) (folder : Text) (r : Request) :
    FileTree.Grows t (answer folder t r).2 := by
  rcases answer_eq_or_written hhere folder r with htree | ⟨_, _, _, _, _, hwritten⟩
  · rw [htree]
    exact .refl t
  · exact hwritten.grows

/-! ## Runs -/

/-- The first request is answered first, and the others in the tree that it leaves. -/
theorem answerAll_cons (folder : Text) (t : FileTree) (r : Request) (rs : List Request) :
    answerAll folder t (r :: rs) =
      ((answer folder t r).1 :: (answerAll folder (answer folder t r).2 rs).1,
        (answerAll folder (answer folder t r).2 rs).2) := rfl

/-- What every answer keeps of a tree is kept by any requests. -/
theorem answerAll_keeps {P : FileTree → Prop} (hstep : ∀ u r, P u → P (answer folder u r).2) (h : P t)
    (rs : List Request) : P (answerAll folder t rs).2 := by
  induction rs generalizing t with
  | nil => exact h
  | cons r rs ih =>
    simp only [answerAll_cons]
    exact ih (hstep t r h)

/-- Answering requests makes a tree grow. -/
theorem grows_answerAll (hhere : Location.Proper t.here) (folder : Text) (rs : List Request) :
    FileTree.Grows t (answerAll folder t rs).2 := by
  apply answerAll_keeps (P := FileTree.Grows t)
  · intro u r hgrows
    exact hgrows.trans (grows_answer (hgrows.proper_here hhere) folder r)
  · exact .refl t

end Server

end Stencil
