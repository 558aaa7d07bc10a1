import Stencil.Proofs.Server.Answer

/-!
# Stored templates

The folder of the server is a store of templates. A text stored under a name is the one rendered when
the name is asked for, until a text is stored under a name for the same path. The name stands for that
path all along: before its file is there, where only its folder can be followed, and from then on.
-/

namespace Stencil

namespace Server

variable {folder path name text : Text} {t u : FileTree} {r put post : Request} {rs : List Request}
  {order : Order} {found : Named}

/-! ## What others store -/

/-- Requests of which none stores a text at a path. -/
def Spares (folder path : Text) : FileTree → List Request → Prop
  | _, [] => True
  | t, r :: rs =>
    (∀ name text found, r.Stores name text → (answer folder t r).1.status = 201 →
      Named.find t folder name = .ok found → found.path ≠ path) ∧
    Spares folder path (answer folder t r).2 rs

/-- A file stays as it is when a text is stored at another path, or none is. -/
theorem at?_answer_of_path_ne (hhere : Location.Proper t.here) (hslash : found.slash = false)
    (h : ∀ name text other, r.Stores name text → (answer folder t r).1.status = 201 →
      Named.find t folder name = .ok other → other.path ≠ found.path) :
    (answer folder t r).2.at? found.location = t.at? found.location := by
  rcases answer_eq_or_written hhere folder r with
    htree | ⟨hstatus, name, text, other, hstores, hwritten⟩
  · rw [htree]
  · have hpath := h name text other hstores hstatus hwritten.find
    apply hwritten.at?_of_ne
    intro hlocation
    apply hpath
    simp only [Named.path, hslash, hwritten.slash, hlocation]

/-- Requests that spare a path leave what is at its location. -/
theorem Spares.at?_answerAll (hhere : Location.Proper t.here) (hslash : found.slash = false)
    (h : Spares folder found.path t rs) :
    (answerAll folder t rs).2.at? found.location = t.at? found.location := by
  induction rs generalizing t with
  | nil => rfl
  | cons r rs ih =>
    obtain ⟨hother, hrest⟩ := h
    have hgrows := grows_answer hhere folder r
    rw [answerAll_cons, ih (hgrows.proper_here hhere) hrest,
      at?_answer_of_path_ne hhere hslash hother]

/-! ## What a stored text is rendered to -/

/-- The text that was stored under a name is the one of the name while its file holds it. -/
theorem Written.templateText (h : Written t folder name text found u)
    (hhere : Location.Proper t.here) {v : FileTree} (hgrows : FileTree.Grows t v)
    (hfile : v.at? found.location = some (.file (Text.bytes text))) :
    templateText v folder name = .ok text := by
  have hfind := Named.find_grows hgrows h.find h.slash
  have hroute : found.route = found.location.route := by
    simp [Named.route, Location.route, h.slash]
  have hlocate : v.locate found.location.route = .ok found.location :=
    h.vacant.locate (Named.proper_of_find hhere h.find) h.ne_nil (by simp [hfile]) hgrows
  have hread : v.readText found.route = .ok text := by
    simp [FileTree.readText, FileTree.read, hroute, hlocate, hfile]
  simp only [Server.templateText, hfind, bind, Except.bind, hread]

end Server

end Stencil
