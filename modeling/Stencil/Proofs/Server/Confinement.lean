import Stencil.Proofs.Server.Answer

/-!
# Confinement to one folder

The server stays in its folder. Whatever is asked for, in whatever order, files that are not below the
folder stay as they are, and no response depends on what they hold: on trees that are alike but for
such files, the responses are the same. A request changes at most the file that its name stands for,
whose path is that of the folder with names after it.
-/

namespace Stencil

open FilePath

namespace Server

variable {folder name text : Text} {base p : Location} {t u : FileTree} {r : Request}

/-! ## What is written -/

/-- Answering a request changes nothing outside the folder. -/
theorem at?_answer (hhere : Location.Proper t.here) (hbase : t.locate (t.route folder) = .ok base)
    (hp : ¬ base.Below p) (r : Request) : (answer folder t r).2.at? p = t.at? p := by
  rcases answer_eq_or_written hhere folder r with htree | ⟨_, _, _, found, _, hwritten⟩
  · rw [htree]
  · have hbelow := Named.below_of_find hbase hwritten.find
    apply hwritten.at?_of_ne
    rintro rfl
    exact hp hbelow

/-- Answering requests changes nothing outside the folder. -/
theorem at?_answerAll (hhere : Location.Proper t.here)
    (hbase : t.locate (t.route folder) = .ok base) (hp : ¬ base.Below p) (rs : List Request) :
    (answerAll folder t rs).2.at? p = t.at? p := by
  -- The folder stays where it is while the tree grows, so both are kept together.
  have hkept : FileTree.Grows t (answerAll folder t rs).2 ∧
      (answerAll folder t rs).2.at? p = t.at? p := by
    apply answerAll_keeps (P := fun u => FileTree.Grows t u ∧ u.at? p = t.at? p)
    · rintro u r ⟨hgrows, hsame⟩
      have hhere' := hgrows.proper_here hhere
      refine ⟨hgrows.trans (grows_answer hhere' folder r), ?_⟩
      rw [at?_answer hhere' (hgrows.locate_route hbase) hp, hsame]
    · exact ⟨.refl t, rfl⟩
  exact hkept.2

/-- A request changes at most the file that the name stands for under which it stores a text. -/
theorem stores_of_at?_ne (hhere : Location.Proper t.here)
    (h : (answer folder t r).2.at? p ≠ t.at? p) : ∃ name text found, r.Stores name text ∧
      Named.find t folder name = .ok found ∧ p = found.location := by
  rcases answer_eq_or_written hhere folder r with htree | ⟨_, name, text, found, hstores, hwritten⟩
  · exact absurd (by rw [htree]) h
  · refine ⟨name, text, found, hstores, hwritten.find, ?_⟩
    by_contra hne
    exact h (hwritten.at?_of_ne hne)

/-! ## What is read -/

/-- The text of a template is the same in trees that are alike. -/
theorem templateText_alike (hhere : Location.Proper t.here)
    (hbase : t.locate (t.route folder) = .ok base) (h : FileTree.Alike base t u) (name : Text) :
    templateText u folder name = templateText t folder name := by
  unfold templateText
  rw [Named.find_alike h]
  cases hfind : Named.find t folder name with
  | error e => rfl
  | ok found =>
    have hread : u.readText found.route = t.readText found.route := by
      apply h.readText
      intro p hlocate
      rw [Named.eq_of_locate_route (Named.proper_of_find hhere hfind) hlocate]
      exact Named.below_of_find hbase hfind
    simp only [bind, Except.bind, hread]

/-- A request to render is answered alike in trees that are alike. -/
theorem answerRender_alike (hhere : Location.Proper t.here)
    (hbase : t.locate (t.route folder) = .ok base) (h : FileTree.Alike base t u) (r : Request) :
    answerRender u folder r = answerRender t folder r := by
  simp only [answerRender, rendered, templateText_alike hhere hbase h]

/-- A new template has the same place in trees that are alike. -/
theorem place_alike (h : FileTree.Alike base t u) (folder name : Text) :
    place u folder name = place t folder name := by
  simp only [place, Named.find_alike h, h.target]

/-- A request to store is answered alike in trees that are alike, and leaves them alike. -/
theorem answerStore_alike (h : FileTree.Alike base t u) (folder written : Text) (r : Request) :
    (answerStore u folder written r).1 = (answerStore t folder written r).1 ∧
      FileTree.Alike base (answerStore t folder written r).2 (answerStore u folder written r).2 := by
  unfold answerStore
  cases nameOf? written with
  | none => exact ⟨rfl, h⟩
  | some name =>
    cases Text.ofBytes? r.body with
    | none => exact ⟨rfl, h⟩
    | some text =>
      simp only [stored_eq, place_alike h]
      cases place t folder name with
      | error e => exact ⟨rfl, h⟩
      | ok p => exact ⟨rfl, h.put p _⟩

/-- On alike trees a request is answered alike, and the trees stay alike. -/
theorem answer_alike (hhere : Location.Proper t.here)
    (hbase : t.locate (t.route folder) = .ok base) (h : FileTree.Alike base t u) (r : Request) :
    (answer folder u r).1 = (answer folder t r).1 ∧
      FileTree.Alike base (answer folder t r).2 (answer folder u r).2 := by
  rcases answer_dispatch folder r with ⟨response, _, heq⟩ | heq | ⟨written, _, _, heq⟩
  · rw [heq, heq]
    exact ⟨rfl, h⟩
  · rw [heq, heq, answerRender_alike hhere hbase h]
    exact ⟨rfl, h⟩
  · rw [heq, heq]
    exact answerStore_alike h folder written r

/-- Requests are answered alike in trees that are alike. -/
theorem answerAll_alike (hhere : Location.Proper t.here)
    (hbase : t.locate (t.route folder) = .ok base) (h : FileTree.Alike base t u)
    (rs : List Request) : (answerAll folder u rs).1 = (answerAll folder t rs).1 := by
  induction rs generalizing t u with
  | nil => rfl
  | cons r rs ih =>
    have hgrows := grows_answer hhere folder r
    obtain ⟨hresponse, halike⟩ := answer_alike hhere hbase h r
    simp only [answerAll_cons, hresponse,
      ih (hgrows.proper_here hhere) (hgrows.locate_route hbase) halike]

/-! ## Confinement -/

/-- After any requests, every name that stands for a file stands for one below the folder, and its path
is that of the folder with names after it. Nothing changes that is not below the folder, the next
request changes at most the one file that its name stands for, and what files hold that are not below
the folder makes no difference to any response. All that is asked of the tree is that the folder is
there and that the way to the current one goes through names. -/
theorem answerAll_confined (hhere : Location.Proper t.here)
    (hbase : t.locate (t.route folder) = .ok base) (rs : List Request) :
    (∀ name found, Named.find (answerAll folder t rs).2 folder name = .ok found →
      ∃ names, names ≠ [] ∧ found.location = base ++ names ∧ (∀ n ∈ base ++ names, IsName n) ∧
        parts base.path = .root :: base.map .name ∧
        parts found.path = .root :: (base ++ names).map .name) ∧
    (∀ p, ¬ base.Below p → (answerAll folder t rs).2.at? p = t.at? p) ∧
    (∀ r p, (answer folder (answerAll folder t rs).2 r).2.at? p ≠ (answerAll folder t rs).2.at? p →
      ∃ name text found, r.Stores name text ∧
        Named.find (answerAll folder t rs).2 folder name = .ok found ∧ p = found.location) ∧
    ∀ u, FileTree.Alike base t u → (answerAll folder u rs).1 = (answerAll folder t rs).1 := by
  have hgrows := grows_answerAll hhere folder rs
  have hhere' := hgrows.proper_here hhere
  refine ⟨?_, ?_, ?_, ?_⟩
  · intro name found hfind
    have hproper := Named.proper_of_find hhere' hfind
    obtain ⟨names, hne, hlocation⟩ := Named.below_of_find (hgrows.locate_route hbase) hfind
    refine ⟨names, hne, hlocation, hlocation ▸ hproper, ?_, ?_⟩
    · exact Location.parts_path (FileTree.proper_of_locate hhere hbase)
    · rw [Named.parts_path hproper, hlocation]
  · intro p hp
    exact at?_answerAll hhere hbase hp rs
  · intro r p hchanged
    exact stores_of_at?_ne hhere' hchanged
  · intro u halike
    exact answerAll_alike hhere hbase halike rs

/-- A folder with a file beside it. -/
def treeBesideKey : FileTree :=
  { nodes := [(["key".toList], .file (Text.bytes "1".toList)), (["lib".toList], .folder)] }

/-- Requests to write and to render the file beside the folder, and to store a file in the folder. -/
def climbingRequests : List Request :=
  [.put "..%2Fkey".toList "2".toList, .put "a".toList "3".toList,
    .post "\x7b\"template\": \"/\\\\/key\"\x7d".toList]

/-- The file beside the folder is neither written nor rendered; the one in the folder is stored. -/
theorem answerAll_confined_climbing :
    Location.Proper treeBesideKey.here ∧
    treeBesideKey.locate (treeBesideKey.route "lib".toList) = .ok ["lib".toList] ∧
    (answerAll "lib".toList treeBesideKey climbingRequests).1.map Response.status =
      [400, 201, 400] ∧
    (answerAll "lib".toList treeBesideKey climbingRequests).2.at? ["key".toList] =
      treeBesideKey.at? ["key".toList] ∧
    (answerAll "lib".toList (treeBesideKey.put ["key".toList] (.file (Text.bytes "4".toList)))
      climbingRequests).1 = (answerAll "lib".toList treeBesideKey climbingRequests).1 := by
  have hhere : Location.Proper treeBesideKey.here := nofun
  have hbase : treeBesideKey.locate (treeBesideKey.route "lib".toList) = .ok ["lib".toList] := by
    decide
  have hbeside : ¬ Location.Below ["lib".toList] ["key".toList] := by
    rw [Location.below_iff]
    decide
  obtain ⟨_, houtside, _, halike⟩ := answerAll_confined hhere hbase climbingRequests
  refine ⟨hhere, hbase, by decide +kernel, houtside _ hbeside, halike _ ?_⟩
  exact FileTree.alike_put rfl hbeside _

end Server

end Stencil
