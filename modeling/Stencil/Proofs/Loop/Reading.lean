import Stencil.Loop
import Stencil.Proofs.Text.Cut

/-!
# Reading loops

A loop can be read without trying alternatives: each part ends at the first closing delimiter, and a
block ends where the white space before its closing delimiter first breaks the line. `Loop.scan`
reads a template so, from one line to the next. `blockOf?_eq_some` and `blockOf?_eq_none` say that
the end it gives a block is the first one possible.
-/

namespace Stencil

namespace Loop

/-- What a loop says, and the text after it. -/
structure Reading where
  /-- The number of spaces and tabs before its tag. -/
  offset : Nat
  /-- The text of its tag. -/
  name : Text
  /-- The text of its second tag, if it has one. -/
  joiner : Option Text
  /-- The text between the line breaks inside the delimiters of its block. -/
  block : Text
  /-- The text after its closing delimiter. -/
  after : Text

/-- The joiner where another tag follows at once, and what follows it. -/
def joinerAhead? (tag : Pair) (t : Text) : Option (Option Text × Text) :=
  if tag.opening.isPrefixOf t then
    (tag.enclosed? t).map fun (joiner, after) => (some joiner, after)
  else some (none, t)

/-- The block in the text before a closing delimiter: it ends at the first line break in the white
space at the end, of which there must be one. -/
def blockOf? (region : Text) : Option Text :=
  let space := region.drop region.trimEnd.length
  if '\n' ∈ space then
    let line := region.trimEnd ++ space.takeWhile (· != '\n')
    some ((Text.stripSuffix? ['\r'] line).getD line)
  else none

/-- Read a loop at the start of a line. -/
def read? (tag body : Pair) (t : Text) : Option Reading := do
  let indent := t.takeWhile CharSet.blank.accepts
  let (name, afterName) ← tag.enclosed? (t.drop indent.length)
  let (joiner, afterTags) ← joinerAhead? tag afterName
  let opened ← Text.stripPrefix? body.opening (afterTags.dropWhile Text.isSpace)
  let inside ← Text.afterLineBreak? opened
  let (region, after) ← Text.upTo? body.closing inside
  let block ← blockOf? region
  some ⟨indent.length, name, joiner, block, after⟩

/-- The loop read from the text at a position. -/
def ofReading (vars : Variables) (position : Nat) (t : Text) (r : Reading) : Loop where
  start := position
  stop := position + (t.length - r.after.length)
  name := r.name
  elements := elementsOf vars r.name
  block := r.block
  offset := r.offset
  joiner := r.joiner.getD standardJoiner

/-- The loops read from a position on. The next `skip` characters belong to the loop before, and
after them each start of a line is tried. -/
def scanFrom (vars : Variables) (tag body : Pair) :
    (position : Nat) → (lineStart : Bool) → (skip : Nat) → Text → List Loop
  | _, _, _, [] => []
  | position, _, skip + 1, c :: rest =>
    scanFrom vars tag body (position + 1) (c == '\n') skip rest
  | position, lineStart, 0, c :: rest =>
    match if lineStart then read? tag body (c :: rest) else none with
    | none => scanFrom vars tag body (position + 1) (c == '\n') 0 rest
    | some r =>
      ofReading vars position (c :: rest) r ::
        scanFrom vars tag body (position + 1) (c == '\n') (rest.length - r.after.length) rest

/-- The loops of a template, read from top to bottom. -/
def scan (template : Text) (vars : Variables) (tag body : Pair) : List Loop :=
  scanFrom vars tag body 0 true 0 template

/-! ## Where a block ends -/

section Region

variable {region : Text}

private theorem region_eq (region : Text) :
    ∃ space, space.isBlank = true ∧ region = region.trimEnd ++ space ∧
      region.drop region.trimEnd.length = space := by
  obtain ⟨space, hspace, hregion⟩ := Text.exists_trimEnd_append region
  refine ⟨space, hspace, hregion, ?_⟩
  have hdrop := congrArg (List.drop region.trimEnd.length) hregion
  rwa [List.drop_left] at hdrop

private theorem length_le_of_getElem? {space : Text} {n : Nat}
    (hregion : region = region.trimEnd ++ space) (hn : region.trimEnd.length ≤ n)
    (h : region[n]? = some '\n') :
    (region.trimEnd ++ space.takeWhile (· != '\n')).length ≤ n := by
  -- Before that place stand the text and its last line, and the line holds no line feed.
  by_contra hlt
  have hline : (region.trimEnd ++ space.takeWhile (· != '\n'))[n]? = some '\n' := by
    have hsplit : region = (region.trimEnd ++ space.takeWhile (· != '\n')) ++
        space.dropWhile (· != '\n') := by
      rw [List.append_assoc, List.takeWhile_append_dropWhile, ← hregion]
    rw [hsplit, List.getElem?_append_left (Nat.not_le.mp hlt)] at h
    exact h
  rw [List.getElem?_append_right hn] at hline
  have hne := List.mem_takeWhile_imp (List.mem_of_getElem? hline)
  simp at hne

/-- The block ends where an ending follows, and at the first such place. -/
theorem blockOf?_eq_some {block : Text} (h : blockOf? region = some block) :
    (∃ e, Text.Ending e ∧ region = block ++ e) ∧
      ∀ n < block.length, ¬ Text.Ending (region.drop n) := by
  obtain ⟨space, hspace, hregion, hdrop⟩ := region_eq region
  simp only [blockOf?, hdrop, Option.ite_none_right_eq_some, Option.some.injEq] at h
  obtain ⟨hmem, hblock⟩ := h
  obtain ⟨early, late, hsplit, hnot⟩ := List.eq_append_cons_of_mem hmem
  have htake : space.takeWhile (· != '\n') = early := by
    rw [hsplit, List.takeWhile_append_of_pos, List.takeWhile_cons_of_neg (by simp),
      List.append_nil]
    intro c hc
    simpa using fun he : c = '\n' => hnot (he ▸ hc)
  have hlate : Text.isBlank late = true := by
    rw [hsplit, Text.isBlank_append] at hspace
    exact Text.isBlank_iff.mpr fun c hc =>
      Text.isBlank_iff.mp hspace.2 c (List.mem_cons_of_mem _ hc)
  have hline : region = (region.trimEnd ++ early) ++ '\n' :: late := by
    rw [List.append_assoc, ← hsplit, ← hregion]
  -- Every ending breaks the line at or after the end of `region.trimEnd ++ early`.
  have hlong (n : Nat) (he : Text.Ending (region.drop n)) : (region.trimEnd ++ early).length ≤ n ∨
      (region.trimEnd ++ early).length ≤ n + 1 ∧ region[n]? = some '\r' := by
    have hn := Text.length_trimEnd_le he.isBlank
    rw [← htake]
    rcases he.getElem? with hbreak | ⟨hreturn, hbreak⟩
    · exact .inl (length_le_of_getElem? hregion hn hbreak)
    · exact .inr ⟨length_le_of_getElem? hregion (Nat.le_succ_of_le hn) hbreak, hreturn⟩
  rw [htake] at hblock
  by_cases hreturn : ∃ line, region.trimEnd ++ early = line ++ ['\r']
  · obtain ⟨line, hend⟩ := hreturn
    have hstrip : Text.stripSuffix? ['\r'] (region.trimEnd ++ early) = some line :=
      Text.stripSuffix?_eq_some_iff.mpr hend
    rw [hstrip, Option.getD_some] at hblock
    subst hblock
    refine ⟨⟨'\r' :: '\n' :: late, ⟨late, rfl, hlate⟩, ?_⟩, ?_⟩
    · rw [hline, hend, List.append_assoc, List.singleton_append]
    · intro n hn he
      have hlength : (region.trimEnd ++ early).length = line.length + 1 := by
        rw [hend, List.length_append, List.length_singleton]
      rcases hlong n he with hle | ⟨hle, _⟩ <;> omega
  · have hstrip : Text.stripSuffix? ['\r'] (region.trimEnd ++ early) = none :=
      Option.eq_none_iff_forall_ne_some.mpr fun line hs =>
        hreturn ⟨line, Text.stripSuffix?_eq_some_iff.mp hs⟩
    rw [hstrip, Option.getD_none] at hblock
    subst hblock
    refine ⟨⟨'\n' :: late, ⟨late, rfl, hlate⟩, hline⟩, ?_⟩
    intro n hn he
    rcases hlong n he with hle | ⟨hle, hr⟩
    · omega
    · have hn1 : n + 1 = (region.trimEnd ++ early).length := by omega
      rw [hline, List.getElem?_append_left hn] at hr
      refine hreturn ⟨(region.trimEnd ++ early).take n, ?_⟩
      have hlast := List.take_add_one (l := region.trimEnd ++ early) (i := n)
      rw [hr, hn1, List.take_length] at hlast
      exact hlast

/-- Where no block is found, no ending stands anywhere. -/
theorem blockOf?_eq_none (h : blockOf? region = none) (n : Nat) :
    ¬ Text.Ending (region.drop n) := by
  intro he
  obtain ⟨space, hspace, hregion, hdrop⟩ := region_eq region
  have hnot : '\n' ∉ space := by simpa [blockOf?, hdrop] using h
  have hn := Text.length_trimEnd_le he.isBlank
  have hmem (m : Nat) (hm : region.trimEnd.length ≤ m) (hbreak : region[m]? = some '\n') :
      False := by
    rw [hregion, List.getElem?_append_right hm] at hbreak
    exact hnot (List.mem_of_getElem? hbreak)
  rcases he.getElem? with hbreak | ⟨_, hbreak⟩
  · exact hmem n hn hbreak
  · exact hmem (n + 1) (Nat.le_succ_of_le hn) hbreak

end Region

end Loop

end Stencil
