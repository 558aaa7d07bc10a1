import Stencil.Expansion
import Stencil.Json
import Stencil.Proofs.Alignment.Shift
import Stencil.Proofs.Json.Control
import Stencil.Proofs.Loop.LineEnding

/-!
# Expansion and line endings

Writing out the loops of a template goes along with the choice of its line endings: a carriage
return before each line feed counts as white space but not as indentation, it goes with the line
break that a joiner ends in, and the line break between iterations is the one that the loop's own
text uses.
-/

namespace Stencil

open Stencil.Alignment Text

/-! ## Alignment -/

namespace Alignment

private theorem indentation_append_return (line : Text) :
    indentation (line ++ ['\r']) = indentation line :=
  indentation_append (by decide) line []

private theorem isBlank_append_return (line : Text) : isBlank (line ++ ['\r']) = isBlank line := by
  have hreturn : isBlank ['\r'] = true := by decide
  rw [isBlank, List.all_append, ← isBlank, ← isBlank, hreturn, Bool.and_true]

/-- The first line that is not blank is the same one. -/
theorem contentIndentation?_crlf (t : Text) :
    contentIndentation? (crlf t) = contentIndentation? t := by
  rw [contentIndentation?, contentIndentation?, lines_crlf]
  induction lines t with
  | nil => rfl
  | cons line ls ih =>
    cases ls with
    | nil => rfl
    | cons next more =>
      rw [withReturns, List.find?_cons, List.find?_cons, isBlank_append_return]
      split
      · rw [Option.map_some, Option.map_some, indentation_append_return]
      · exact ih

private theorem map_withReturns {f : Text → Text}
    (hf : ∀ line, f (line ++ ['\r']) = f line ++ ['\r']) (ls : List Text) :
    (withReturns ls).map f = withReturns (ls.map f) := by
  induction ls with
  | nil => rfl
  | cons line ls ih =>
    cases ls with
    | nil => rfl
    | cons next more => rw [withReturns, List.map_cons, hf, ih]; rfl

/-- A change of lines that keeps what ends them goes along with the line endings. -/
theorem mapLines_crlf {f : Text → Text} (hf : ∀ line, f (line ++ ['\r']) = f line ++ ['\r'])
    (hfeed : ∀ line, '\n' ∉ line → '\n' ∉ f line) (t : Text) :
    mapLines f (crlf t) = crlf (mapLines f t) := by
  rw [mapLines, mapLines, lines_crlf, map_withReturns, unlines_withReturns]
  · exact fun _ => lineFeed_notMem_onContent hfeed
  · intro line
    simp only [isBlank_append_return]
    split
    · rfl
    · exact hf line

private theorem strip_append_return (count : Nat) (line : Text) :
    strip count (line ++ ['\r']) = strip count line ++ ['\r'] := by
  induction line generalizing count with
  | nil => cases count <;> rfl
  | cons c line ih =>
    cases count with
    | zero => rfl
    | succ count =>
      rw [List.cons_append, strip, strip]
      split
      · exact ih count
      · rfl

private theorem shift_append_return (own column : Nat) (line : Text) :
    shift own column (line ++ ['\r']) = shift own column line ++ ['\r'] := by
  rw [shift, strip_append_return, padLine, ← List.append_assoc, ← padLine, ← shift]

end Alignment

/-- A text with its line endings written out is moved to a column in the same way. -/
theorem align_crlf (t : Text) (column : Nat) (policy : Shortfall) :
    align (crlf t) column policy = (align t column policy).map crlf := by
  rw [align_eq, align_eq, contentIndentation?_crlf]
  cases contentIndentation? t with
  | none => rfl
  | some own =>
    have hshift : mapLines (shift own column) (crlf t) = crlf (mapLines (shift own column) t) :=
      mapLines_crlf (shift_append_return own column)
        (fun _ => (lineFeed_mem_shift own column).not.mpr) t
    simp only [hshift]
    split
    · rfl
    · split
      · rfl
      · rfl

/-! ## Iterations -/

variable {pair tag body : Pair} {policy : Shortfall} {template : Text} {vars : Variables}

/-- Names on one line are renamed in the `crlf` form of a text as in the text. -/
theorem renameTokens_crlf (hp : Delimiters.pairFault? pair = none) {renames : List (Text × Text)}
    (h : ∀ r ∈ renames, '\n' ∉ r.1 ∧ '\n' ∉ r.2) (t : Text) :
    renameTokens pair renames (crlf t) = crlf (renameTokens pair renames t) := by
  induction renames generalizing t with
  | nil => rfl
  | cons r renames ih =>
    obtain ⟨⟨hold, hnew⟩, hrest⟩ := List.forall_mem_cons.mp h
    have hone := Pair.replace_wrap_crlf hp hold ((Pair.lineFeed_mem_wrap hp).not.mpr hnew) t
    rw [renameTokens_cons, renameTokens_cons, hone, ih hrest]

/-- The name of an iteration is on one line if the names that it is made of are. -/
theorem lineFeed_notMem_iterationName {loop key : Text} (hloop : '\n' ∉ loop) (hkey : '\n' ∉ key)
    (index : Nat) : '\n' ∉ iterationName loop key index := by
  have hindex := (controlFree_ofNat index).lineFeed_notMem
  simp [iterationName, hloop, hkey, hindex]

namespace Loop

variable {l l' : Loop}

private theorem lineFeed_notMem_renames (hname : '\n' ∉ l.name) {element : Variables}
    (hkeys : ∀ entry ∈ element, '\n' ∉ entry.1) (index : Nat) :
    ∀ r ∈ l.renames element index, '\n' ∉ r.1 ∧ '\n' ∉ r.2 := by
  have hkeys (key : Text) (hkey : key ∈ Dictionary.keys element) : '\n' ∉ key := by
    obtain ⟨entry, hentry, rfl⟩ := List.mem_map.mp hkey
    exact hkeys entry hentry
  intro r hr
  rcases List.mem_append.mp hr with hr | hr
  · obtain ⟨key, hkey, rfl⟩ := List.mem_map.mp hr
    exact ⟨hkeys key hkey, lineFeed_notMem_iterationName hname (hkeys key hkey) index⟩
  · obtain ⟨key, hkey, rfl⟩ := List.mem_map.mp hr
    have hkey := hkeys key (List.mem_filter.mp hkey).1
    refine ⟨?_, lineFeed_notMem_iterationName hname hkey index⟩
    simp [qualifiedName, hname, hkey]

/-- An iteration of a block with its line endings written out. -/
theorem iteration_crlf (hp : Delimiters.pairFault? pair = none) (hname : l'.name = l.name)
    (hoffset : l'.offset = l.offset) (hblock : l'.block = crlf l.block) (hfeed : '\n' ∉ l.name)
    {element : Variables} (hkeys : ∀ entry ∈ element, '\n' ∉ entry.1) (index : Nat) :
    l'.iteration pair policy element index =
      (l.iteration pair policy element index).map crlf := by
  have hrenames : l'.renames element index = l.renames element index := by
    rw [renames, renames, hname]
  rw [iteration, iteration, hrenames, hblock, hoffset, hname,
    renameTokens_crlf hp (lineFeed_notMem_renames hfeed hkeys index), align_crlf]
  cases align (renameTokens pair (l.renames element index) l.block) l.offset policy with
  | ok t => simp only [Except.map, trimEnd_crlf]
  | error own => rfl

private theorem iterationsFrom_crlf (hp : Delimiters.pairFault? pair = none)
    (hname : l'.name = l.name) (hoffset : l'.offset = l.offset) (hblock : l'.block = crlf l.block)
    (hfeed : '\n' ∉ l.name) {elements : List Variables}
    (hkeys : ∀ element ∈ elements, ∀ entry ∈ element, '\n' ∉ entry.1) (index : Nat) :
    l'.iterationsFrom pair policy index elements =
      (l.iterationsFrom pair policy index elements).map (List.map crlf) := by
  induction elements generalizing index with
  | nil => rfl
  | cons element elements ih =>
    obtain ⟨helement, hrest⟩ := List.forall_mem_cons.mp hkeys
    rw [iterationsFrom, iterationsFrom, iteration_crlf hp hname hoffset hblock hfeed helement,
      ih hrest]
    cases l.iteration pair policy element index with
    | error e => rfl
    | ok t => cases l.iterationsFrom pair policy (index + 1) elements <;> rfl

end Loop

/-! ## Line breaks between iterations -/

/-- A text without carriage returns breaks its lines with line feeds. -/
theorem lineBreakOf_of_return_notMem {t : Text} (h : '\r' ∉ t) : lineBreakOf t = ['\n'] := by
  refine if_neg fun hcontains => h ?_
  exact (contains_iff_isInfix.mp hcontains).subset List.mem_cons_self

/-- The `crlf` form of a text of several lines breaks them with carriage returns and line feeds. -/
theorem lineBreakOf_crlf {t : Text} (h : '\n' ∈ t) : lineBreakOf (crlf t) = ['\r', '\n'] := by
  obtain ⟨before, after, rfl⟩ := List.append_of_mem h
  refine if_pos (contains_iff_isInfix.mpr ?_)
  exact ⟨crlf before, crlf after, by rw [crlf_append, crlf_lineFeed, List.append_assoc]; rfl⟩

/-- The line break at the end of a joiner is taken away as a whole. -/
theorem withoutLineBreak_crlf {joiner : Text} (h : '\r' ∉ joiner) :
    withoutLineBreak (crlf joiner) = crlf (withoutLineBreak joiner) := by
  cases hstrip : stripSuffix? ['\n'] joiner with
  | none =>
    have hnone : stripSuffix? ['\n'] (crlf joiner) = none := by
      refine Option.eq_none_iff_forall_ne_some.mpr fun line hline => ?_
      have hlast : joiner.getLast? = some '\n' := by
        rw [← getLast?_crlf, stripSuffix?_eq_some_iff.mp hline, List.getLast?_concat]
      obtain ⟨more, hmore⟩ := List.getLast?_eq_some_iff.mp hlast
      rw [stripSuffix?_eq_some_iff.mpr hmore] at hstrip
      exact nomatch hstrip
    rw [withoutLineBreak, withoutLineBreak, hstrip, hnone]
  | some line =>
    obtain rfl := stripSuffix?_eq_some_iff.mp hstrip
    have hline : stripSuffix? ['\r'] line = none := by
      refine Option.eq_none_iff_forall_ne_some.mpr fun more hmore => h ?_
      rw [stripSuffix?_eq_some_iff.mp hmore]
      simp
    have hcrlf : stripSuffix? ['\n'] (crlf (line ++ ['\n'])) = some (crlf line ++ ['\r']) := by
      refine stripSuffix?_eq_some_iff.mpr ?_
      rw [crlf_append, crlf_lineFeed, List.append_assoc]
      rfl
    have hreturn : stripSuffix? ['\r'] (crlf line ++ ['\r']) = some (crlf line) :=
      stripSuffix?_eq_some_iff.mpr rfl
    rw [withoutLineBreak, withoutLineBreak, hstrip, hcrlf]
    simp only [hline, hreturn, Option.getD_none, Option.getD_some]

/-! ## Variables -/

/-- Variables of which no name and no scalar has a line feed in its text, among them or in a map of
one of their lists. -/
structure Variables.OneLine (vars : Variables) : Prop where
  key : ∀ entry ∈ vars, '\n' ∉ entry.1
  scalar : ∀ entry ∈ vars, entry.2.isScalar = true → '\n' ∉ entry.2.display
  element_key : ∀ name items entries, (name, .list items) ∈ vars → .map entries ∈ items →
    ∀ entry ∈ entries, '\n' ∉ entry.1
  element_scalar : ∀ name items entries, (name, .list items) ∈ vars → .map entries ∈ items →
    ∀ entry ∈ entries, entry.2.isScalar = true → '\n' ∉ entry.2.display

namespace Loop

variable {l l' : Loop} {name : Text}

/-- No name with a line feed stands for anything. -/
theorem elementsOf_eq_nil_of_lineFeed (hv : vars.OneLine) (hname : '\n' ∈ name) :
    elementsOf vars name = [] := by
  refine elementsOf_eq_nil ?_
  rintro ⟨items, hfind, _⟩
  exact hv.key _ (Dictionary.mem_of_find?_eq_some hfind) hname

/-- A loop runs over the same whichever line endings its name has. -/
theorem elementsOf_crlf (hv : vars.OneLine) (name : Text) :
    elementsOf vars (crlf name) = elementsOf vars name := by
  by_cases hname : '\n' ∈ name
  · rw [elementsOf_eq_nil_of_lineFeed hv hname,
      elementsOf_eq_nil_of_lineFeed hv (lineFeed_mem_crlf.mpr hname)]
  · rw [crlf_eq_self hname]

/-- The entries of an element are of one line. -/
theorem oneLine_of_mem_elementsOf (hv : vars.OneLine) {element : Variables}
    (h : element ∈ elementsOf vars name) :
    ∀ entry ∈ element, '\n' ∉ entry.1 ∧ '\n' ∉ entry.2.display := by
  obtain ⟨items, entries, hitems, hentries, rfl⟩ := exists_of_mem_elementsOf h
  intro entry hentry
  obtain ⟨hentry, hscalar⟩ := List.mem_filter.mp hentry
  exact ⟨hv.element_key _ _ _ hitems hentries entry hentry,
    hv.element_scalar _ _ _ hitems hentries entry hentry hscalar⟩

namespace Beside

/-- A loop of the `crlf` form begins at the position that its beginning has moved to. -/
theorem start_eq (h : Beside vars tag body template l l') :
    l'.start = crlfPosition template l.start := by
  obtain ⟨before, p, after, _, rfl, rfl, rfl⟩ := h
  exact (crlfPosition_length_append _ _).symm

/-- A loop of the `crlf` form ends at the position that its end has moved to. -/
theorem stop_eq (ht : Delimiters.pairFault? tag = none) (hb : Delimiters.pairFault? body = none)
    (h : Beside vars tag body template l l') : l'.stop = crlfPosition template l.stop := by
  obtain ⟨before, p, after, _, rfl, rfl, rfl⟩ := h
  simp only [Parts.toLoop]
  rw [crlfPosition_add, crlfPosition_length_append, List.drop_left, List.take_left,
    p.text_crlf ht hb]

/-- Both loops give their entries the same names. -/
theorem bindings_eq (hv : vars.OneLine) (h : Beside vars tag body template l l') :
    l'.bindings = l.bindings := by
  obtain ⟨before, p, after, _, _, rfl, rfl⟩ := h
  have helements := elementsOf_crlf hv p.name
  by_cases hname : '\n' ∈ p.name
  · have hnil := elementsOf_eq_nil_of_lineFeed hv hname
    simp only [bindings, Parts.toLoop, Parts.crlf, helements, hnil]
    rfl
  · simp only [bindings, iterationBindings, Parts.toLoop, Parts.crlf, crlf_eq_self hname]

private theorem joint_eq {p : Parts} (hreturn : '\r' ∉ p.text tag body) :
    joint (p.crlf.joiner.getD standardJoiner) ['\r', '\n'] =
      crlf (joint (p.joiner.getD standardJoiner) ['\n']) := by
  rw [joint, joint, crlf_append]
  refine congrArg (· ++ ['\r', '\n']) ?_
  cases hjoiner : p.joiner with
  | none => simp only [Parts.crlf, hjoiner]; rfl
  | some joiner =>
    simp only [Parts.crlf, hjoiner, Option.map_some, Option.getD_some]
    refine withoutLineBreak_crlf fun hm => hreturn ?_
    simp [Parts.text, hjoiner, Pair.wrap, hm]

private theorem iterations_eq (hp : Delimiters.pairFault? pair = none) (hv : vars.OneLine)
    {p : Parts} (hparts : p.Valid tag body) (start start' : Nat) (policy : Shortfall) :
    (p.crlf.toLoop vars tag body start').iterations pair policy =
      ((p.toLoop vars tag body start).iterations pair policy).map (List.map crlf) := by
  have helements : elementsOf vars p.crlf.name = elementsOf vars p.name := elementsOf_crlf hv p.name
  rw [iterations, iterations, Parts.toLoop, Parts.toLoop, helements]
  by_cases hname : '\n' ∈ p.name
  · rw [elementsOf_eq_nil_of_lineFeed hv hname]
    rfl
  · refine iterationsFrom_crlf hp (crlf_eq_self hname) ?_ rfl hname ?_ 0
    · exact congrArg List.length hparts.indent_crlf
    · exact fun element helement entry hentry =>
        (oneLine_of_mem_elementsOf hv helement entry hentry).1

/-- Both loops are written out in the same way. -/
theorem expand_eq (hp : Delimiters.pairFault? pair = none) (ht : Delimiters.pairFault? tag = none)
    (hb : Delimiters.pairFault? body = none) (hv : vars.OneLine) (hreturn : '\r' ∉ template)
    (h : Beside vars tag body template l l') (policy : Shortfall) :
    l'.expand (lineBreakOf ((crlf template).between l'.start l'.stop)) pair policy =
      (l.expand (lineBreakOf (template.between l.start l.stop)) pair policy).map crlf := by
  rw [h.start_eq, h.stop_eq ht hb, between_crlf]
  obtain ⟨before, p, after, hparts, rfl, rfl, rfl⟩ := h
  have hspan : (before ++ (p.text tag body ++ after)).between before.length
      (before.length + (p.text tag body).length) = p.text tag body :=
    between_eq_of_drop_eq (List.drop_left ..) rfl
  have hreturn : '\r' ∉ p.text tag body := fun hm =>
    hreturn (List.mem_append_right _ (List.mem_append_left _ hm))
  have hiterations := iterations_eq hp hv hparts before.length (crlf before).length policy
  rw [Parts.toLoop, Parts.toLoop] at hiterations ⊢
  rw [hspan, lineBreakOf_crlf hparts.lineFeed_mem_text, lineBreakOf_of_return_notMem hreturn,
    expand, expand, hiterations]
  cases iterations _ pair policy with
  | error e => rfl
  | ok ts =>
    simp only [Except.map]
    rw [joint_eq hreturn, ← crlf_intercalate, trimEnd_crlf]

end Beside

end Loop

/-! ## Templates -/

private theorem expandFrom_crlf (hp : Delimiters.pairFault? pair = none)
    (ht : Delimiters.pairFault? tag = none) (hb : Delimiters.pairFault? body = none)
    (hv : vars.OneLine) (hreturn : '\r' ∉ template) (policy : Shortfall) {loops loops' : List Loop}
    (h : List.Forall₂ (Loop.Beside vars tag body template) loops loops') (position : Nat) :
    expandFrom (crlf template) pair policy (crlfPosition template position) loops' =
      (expandFrom template pair policy position loops).map crlf := by
  induction h generalizing position with
  | nil => rw [expandFrom, expandFrom, drop_crlf]; rfl
  | @cons l l' loops loops' hl _ ih =>
    have ih := ih l.stop
    rw [← hl.stop_eq ht hb] at ih
    rw [expandFrom, expandFrom, hl.expand_eq hp ht hb hv hreturn, ih]
    cases l.expand (lineBreakOf (template.between l.start l.stop)) pair policy with
    | error e => rfl
    | ok expansion =>
      cases expandFrom template pair policy l.stop loops with
      | error e => rfl
      | ok more =>
        simp only [Except.map, hl.start_eq, between_crlf, crlf_append]

variable {d : Delimiters} {c : Char}

/-- Writing out the loops of a template goes along with the choice of its line endings. -/
theorem expandLoops_crlf (hd : d.Usable) (hc : d.body.closing = [c]) (hv : vars.OneLine)
    (hreturn : '\r' ∉ template) (policy : Shortfall) :
    expandLoops (crlf template) (Loop.all (crlf template) vars d.tag d.body) d.token policy =
      (expandLoops template (Loop.all template vars d.tag d.body) d.token policy).map crlf := by
  obtain ⟨hp, ht, hb⟩ := hd.pairFault?
  exact expandFrom_crlf hp ht hb hv hreturn policy (Loop.forall₂_all ht hb hc hreturn vars) 0

/-- The flat variables are the same for both line endings. -/
theorem flatVariables_crlf (hd : d.Usable) (hc : d.body.closing = [c]) (hv : vars.OneLine)
    (hreturn : '\r' ∉ template) :
    flatVariables vars (Loop.all (crlf template) vars d.tag d.body) =
      flatVariables vars (Loop.all template vars d.tag d.body) := by
  obtain ⟨_, ht, hb⟩ := hd.pairFault?
  have hloops := Loop.forall₂_all ht hb hc hreturn vars
  rw [flatVariables, flatVariables]
  generalize Loop.all template vars d.tag d.body = loops at hloops ⊢
  generalize Loop.all (crlf template) vars d.tag d.body = loops' at hloops ⊢
  have hbindings : loops'.flatMap Loop.bindings = loops.flatMap Loop.bindings := by
    induction hloops with
    | nil => rfl
    | cons hl _ ih => rw [List.flatMap_cons, List.flatMap_cons, hl.bindings_eq hv, ih]
  rw [hbindings]

end Stencil
