import Stencil.Proofs.Scope.Lookup
import Stencil.Proofs.Scope.Stands

/-!
# Expansion by scope

Writing loops out with names of their own for each iteration and filling the tokens afterwards is
resolving each token in the scope where it stands. It takes that the text uses the opening delimiter
for tokens only, that no value or joiner brings it in, and that the names of iterations are taken
for nothing else; these names must not hold a delimiter either.
-/

namespace Stencil

open Dictionary

/-- The texts of a template outside its loops, from a position on. -/
def outsideFrom (template : Text) : Nat → List Loop → List Text
  | position, [] => [template.drop position]
  | position, l :: rest =>
    template.between position l.start :: outsideFrom template l.stop rest

/-- A template, its loops and its variables use the opening delimiter for tokens only, and names
hold no delimiter. -/
structure Clear (pair : Pair) (vars : Variables) (template : Text) (loops : List Loop) : Prop where
  /-- The delimiters can be told apart. -/
  distinct : pair.Distinct
  /-- The text outside the loops and the blocks are made of tokens and other characters. -/
  tokenized : ∀ t ∈ outsideFrom template 0 loops ++ loops.map Loop.block,
    Tokenized pair pair.Clean t
  /-- Names of variables hold no delimiter. -/
  variable_clean : ∀ entry ∈ vars, pair.Clean entry.1
  /-- Keys of elements hold no delimiter. -/
  key_clean : ∀ l ∈ loops, ∀ element ∈ l.elements, ∀ k ∈ keys element, pair.Clean k
  /-- Names of loops hold no delimiter. -/
  loop_clean : ∀ l ∈ loops, pair.Clean l.name
  /-- Joiners hold no character of the opening delimiter. -/
  joiner_notMem : ∀ l ∈ loops, ∀ c ∈ l.joiner, c ∉ pair.opening

/-- A result in text and one in pieces: the same error, or a text that stands for the pieces. -/
inductive Agrees (pair : Pair) (bindings : List (Text × Value)) :
    Except RenderError Text → Except RenderError (List Piece) → Prop
  /-- Both fail. -/
  | error (e : RenderError) : Agrees pair bindings (.error e) (.error e)
  /-- Both succeed. -/
  | ok {t : Text} {ps : List Piece} : Stands pair bindings t ps →
      Agrees pair bindings (.ok t) (.ok ps)

variable {pair : Pair} {vars : Variables} {template : Text} {loops : List Loop} {l : Loop}
  {element : Variables} {i : Nat} (policy : Shortfall)

/-! ## Clean names -/

private theorem clean_renamedTo {renames : List (Text × Text)} (h : ∀ r ∈ renames, pair.Clean r.2)
    {name : Text} (hn : pair.Clean name) : pair.Clean (renamedTo renames name) := by
  induction renames generalizing name with
  | nil => exact hn
  | cons r renames ih =>
    have hnext : pair.Clean (if name = r.1 then r.2 else name) := by
      split
      · exact h r List.mem_cons_self
      · exact hn
    exact ih (fun r' hr' => h r' (List.mem_cons_of_mem r hr')) hnext

/-- The names of iterations are clean. -/
def CleanIterations (pair : Pair) (loops : List Loop) : Prop :=
  ∀ l ∈ loops, ∀ i k, l.Binds k i → pair.Clean (iterationName l.name k i)

instance (pair : Pair) (loops : List Loop) : Decidable (CleanIterations pair loops) :=
  decidable_of_iff (∀ l ∈ loops, ∀ b ∈ l.boundKeys, pair.Clean (iterationName l.name b.1 b.2))
    (forall₂_congr fun l _ =>
      (Loop.forall_binds_iff (P := fun i k => pair.Clean (iterationName l.name k i))).symm)

private theorem clean_flatVariables (h : Clear pair vars template loops)
    (hi : CleanIterations pair loops) : ∀ b ∈ flatVariables vars loops, pair.Clean b.1 := by
  intro b hb
  rcases mem_insertAll hb with hb | hb
  · exact h.variable_clean b (List.mem_of_mem_filter hb)
  · obtain ⟨name, value⟩ := b
    obtain ⟨l, hl, i, element, helement, k, hk, rfl⟩ := mem_bindings_iff.mp
      ((mem_insertAll hb).resolve_right List.not_mem_nil)
    exact hi l hl i k ⟨element, helement, List.mem_map_of_mem hk⟩

private theorem clean_renames (h : Clear pair vars template loops)
    (hi : CleanIterations pair loops) (hl : l ∈ loops) (he : l.elements[i]? = some element) :
    ∀ r ∈ l.renames element i, pair.Clean r.1 ∧ pair.Clean r.2 := by
  intro r hr
  obtain ⟨k, hk, hnew, hold⟩ := Loop.mem_renames_iff.mp hr
  have hclean := hi l hl i k ⟨element, he, hk⟩
  refine ⟨?_, hnew ▸ hclean⟩
  rcases hold with hold | ⟨hold, _⟩
  · exact hold ▸ h.key_clean l hl element (List.mem_of_getElem? he) k hk
  · rw [hold]
    exact fun c hc => hclean c (List.mem_append_left _ hc)

/-! ## From iterations to templates -/

private theorem iteration_agrees (h : Clear pair vars template loops) (hs : Separate vars loops)
    (hi : CleanIterations pair loops) (hl : l ∈ loops) (he : l.elements[i]? = some element) :
    Agrees pair (flatVariables vars loops) (l.iteration pair policy element i)
      (l.scopedIteration pair policy (indexedScope vars loops) element) := by
  have hrenames := clean_renames h hi hl he
  have hclean (n : Text) (hn : pair.Clean n) :
      pair.Clean n ∧ pair.Clean (renamedTo (l.renames element i) n) :=
    ⟨hn, clean_renamedTo (fun r hr => (hrenames r hr).2) hn⟩
  have hblock := h.tokenized l.block (List.mem_append_right _ (List.mem_map_of_mem hl))
  have hrenamed := hblock.renameTokens h.distinct hrenames fun _ => id
  unfold Loop.iteration Loop.scopedIteration
  rcases hrenamed.align h.distinct hclean l.offset policy with
    ⟨own, hsource, hresult⟩ | ⟨source, result, hsource, hresult, haligned⟩
  · rw [hsource, hresult]
    exact .error _
  · rw [hsource, hresult]
    exact .ok ((haligned.trimEnd h.distinct).stands h.distinct hclean
      fun n _ => hs.find?_renamedTo hl he n)

private theorem iterations_agree (h : Clear pair vars template loops) (hs : Separate vars loops)
    (hi : CleanIterations pair loops) (hl : l ∈ loops) (elements : List Variables) (index : Nat)
    (he : ∀ j element, elements[j]? = some element → l.elements[index + j]? = some element) :
    (∃ e, l.iterationsFrom pair policy index elements = .error e ∧
      elements.mapM (l.scopedIteration pair policy (indexedScope vars loops)) = .error e) ∨
    ∃ ts pss, l.iterationsFrom pair policy index elements = .ok ts ∧
      elements.mapM (l.scopedIteration pair policy (indexedScope vars loops)) = .ok pss ∧
      List.Forall₂ (Stands pair (flatVariables vars loops)) ts pss := by
  induction elements generalizing index with
  | nil => exact .inr ⟨[], [], rfl, rfl, .nil⟩
  | cons element elements ih =>
    have hfirst := iteration_agrees policy h hs hi hl (he 0 element rfl)
    have hrest := ih (index + 1) fun j element' hj => by
      rw [Nat.add_assoc, Nat.add_comm 1 j]
      exact he (j + 1) element' hj
    rw [Nat.add_zero] at hfirst
    rw [Loop.iterationsFrom, List.mapM_cons]
    generalize l.iteration pair policy element index = x at hfirst ⊢
    generalize l.scopedIteration pair policy (indexedScope vars loops) element = y at hfirst ⊢
    cases hfirst with
    | error e => exact .inl ⟨e, rfl, rfl⟩
    | ok hstands =>
      rcases hrest with ⟨e, hx, hy⟩ | ⟨ts, pss, hx, hy, hall⟩
      · exact .inl ⟨e, by rw [hx], by rw [hy]; rfl⟩
      · exact .inr ⟨_, _, by rw [hx], by rw [hy]; rfl, .cons hstands hall⟩

private theorem mem_of_mem_withoutLineBreak {c : Char} {t : Text} (h : c ∈ withoutLineBreak t) :
    c ∈ t := by
  have hsuffix {u v w : Text} (hv : Text.stripSuffix? u v = some w) (hc : c ∈ w) : c ∈ v := by
    rw [Text.stripSuffix?_eq_some_iff.mp hv]
    exact List.mem_append_left u hc
  unfold withoutLineBreak at h
  cases hfeed : Text.stripSuffix? ['\n'] t with
  | none => simpa only [hfeed] using h
  | some u =>
    simp only [hfeed] at h
    refine hsuffix hfeed ?_
    cases hreturn : Text.stripSuffix? ['\r'] u with
    | none => simpa only [hreturn, Option.getD_none] using h
    | some v => exact hsuffix hreturn (by simpa only [hreturn, Option.getD_some] using h)

private theorem isSpace_of_mem_lineBreakOf {c : Char} {t : Text} (h : c ∈ lineBreakOf t) :
    Text.isSpace c = true := by
  unfold lineBreakOf at h
  split at h
  · rcases List.mem_cons.mp h with rfl | h
    · rfl
    · exact List.mem_singleton.mp h ▸ rfl
  · exact List.mem_singleton.mp h ▸ rfl

private theorem joint_stands (h : Clear pair vars template loops) (hl : l ∈ loops) (t : Text) :
    Stands pair (flatVariables vars loops) (joint l.joiner (lineBreakOf t))
      ((joint l.joiner (lineBreakOf t)).map Piece.char) := by
  refine Stands.of_chars fun c hc => ?_
  rcases List.mem_append.mp hc with hc | hc
  · exact h.joiner_notMem l hl c (mem_of_mem_withoutLineBreak hc)
  · exact h.distinct.space_notMem (isSpace_of_mem_lineBreakOf hc)

private theorem expand_agrees (h : Clear pair vars template loops) (hs : Separate vars loops)
    (hi : CleanIterations pair loops) (hl : l ∈ loops) (t : Text) :
    Agrees pair (flatVariables vars loops) (l.expand (lineBreakOf t) pair policy)
      (l.scopedIterations (lineBreakOf t) pair policy (indexedScope vars loops)) := by
  have hiterations := iterations_agree policy h hs hi hl l.elements 0
    fun j element hj => by rw [Nat.zero_add]; exact hj
  unfold Loop.expand Loop.iterations Loop.scopedIterations
  rcases hiterations with ⟨e, hx, hy⟩ | ⟨ts, pss, hx, hy, hall⟩
  · rw [hx, hy]
    exact .error e
  · rw [hx, hy]
    exact .ok (((joint_stands h hl t).intercalate hall).trimEnd h.distinct)

private theorem outside_stands (h : Clear pair vars template loops) (hs : Separate vars loops)
    {t : Text} (ht : Tokenized pair pair.Clean t) :
    Stands pair (flatVariables vars loops) t (Piece.read pair (indexedScope vars loops) t) :=
  ht.renamed.stands h.distinct (fun _ hn => ⟨hn, hn⟩) fun n _ =>
    ⟨hs.find?_flatVariables n, fun _ => rfl⟩

private theorem expandFrom_agrees (h : Clear pair vars template loops) (hs : Separate vars loops)
    (hi : CleanIterations pair loops) (rest : List Loop) (position : Nat)
    (hrest : ∀ l ∈ rest, l ∈ loops)
    (ht : ∀ t ∈ outsideFrom template position rest, Tokenized pair pair.Clean t) :
    Agrees pair (flatVariables vars loops) (expandFrom template pair policy position rest)
      (scopedFrom template pair policy (indexedScope vars loops) position rest) := by
  induction rest generalizing position with
  | nil => exact .ok (outside_stands h hs (ht _ List.mem_cons_self))
  | cons l rest ih =>
    have hloop := expand_agrees policy h hs hi (hrest l List.mem_cons_self)
      (template.between l.start l.stop)
    have hmore := ih l.stop (fun l' hl' => hrest l' (List.mem_cons_of_mem l hl'))
      fun t hm => ht t (List.mem_cons_of_mem _ hm)
    have houtside := outside_stands h hs (ht _ List.mem_cons_self)
    rw [expandFrom, scopedFrom]
    generalize l.expand (lineBreakOf (template.between l.start l.stop)) pair policy = x at hloop ⊢
    generalize l.scopedIterations (lineBreakOf (template.between l.start l.stop)) pair policy
      (indexedScope vars loops) = y at hloop ⊢
    generalize expandFrom template pair policy l.stop rest = x' at hmore ⊢
    generalize scopedFrom template pair policy (indexedScope vars loops) l.stop rest = y' at hmore ⊢
    cases hloop with
    | error e => exact .error e
    | ok hiterations =>
      cases hmore with
      | error e => exact .error e
      | ok hmore => exact .ok ((houtside.append hiterations).append hmore)

/-! ## Names that no iteration is given -/

private theorem Loop.scopedIteration_congr (hp : pair.Distinct) {Name : Text → Prop}
    {outside outside' : Scope} (hclean : ∀ n, Name n → pair.Clean n)
    (heq : ∀ n, Name n → outside n = outside' n) (hblock : Tokenized pair Name l.block) :
    l.scopedIteration pair policy outside = l.scopedIteration pair policy outside' := by
  funext element
  have hboth (n : Text) (hn : Name n) : pair.Clean n ∧ pair.Clean (id n) :=
    ⟨hclean n hn, hclean n hn⟩
  unfold Loop.scopedIteration
  rcases hblock.renamed.align hp hboth l.offset policy with ⟨own, ht, _⟩ | ⟨t, _, ht, _, haligned⟩
  · rw [ht]
  · simp only [ht]
    refine congrArg Except.ok ((haligned.trimEnd hp).tokenized.read_congr hp hclean fun n hn => ?_)
    unfold Loop.scope
    rw [heq n hn]

private theorem scopedFrom_congr (hp : pair.Distinct) {Name : Text → Prop}
    {outside outside' : Scope} (hclean : ∀ n, Name n → pair.Clean n)
    (heq : ∀ n, Name n → outside n = outside' n) (position : Nat)
    (ht : ∀ t ∈ outsideFrom template position loops ++ loops.map Loop.block,
      Tokenized pair Name t) :
    scopedFrom template pair policy outside position loops =
      scopedFrom template pair policy outside' position loops := by
  induction loops generalizing position with
  | nil => exact congrArg Except.ok ((ht _ List.mem_cons_self).read_congr hp hclean heq)
  | cons l loops ih =>
    have hfirst := ht _ (List.mem_append_left _ List.mem_cons_self)
    have hblock := ht l.block (List.mem_append_right _ List.mem_cons_self)
    have hmore := ih l.stop fun t hm => by
      rcases List.mem_append.mp hm with hm | hm
      · exact ht t (List.mem_append_left _ (List.mem_cons_of_mem _ hm))
      · exact ht t (List.mem_append_right _ (List.mem_cons_of_mem _ hm))
    unfold scopedFrom Loop.scopedIterations
    rw [Loop.scopedIteration_congr policy hp hclean heq hblock, hmore,
      hfirst.read_congr hp hclean heq]

private theorem indexedScope_eq_topScope {name : Text}
    (h : ∀ l ∈ loops, ∀ i k, l.Binds k i → name ≠ iterationName l.name k i) :
    indexedScope vars loops name = topScope vars name := by
  have hnone : find? name (loops.flatMap Loop.bindings) = none := by
    rw [find?_eq_none_iff]
    intro hname
    obtain ⟨⟨_, value⟩, hmem, rfl⟩ := List.mem_map.mp hname
    obtain ⟨l, hl, i, element, he, k, hk, heq⟩ := mem_bindings_iff.mp hmem
    exact h l hl i k ⟨element, he, List.mem_map_of_mem hk⟩ heq
  rw [indexedScope, hnone, Option.or_none]

/-! ## Expansion -/

/-- Writing the loops of a template out and filling its tokens is resolving each token where it
stands: in a loop to the entry of the element, else to a variable that is not a map, else to the
entry that an iteration gave the name to. Where no token bears such a name, the names of the
template are all that count. -/
theorem fillTokens_expandLoops (h : Clear pair vars template loops) (hs : Separate vars loops)
    (hi : CleanIterations pair loops)
    (hvalues : ∀ ps, scopedFrom template pair policy (indexedScope vars loops) 0 loops = .ok ps →
      Piece.PlainValues pair ps) :
    (∀ strict, ((expandLoops template loops pair policy).bind fun t =>
        fillTokens t (flatVariables vars loops) pair strict) =
      (scopedFrom template pair policy (indexedScope vars loops) 0 loops).bind
        (Piece.writeAll pair strict)) ∧
    ((∀ t ∈ outsideFrom template 0 loops ++ loops.map Loop.block, Tokenized pair (fun n =>
        pair.Clean n ∧ ∀ l ∈ loops, ∀ i k, l.Binds k i → n ≠ iterationName l.name k i) t) →
      scopedFrom template pair policy (indexedScope vars loops) 0 loops =
        scopedFrom template pair policy (topScope vars) 0 loops) := by
  constructor
  · intro strict
    have hagrees := expandFrom_agrees policy h hs hi loops 0 (fun _ => id) fun t hm =>
      h.tokenized t (List.mem_append_left _ hm)
    unfold expandLoops
    generalize expandFrom template pair policy 0 loops = x at hagrees ⊢
    generalize scopedFrom template pair policy (indexedScope vars loops) 0 loops = y
      at hagrees hvalues ⊢
    cases hagrees with
    | error e => rfl
    | @ok t ps hstands =>
      exact hstands.fillTokens_eq h.distinct (clean_flatVariables h hi) (hvalues ps rfl) strict
  · intro ht
    exact scopedFrom_congr policy h.distinct (fun _ hn => hn.1)
      (fun _ hn => indexedScope_eq_topScope hn.2) 0 ht

/-! ## Two loops

With delimiters that no name of an iteration holds, tokens say the same before, between and after
the loops, by a key alone or with the name of its loop, and by a name from outside.
-/

/-- Delimiters of angle brackets. -/
def anglePair : Pair := ⟨"<<".toList, ">>".toList⟩

/-- A template with two loops. -/
def stockTemplate : Text :=
  ("<<title>>:\n(items)(, )[\n  <<name>>: <<items_qty>>\n]\n" ++
    "(notes)[\n- <<text>> (<<title>>)\n]\n<<title>>, <<day>>.\n").toList

/-- What the first loop runs over. -/
def stockItems : List Variables :=
  [[("name".toList, .string "bolt".toList), ("qty".toList, .string "7".toList)],
    [("name".toList, .string "nut".toList), ("qty".toList, .bool false)],
    [("name".toList, .string "pin".toList), ("qty".toList, .string "12".toList)]]

/-- What the second loop runs over. -/
def stockNotes : List Variables :=
  [[("text".toList, .string "old".toList)], [("text".toList, .string "new".toList)]]

/-- The variables of the template. -/
def stockVariables : Variables :=
  [("day".toList, .string "May".toList), ("items".toList, .list (stockItems.map .map)),
    ("notes".toList, .list (stockNotes.map .map)), ("title".toList, .string "Stock".toList)]

/-- The loops of the template. -/
def stockLoops : List Loop :=
  [⟨11, 51, "items".toList, stockItems, "  <<name>>: <<items_qty>>".toList, 0, ", ".toList⟩,
    ⟨52, 85, "notes".toList, stockNotes, "- <<text>> (<<title>>)".toList, 0, Loop.standardJoiner⟩]

/-- The passages of the texts outside the loops, and of the two blocks. -/
def stockPassages : List (List Passage) :=
  [[.token "title".toList, .literal ":\n".toList], [.literal "\n".toList],
    [.literal "\n".toList, .token "title".toList, .literal ", ".toList, .token "day".toList,
      .literal ".\n".toList],
    [.literal "  ".toList, .token "name".toList, .literal ": ".toList,
      .token "items_qty".toList],
    [.literal "- ".toList, .token "text".toList, .literal " (".toList, .token "title".toList,
      .literal ")".toList]]

private theorem stockTexts_eq :
    outsideFrom stockTemplate 0 stockLoops ++ stockLoops.map Loop.block =
      stockPassages.map (Passage.join anglePair) := by decide +kernel

private theorem tokenized_of_passages {texts : List Text} {passages : List (List Passage)}
    {Name : Text → Prop} (htexts : texts = passages.map (Passage.join pair))
    (hplain : ∀ ps ∈ passages, ∀ s ∈ ps, s.Plain pair [])
    (hname : ∀ ps ∈ passages, ∀ name ∈ ps.filterMap Passage.name?, Name name) :
    ∀ t ∈ texts, Tokenized pair Name t := by
  rw [htexts]
  exact List.forall_mem_map.mpr fun ps hps => .of_passages (hplain ps hps) (hname ps hps)

private theorem clear_stock : Clear anglePair stockVariables stockTemplate stockLoops where
  distinct := .of_all rfl rfl rfl
  tokenized := tokenized_of_passages stockTexts_eq (by decide) (by decide)
  variable_clean := by decide
  key_clean := by decide
  loop_clean := by decide
  joiner_notMem l hl := by
    have hall : ∀ l ∈ stockLoops, l.joiner.all (· ∉ anglePair.opening) = true := by decide
    simpa using hall l hl

private theorem separate_stock : Separate stockVariables stockLoops :=
  .of_boundKeys (by decide) (List.forall_mem_cons.mpr ⟨rfl, List.forall_mem_singleton.mpr rfl⟩)
    (by decide)

private theorem plainValues_stock {ps : List Piece}
    (h : scopedFrom stockTemplate anglePair .fail (indexedScope stockVariables stockLoops) 0
      stockLoops = .ok ps) : Piece.PlainValues anglePair ps := by
  have hall : (scopedFrom stockTemplate anglePair .fail (indexedScope stockVariables stockLoops) 0
      stockLoops).map (fun ps => decide (Piece.PlainValues anglePair ps)) = .ok true := by
    decide +kernel
  rw [h] at hall
  exact of_decide_eq_true (Except.ok.inj hall)

/-- Both loops are written out as their tokens stand, with three and two iterations. -/
theorem fillTokens_expandLoops_angle :
    ((expandLoops stockTemplate stockLoops anglePair .fail).bind fun t =>
        fillTokens t (flatVariables stockVariables stockLoops) anglePair true) =
      (scopedFrom stockTemplate anglePair .fail (topScope stockVariables) 0 stockLoops).bind
        (Piece.writeAll anglePair true) ∧
    (scopedFrom stockTemplate anglePair .fail (topScope stockVariables) 0 stockLoops).bind
        (Piece.writeAll anglePair true) =
      .ok ("Stock:\nbolt: 7, \nnut: false, \npin: 12\n".toList ++
        "- old (Stock)\n- new (Stock)\nStock, May.\n".toList) := by
  have hclean : CleanIterations anglePair stockLoops := by decide
  obtain ⟨hexpanded, hscope⟩ := fillTokens_expandLoops .fail clear_stock separate_stock hclean
    fun ps => plainValues_stock
  have hnames : ∀ ps ∈ stockPassages, ∀ name ∈ ps.filterMap Passage.name?, anglePair.Clean name ∧
      ∀ l ∈ stockLoops, ∀ b ∈ l.boundKeys, name ≠ iterationName l.name b.1 b.2 := by decide
  have htop := hscope <| tokenized_of_passages stockTexts_eq (by decide) fun ps hps name hname =>
    (hnames ps hps name hname).imp_right fun hne l hl => Loop.forall_binds_iff.mpr (hne l hl)
  exact ⟨(hexpanded true).trans (by rw [htop]), by decide +kernel⟩

/-! ## A loop of one token

Here the closing delimiter is an underscore, which stands in the names of iterations.
-/

/-- A loop over a list of one element, its block a single token. -/
def shortLoop : Loop where
  start := 0
  stop := 10
  name := ['v']
  elements := [[(['k'], .string ['X'])]]
  block := "<k_".toList
  offset := 0
  joiner := Loop.standardJoiner

/-- The template of the loop. -/
def shortTemplate : Text := "(v)[\n<k_\n]".toList

/-- The variables of the loop. -/
def shortVariables : Variables := [(['v'], .list [.map [(['k'], .string ['X'])]])]

private theorem clear_shortLoop :
    Clear ⟨['<'], ['_']⟩ shortVariables shortTemplate [shortLoop] where
  distinct := .of_all rfl rfl rfl
  tokenized := by
    have htexts : outsideFrom shortTemplate 0 [shortLoop] ++ [shortLoop].map Loop.block =
        [[], [], [.token ['k']]].map (Passage.join ⟨['<'], ['_']⟩) := by rfl
    exact tokenized_of_passages htexts (by decide) (by decide)
  variable_clean := by decide
  key_clean := by decide
  loop_clean := by decide
  joiner_notMem := List.forall_mem_singleton.mpr (List.forall_mem_singleton.mpr (by decide))

private theorem separate_shortLoop : Separate shortVariables [shortLoop] :=
  .of_boundKeys (by decide) (List.forall_mem_singleton.mpr rfl) (by decide)

/-- With the underscore as the closing delimiter the token of the iteration is cut at the first
underscore of its new name and stands for the list. -/
theorem fillTokens_expandLoops_underscore :
    Clear ⟨['<'], ['_']⟩ shortVariables shortTemplate [shortLoop] ∧
    Separate shortVariables [shortLoop] ∧
    (∀ outside ∈ [topScope shortVariables, indexedScope shortVariables [shortLoop]],
      scopedFrom shortTemplate ⟨['<'], ['_']⟩ .fail outside 0 [shortLoop] =
        .ok [.token ['k'] (some (.string ['X']))]) ∧
    Piece.PlainValues ⟨['<'], ['_']⟩ [.token ['k'] (some (.string ['X']))] ∧
    Piece.writeAll ⟨['<'], ['_']⟩ false [.token ['k'] (some (.string ['X']))] = .ok ['X'] ∧
    ((expandLoops shortTemplate [shortLoop] ⟨['<'], ['_']⟩ .fail).bind fun t =>
      fillTokens t (flatVariables shortVariables [shortLoop]) ⟨['<'], ['_']⟩ false) =
      .ok "[\x7b\"k\":\"X\"\x7d]k_0_0_".toList :=
  ⟨clear_shortLoop, separate_shortLoop,
    List.forall_mem_cons.mpr ⟨rfl, List.forall_mem_singleton.mpr rfl⟩, by decide, rfl, rfl⟩

end Stencil
