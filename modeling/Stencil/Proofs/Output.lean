import Mathlib.Data.List.Forall2
import Mathlib.Data.List.Sigma
import Stencil.Output
import Stencil.Proofs.Delimiter
import Stencil.Proofs.Dictionary
import Stencil.Proofs.Render.Final
import Stencil.Proofs.Text.Replace

/-!
# Paths of outputs

The variables of an output name are put in one after another, and their texts can be anything, so
what one brings in may complete a token of the next. But a token whose name holds no brace reaches
over a place only if a closing brace comes behind that place before any opening one. None does in
front of a token, or of text without braces. So the number of a set comes out where the pattern has
it: behind what the variables make of the text before it, and in front of the text after it.

If the text before the number does not end in a digit, neither does what is made of it, nor does the
folder with its slash. Then the number can be read off the path, and two sets have two paths.
-/

namespace Stencil

/-! ## Numbers behind text -/

namespace Text

/-- No digit ends the text. -/
def Unnumbered (t : Text) : Prop := ∀ c, t.getLast? = some c → c.isDigit = false

variable {s t : Text}

/-- The empty text does not end in a number. -/
theorem unnumbered_nil : Unnumbered [] := fun _ h => nomatch h

/-- A text that ends in another character than a digit does not end in a number. -/
theorem unnumbered_of_getLast? {c : Char} (h : t.getLast? = some c) (hc : c.isDigit = false) :
    Unnumbered t := by
  intro d hd
  rwa [← Option.some.inj (h.symm.trans hd)]

/-- Two texts that do not end in numbers make one that does not. -/
theorem Unnumbered.append (hs : Unnumbered s) (ht : Unnumbered t) : Unnumbered (s ++ t) := by
  intro c hc
  rw [List.getLast?_append, Option.or_eq_some_iff] at hc
  exact hc.elim (ht c) fun h => hs c h.2

private theorem Unnumbered.takeWhile_reverse (ht : Unnumbered t) (n : Nat) :
    (t ++ ofNat n).reverse.takeWhile Char.isDigit = (ofNat n).reverse := by
  have hdigits : ∀ c ∈ (ofNat n).reverse, c.isDigit = true := fun c hc =>
    isDigit_of_mem_ofNat (List.mem_reverse.mp hc)
  have hstop : t.reverse.takeWhile Char.isDigit = [] := by
    cases hreverse : t.reverse with
    | nil => rfl
    | cons c rest =>
      have hlast : t.getLast? = some c := by
        rw [← List.head?_reverse, hreverse, List.head?_cons]
      exact List.takeWhile_cons_of_neg (by rw [ht c hlast]; exact Bool.false_ne_true)
  rw [List.reverse_append, List.takeWhile_append_of_pos hdigits, hstop, List.append_nil]

/-- Two texts that end in no digit do not hide which numbers are behind them. -/
theorem Unnumbered.ofNat_inj (hs : Unnumbered s) (ht : Unnumbered t) {m n : Nat}
    (h : s ++ ofNat m = t ++ ofNat n) : m = n := by
  have hreverse : (ofNat m).reverse = (ofNat n).reverse := by
    rw [← hs.takeWhile_reverse, h, ht.takeWhile_reverse]
  exact Text.ofNat_inj (List.reverse_inj.mp hreverse)

end Text

/-- What is written before a path in a folder ends in no digit, as it ends in a slash if anything is
written there. -/
theorem FilePath.exists_join_eq (base path : Text) :
    ∃ front, Text.Unnumbered front ∧ join base path = front ++ path := by
  unfold join
  split
  · exact ⟨[], Text.unnumbered_nil, rfl⟩
  · split
    · next hbase =>
      refine ⟨base, ?_, rfl⟩
      rcases hbase with rfl | hlast
      · exact Text.unnumbered_nil
      · exact Text.unnumbered_of_getLast? hlast rfl
    · exact ⟨base ++ ['/'], Text.unnumbered_of_getLast? List.getLast?_concat rfl, by simp⟩

namespace Output

/-! ## Tokens in names -/

variable {key t : Text} {b : Text × Value}

private theorem apart_nameDelimiters : nameDelimiters.Apart :=
  ⟨by rfl, by simp [nameDelimiters]⟩

/-- An end of a token closes it and opens nothing. -/
theorem braces_of_suffix_wrap {v : Text} (hkey : nameDelimiters.Free key)
    (hv : v <:+ nameDelimiters.wrap key) (hne : v ≠ nameDelimiters.wrap key) (hnil : v ≠ []) :
    '\x7b' ∉ v ∧ '\x7d' ∈ v := by
  have hsuffix : v <:+ key ++ ['\x7d'] := (List.suffix_cons_iff.mp hv).resolve_left hne
  constructor
  · intro hmem
    rcases List.mem_append.mp (hsuffix.subset hmem) with hmem | hmem
    · exact (hkey _ hmem).1 List.mem_cons_self
    · exact absurd hmem (by decide)
  · have hlast : v.getLast hnil = '\x7d' := by
      rw [hsuffix.getLast hnil, List.getLast_concat]
    exact hlast ▸ List.getLast_mem hnil

private theorem wrap_ne_nil (key : Text) : nameDelimiters.wrap key ≠ [] :=
  Pair.wrap_ne_nil apart_nameDelimiters.opening_ne_nil key

/-- A variable is put into two texts one by one if the second begins with a token or closes none. -/
theorem substitute_append (hb : nameDelimiters.Free b.1) (ht : t.head? = some '\x7b' ∨ '\x7d' ∉ t)
    (u : Text) : substitute nameDelimiters (u ++ t) b =
      substitute nameDelimiters u b ++ substitute nameDelimiters t b := by
  refine Text.replace_append_of_forall_suffix (wrap_ne_nil b.1) (fun v hv hne hnil hpre => ?_) u
  obtain ⟨hopens, hcloses⟩ := braces_of_suffix_wrap hb hv hne hnil
  rcases ht with hhead | hnot
  · obtain ⟨c, v, rfl⟩ := List.exists_cons_of_ne_nil hnil
    obtain ⟨rest, rfl⟩ := hpre
    exact hopens (Option.some.inj hhead ▸ List.mem_cons_self)
  · exact hnot (hpre.subset hcloses)

/-- Nothing is replaced in a text without delimiters. -/
theorem substitute_of_free (ht : nameDelimiters.Free t) (b : Text × Value) :
    substitute nameDelimiters t b = t := by
  refine Text.replace_eq_self (wrap_ne_nil b.1) fun hin => ?_
  exact (ht _ (hin.subset List.mem_cons_self)).1 List.mem_cons_self

/-- Text without braces stays behind whatever variables are put in. -/
theorem substituteAll_append {vars : List (Text × Value)}
    (hvars : ∀ b ∈ vars, nameDelimiters.Free b.1) (ht : nameDelimiters.Free t) (u : Text) :
    substituteAll nameDelimiters vars (u ++ t) = substituteAll nameDelimiters vars u ++ t := by
  have hcloses : '\x7d' ∉ t := fun hmem => (ht _ hmem).2 List.mem_cons_self
  induction vars generalizing u with
  | nil => rfl
  | cons b vars ih =>
    obtain ⟨hb, hvars⟩ := List.forall_mem_cons.mp hvars
    rw [substituteAll, List.foldl_cons, substitute_append hb (.inr hcloses), substitute_of_free ht]
    exact ih hvars _

/-- A token in front of text without braces is replaced by a variable of its name and no other. -/
theorem substitute_wrap_append (hb : nameDelimiters.Free b.1) (hkey : nameDelimiters.Free key)
    (ht : nameDelimiters.Free t) : substitute nameDelimiters (nameDelimiters.wrap key ++ t) b =
      (if b.1 = key then b.2.display else nameDelimiters.wrap key) ++ t := by
  have hstay : t.replace (nameDelimiters.wrap b.1) b.2.display = t := substitute_of_free ht b
  split
  · next heq => rw [substitute, ← heq, Text.replace_append (wrap_ne_nil b.1), hstay]
  · next hne =>
    rw [substitute, Text.replace_append_left (wrap_ne_nil b.1), hstay]
    exact fun v hv hnil => Pair.wrap_not_isPrefix apart_nameDelimiters hb hkey hne hv hnil

/-- So it comes out as the text of its value, provided that this brings no braces in. -/
theorem substituteAll_append_wrap {vars : List (Text × Value)} {value : Value}
    (hvars : ∀ b ∈ vars, nameDelimiters.Free b.1) (hkey : nameDelimiters.Free key)
    (hfind : Dictionary.find? key vars = some value)
    (hvalue : nameDelimiters.Free value.display) (ht : nameDelimiters.Free t) (u : Text) :
    substituteAll nameDelimiters vars (u ++ (nameDelimiters.wrap key ++ t)) =
      substituteAll nameDelimiters vars u ++ (value.display ++ t) := by
  induction vars generalizing u with
  | nil => exact nomatch hfind
  | cons b vars ih =>
    obtain ⟨hb, hvars⟩ := List.forall_mem_cons.mp hvars
    rw [substituteAll, List.foldl_cons, substitute_append hb (.inl rfl),
      substitute_wrap_append hb hkey ht]
    by_cases heq : b.1 = key
    · -- The token is gone, and the variables behind this one find no brace there.
      obtain rfl : b.2 = value := by simpa [Dictionary.find?, heq] using hfind
      have hfree : nameDelimiters.Free (b.2.display ++ t) := fun c hc =>
        (List.mem_append.mp hc).elim (hvalue c) (ht c)
      rw [if_pos heq]
      exact substituteAll_append hvars hfree _
    · rw [if_neg heq]
      exact ih hvars (by simpa [Dictionary.find?, heq] using hfind) _

/-! ## The number in a name -/

/-- The value of a number is written in its digits, as long as it fits in a machine word. -/
theorem display_ofInt? {n : Nat} (hn : n < 0x10000000000000000) :
    ((Value.ofInt? n).getD .null).display = Text.ofNat n := by
  have hlower : -0x8000000000000000 ≤ (n : Int) := by omega
  have hupper : (n : Int) < 0x10000000000000000 := by omega
  have hpositive : ¬ (n : Int) < 0 := by omega
  rw [Value.ofInt?, Whole.ofInt?, dif_pos ⟨hlower, hupper⟩]
  simp only [Option.map_some, Option.getD_some, Value.display, Json.print, Number.text,
    Number.intText, hpositive, ite_false, Int.natAbs_natCast]

/-- Digits are no delimiters. -/
theorem free_ofNat (n : Nat) : nameDelimiters.Free (Text.ofNat n) := by
  intro c hc
  have hdigit := Text.isDigit_of_mem_ofNat hc
  constructor <;> exact fun hmem => by simp [List.mem_singleton.mp hmem] at hdigit

section Name

variable {vars : Variables} {index : Nat}
  (hkeys : ∀ key ∈ Dictionary.keys vars, nameDelimiters.Free key)

include hkeys

private theorem free_of_mem_nameVariables :
    ∀ b ∈ nameVariables vars index, nameDelimiters.Free b.1 := by
  intro b hb
  rcases Dictionary.mem_insert hb with rfl | hb
  · show nameDelimiters.Free indexName
    decide
  · exact hkeys b.1 (List.mem_map_of_mem (List.mem_filter.mp hb).1)

/-- What follows the last token of a pattern ends the name. -/
theorem name_append (ht : nameDelimiters.Free t) (u : Text) :
    name (u ++ t) vars index = name u vars index ++ t :=
  substituteAll_append (free_of_mem_nameVariables hkeys) ht u

/-- The number of the set stands in front of that, even if the set has a variable of its name. -/
theorem name_append_index (ht : nameDelimiters.Free t) (hindex : index < 0x10000000000000000)
    (u : Text) : name (u ++ (nameDelimiters.wrap indexName ++ t)) vars index =
      name u vars index ++ (Text.ofNat index ++ t) := by
  have hdisplay := display_ofInt? hindex
  have hvalue : nameDelimiters.Free ((Value.ofInt? index).getD .null).display :=
    hdisplay ▸ free_ofNat index
  have hfind : Dictionary.find? indexName (nameVariables vars index) =
      some ((Value.ofInt? index).getD .null) := Dictionary.find?_insert_self _ _ _
  rw [name, substituteAll_append_wrap (free_of_mem_nameVariables hkeys) (by decide) hfind hvalue ht,
    hdisplay, name]

/-- If no digit ends the text before the number in a pattern, none ends it in the name. -/
theorem unnumbered_name {q : Text} (hq : ∀ c, q.getLast? = some c →
    c.isDigit = false ∧ c ≠ '\x7b' ∧ c ≠ '\x7d') : Text.Unnumbered (name q vars index) := by
  rcases List.eq_nil_or_concat q with rfl | ⟨u, c, rfl⟩
  · have hnil : name [] vars index = [] :=
      substituteAll_eq_self apart_nameDelimiters.usable
        (fun key => mt List.infix_nil.mp (wrap_ne_nil key)) _
    rw [hnil]
    exact Text.unnumbered_nil
  · obtain ⟨hdigit, hopening, hclosing⟩ := hq c (by simp)
    have hfree : nameDelimiters.Free [c] := by
      simpa [Pair.Free, nameDelimiters] using And.intro hopening hclosing
    rw [List.concat_eq_append, name_append hkeys hfree]
    exact Text.unnumbered_of_getLast? List.getLast?_concat hdigit

end Name

/-! ## One output for each set -/

/-- An output that belongs to a set of variables and its number. -/
structure IsFor (template : Text) (production : Production) (pathOf : Text → Text)
    (entry : Variables × Nat) (out : Output) : Prop where
  /-- It bears the name that the pattern gives to the set. -/
  path_eq : out.path = pathOf (name production.pattern entry.1 entry.2)
  /-- It holds the template rendered with the set. -/
  content_eq : render template entry.1 production.options = .ok out.content

variable {template : Text} {production : Production} {outputs : List Output}

/-- The outputs of a template are those of its sets, in order; there are none unless all sets can be
rendered. -/
theorem eachFrom_eq_ok_iff {pathOf : Text → Text} {index : Nat} {sets : List Variables} :
    eachFrom template production pathOf index sets = .ok outputs ↔
      List.Forall₂ (IsFor template production pathOf) (sets.zipIdx index) outputs := by
  induction sets generalizing index outputs with
  | nil => simp [eachFrom, eq_comm]
  | cons vars sets ih =>
    rw [eachFrom, List.zipIdx_cons]
    cases hrender : render template vars production.options with
    | error e =>
      refine iff_of_false nofun fun h => ?_
      cases h with
      | cons hout _ => exact nomatch hrender.symm.trans hout.content_eq
    | ok content =>
      constructor
      · intro h
        cases hrest : eachFrom template production pathOf (index + 1) sets with
        | error e => simp [hrest, Except.map] at h
        | ok more =>
          simp only [hrest, Except.map, Except.ok.injEq] at h
          rw [← h]
          exact .cons ⟨rfl, hrender⟩ (ih.mp hrest)
      · intro h
        cases h with
        | @cons _ out _ more hout hmore =>
          have hcontent : content = out.content :=
            Except.ok.inj (hrender.symm.trans hout.content_eq)
          simp only [ih.mpr hmore, Except.map, hcontent, ← hout.path_eq]

/-- Outputs belong to different paths if different sets have different ones. -/
theorem nodup_path_of_forall₂ {pathOf : Text → Text} {sets : List Variables}
    (h : List.Forall₂ (IsFor template production pathOf) sets.zipIdx outputs)
    (hpath : ∀ entry ∈ sets.zipIdx, ∀ entry' ∈ sets.zipIdx,
      pathOf (name production.pattern entry.1 entry.2) =
        pathOf (name production.pattern entry'.1 entry'.2) → entry.2 = entry'.2) :
    (outputs.map path).Nodup := by
  have hpaths : outputs.map path =
      sets.zipIdx.map fun entry => pathOf (name production.pattern entry.1 entry.2) := by
    have hsame : List.Forall₂ (· = ·) (outputs.map path)
        (sets.zipIdx.map fun entry => pathOf (name production.pattern entry.1 entry.2)) := by
      rw [List.forall₂_map_left_iff, List.forall₂_map_right_iff]
      exact h.flip.imp fun _ _ hout => hout.path_eq
    rwa [List.forall₂_eq_eq_eq] at hsame
  rw [hpaths]
  have hindices := List.pairwise_map.mp (List.nodup_zipIdx_map_snd sets)
  refine List.pairwise_map.mpr (hindices.imp_of_mem fun hentry hentry' hne heq => ?_)
  exact hne (hpath _ hentry _ hentry' heq)

/-- The extension of a template is put at the end of every name. -/
theorem exists_extended_eq (path : Text) : ∃ tail, ∀ name, extended path name = name ++ tail := by
  unfold extended
  cases FilePath.extension? path with
  | none => exact ⟨[], fun name => (List.append_nil name).symm⟩
  | some extension => exact ⟨'.' :: extension, fun name => rfl⟩

/-- With the number of the set in the pattern of names, no output takes the place of another. There
is one output for each set, in order, and their paths are pairwise different, whatever the values of
the sets are: one may be bound to the name of the number itself, and one may make a path absolute.
Before the number the pattern can have any text that does not end in a brace or a digit, and behind
it any text without braces. The sets are no more than machine words can number. -/
theorem ofTemplate_distinct {template input output q s : Text} {sets : List Variables}
    {production : Production} {outputs : List Output} (hmultiple : production.multiple = true)
    (hpattern : production.pattern = q ++ (nameDelimiters.wrap indexName ++ s))
    (hq : ∀ c, q.getLast? = some c → c.isDigit = false ∧ c ≠ '\x7b' ∧ c ≠ '\x7d')
    (hs : nameDelimiters.Free s)
    (hkeys : ∀ vars ∈ sets, ∀ key ∈ Dictionary.keys vars, nameDelimiters.Free key)
    (hsets : sets.length ≤ 0x10000000000000000)
    (h : ofTemplate template input output sets production = .ok outputs) :
    List.Forall₂ (IsFor template production fun name => FilePath.join output (extended input name))
      sets.zipIdx outputs ∧ (outputs.map path).Nodup := by
  rw [ofTemplate, if_pos hmultiple, eachFrom_eq_ok_iff] at h
  refine ⟨h, nodup_path_of_forall₂ h fun entry hentry entry' hentry' heq => ?_⟩
  obtain ⟨tail, htail⟩ := exists_extended_eq input
  -- Both paths end in the number and what follows it, behind text that ends in no digit.
  have hform : ∀ entry ∈ sets.zipIdx, ∃ front, Text.Unnumbered front ∧
      FilePath.join output (extended input (name production.pattern entry.1 entry.2)) =
        front ++ Text.ofNat entry.2 ++ (s ++ tail) := by
    intro entry hentry
    have hfree := hkeys entry.1 (List.fst_mem_of_mem_zipIdx hentry)
    have hindex : entry.2 < 0x10000000000000000 := by
      have hlength := (List.mem_zipIdx' hentry).1
      omega
    obtain ⟨front, hfront, hjoin⟩ := FilePath.exists_join_eq output
      (extended input (name production.pattern entry.1 entry.2))
    refine ⟨front ++ name q entry.1 entry.2, hfront.append (unnumbered_name hfree hq), ?_⟩
    rw [hjoin, htail, hpattern, name_append_index hfree hs hindex]
    simp only [List.append_assoc]
  obtain ⟨front, hfront, hpath⟩ := hform entry hentry
  obtain ⟨front', hfront', hpath'⟩ := hform entry' hentry'
  rw [hpath, hpath'] at heq
  exact hfront.ofNat_inj hfront' (List.append_cancel_right heq)

/-- A pattern with a name and the number. -/
def numberedProduction : Production where
  multiple := true
  pattern := "\x7ba\x7d-\x7bi\x7db".toList

/-- Two sets with a variable of the number's name. A value of the first makes its path absolute and
looks like the path of the second. -/
def numberedSets : List Variables :=
  [[("a".toList, .string "/o/x-1b".toList), ("i".toList, .string ['1'])],
    [("a".toList, .string ['x']), ("i".toList, .string ['1'])]]

/-- Names that the sets number themselves still lead to different paths. -/
theorem ofTemplate_distinct_numberedSets :
    (∀ vars ∈ numberedSets, ∀ key ∈ Dictionary.keys vars, nameDelimiters.Free key) ∧
      ∃ outputs, ofTemplate "\x7b\x7bi\x7d\x7d".toList "in.t".toList "/o".toList numberedSets
          numberedProduction = .ok outputs ∧
        outputs.map path = ["/o/x-1b-0b.t".toList, "/o/x-1b.t".toList] ∧
        (outputs.map path).Nodup := by
  have hkeys : ∀ vars ∈ numberedSets, ∀ key ∈ Dictionary.keys vars, nameDelimiters.Free key := by
    decide
  have houtputs : ofTemplate "\x7b\x7bi\x7d\x7d".toList "in.t".toList "/o".toList numberedSets
      numberedProduction = .ok [⟨"/o/x-1b-0b.t".toList, ['1']⟩, ⟨"/o/x-1b.t".toList, ['1']⟩] := by
    rfl
  refine ⟨hkeys, _, houtputs, rfl, ?_⟩
  have hq : ∀ c, "\x7ba\x7d-".toList.getLast? = some c →
      c.isDigit = false ∧ c ≠ '\x7b' ∧ c ≠ '\x7d' := by
    intro c hc
    obtain rfl : '-' = c := Option.some.inj hc
    decide
  exact (ofTemplate_distinct (s := ['b']) rfl (by rfl) hq (by decide) hkeys (by decide) houtputs).2

end Output

end Stencil
