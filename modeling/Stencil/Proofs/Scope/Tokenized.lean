import Stencil.Expansion
import Stencil.Proofs.Delimiter
import Stencil.Proofs.Text.Replace

/-!
# Text made of tokens

Text in which the opening delimiter is used for tokens only can be read in one way. Replacing the
token of a name reaches just the tokens of that name, so renaming tokens one after another gives
each token the name that the renames lead to.
-/

namespace Stencil

/-- A name that holds no character of a delimiter and no line feed. -/
def Pair.Clean (pair : Pair) (name : Text) : Prop :=
  ∀ c ∈ name, c ∉ pair.opening ∧ c ∉ pair.closing ∧ c ≠ '\n'

instance (pair : Pair) : DecidablePred pair.Clean := fun name =>
  List.decidableBAll (fun c : Char => c ∉ pair.opening ∧ c ∉ pair.closing ∧ c ≠ '\n') name

/-- A pair of delimiters that can be told apart, from each other and from white space. -/
structure Pair.Distinct (pair : Pair) : Prop extends pair.Solid where
  disjoint : ∀ c ∈ pair.opening, c ∉ pair.closing

/-- Distinct pairs are recognized by a look at all characters. -/
theorem Pair.Distinct.of_all {pair : Pair} (h : Delimiters.pairFault? pair = none)
    (hspace : (pair.opening ++ pair.closing).all (!Text.isSpace ·) = true)
    (hdisjoint : pair.opening.all (· ∉ pair.closing) = true) : pair.Distinct :=
  ⟨.of_all h hspace, by simpa using hdisjoint⟩

/-- Pairs that are distinct are apart. -/
theorem Pair.Distinct.apart {pair : Pair} (h : pair.Distinct) : pair.Apart := ⟨h.usable, h.disjoint⟩

/-- A clean name holds no character of a delimiter. -/
theorem Pair.Clean.free {pair : Pair} {name : Text} (h : pair.Clean name) : pair.Free name :=
  fun c hc => ⟨(h c hc).1, (h c hc).2.1⟩

/-- Text made of tokens with certain names, and of characters that are not in the opening
delimiter. -/
inductive Tokenized (pair : Pair) (Name : Text → Prop) : Text → Prop
  /-- The end of the text. -/
  | nil : Tokenized pair Name []
  /-- A character. -/
  | char {c : Char} {t : Text} : c ∉ pair.opening → Tokenized pair Name t →
      Tokenized pair Name (c :: t)
  /-- A token. -/
  | token {name t : Text} : Name name → Tokenized pair Name t →
      Tokenized pair Name (pair.wrap name ++ t)

/-- Two texts that differ in the names of their tokens only. -/
inductive Renamed (pair : Pair) (Name : Text → Prop) (f : Text → Text) : Text → Text → Prop
  /-- The end of both texts. -/
  | nil : Renamed pair Name f [] []
  /-- The same character. -/
  | char {c : Char} {s t : Text} : c ∉ pair.opening → Renamed pair Name f s t →
      Renamed pair Name f (c :: s) (c :: t)
  /-- A token and the one it is renamed to. -/
  | token {name s t : Text} : Name name → Renamed pair Name f s t →
      Renamed pair Name f (pair.wrap name ++ s) (pair.wrap (f name) ++ t)

variable {pair : Pair} {Name : Text → Prop} {f : Text → Text} {s t : Text}

/-- A text made of tokens is renamed to itself by renaming nothing. -/
theorem Tokenized.renamed (h : Tokenized pair Name t) : Renamed pair Name id t t := by
  induction h with
  | nil => exact .nil
  | char hc _ ih => exact .char hc ih
  | token hn _ ih => exact .token hn ih

/-- Characters that are not in the opening delimiter may stand in front of both texts. -/
theorem Renamed.chars_append {u : Text} (hu : ∀ c ∈ u, c ∉ pair.opening)
    (h : Renamed pair Name f s t) : Renamed pair Name f (u ++ s) (u ++ t) := by
  induction u with
  | nil => exact h
  | cons c u ih =>
    obtain ⟨hc, hu⟩ := List.forall_mem_cons.mp hu
    exact .char hc (ih hu)

/-- A text that is renamed is made of tokens. -/
theorem Renamed.tokenized (h : Renamed pair Name f s t) : Tokenized pair Name s := by
  induction h with
  | nil => exact .nil
  | char hc _ ih => exact .char hc ih
  | token hn _ ih => exact .token hn ih

/-- Characters that are not in the opening delimiter may stand in front. -/
theorem Tokenized.chars_append {u : Text} (hu : ∀ c ∈ u, c ∉ pair.opening)
    (h : Tokenized pair Name t) : Tokenized pair Name (u ++ t) :=
  (h.renamed.chars_append hu).tokenized

/-! ## Renaming -/

/-- The name that renames lead to, one after another. -/
def renamedTo (renames : List (Text × Text)) (name : Text) : Text :=
  renames.foldl (fun n r => if n = r.1 then r.2 else n) name

/-- Replacing the token of a name renames the tokens that have come to bear it. -/
theorem Renamed.replace (hp : pair.Distinct) (hclean : ∀ n, Name n → pair.Clean (f n))
    {old : Text} (hold : pair.Clean old) (new : Text) (h : Renamed pair Name f s t) :
    Renamed pair Name (fun n => if f n = old then new else f n) s
      (t.replace (pair.wrap old) (pair.wrap new)) := by
  have hne := Pair.wrap_ne_nil hp.opening_ne_nil old
  induction h with
  | nil => rw [Text.replace_nil hne]; exact .nil
  | char hc _ ih =>
    rw [Text.replace_cons hne (Pair.wrap_not_isPrefix_cons hp.opening_ne_nil hc)]
    exact .char hc ih
  | @token name s t hn _ ih =>
    have htoken := Renamed.token (f := fun n => if f n = old then new else f n) hn ih
    by_cases heq : f name = old
    · rw [heq, Text.replace_append hne]
      simpa only [heq, ite_true] using htoken
    · rw [Text.replace_append_left hne fun v hv hnil =>
        Pair.wrap_not_isPrefix hp.apart hold.free (hclean name hn).free (Ne.symm heq) hv hnil]
      simpa only [heq, ite_false] using htoken

private theorem Renamed.renameTokens (hp : pair.Distinct) {renames : List (Text × Text)}
    (hrenames : ∀ r ∈ renames, pair.Clean r.1 ∧ pair.Clean r.2)
    (hclean : ∀ n, Name n → pair.Clean (f n)) (h : Renamed pair Name f s t) :
    Renamed pair Name (fun n => renamedTo renames (f n)) s (renameTokens pair renames t) := by
  induction renames generalizing f t with
  | nil => exact h
  | cons r renames ih =>
    obtain ⟨hold, hnew⟩ := hrenames r List.mem_cons_self
    refine ih (fun r' hr' => hrenames r' (List.mem_cons_of_mem r hr')) ?_
      (h.replace hp hclean hold r.2)
    intro n hn
    show pair.Clean (if f n = r.1 then r.2 else f n)
    split
    · exact hnew
    · exact hclean n hn

/-- Renames reach every token, and only tokens. -/
theorem Tokenized.renameTokens (hp : pair.Distinct) {renames : List (Text × Text)}
    (hrenames : ∀ r ∈ renames, pair.Clean r.1 ∧ pair.Clean r.2)
    (hclean : ∀ n, Name n → pair.Clean n) (h : Tokenized pair Name t) :
    Renamed pair Name (renamedTo renames) t (Stencil.renameTokens pair renames t) :=
  Renamed.renameTokens hp hrenames hclean h.renamed

end Stencil
