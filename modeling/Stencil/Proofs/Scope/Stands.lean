import Stencil.Proofs.Scope.Alignment
import Stencil.Proofs.Scope.Piece
import Stencil.Proofs.Substitution

/-!
# Texts that stand for pieces

A text stands for pieces when its tokens, looked up among bindings, say what the pieces say. Texts
stay so when they are joined and trimmed, and replacing the tokens of all bindings writes the pieces
out, as long as no value brings the opening delimiter with it.
-/

namespace Stencil

open Dictionary

/-- A text whose tokens, looked up among bindings, say what the pieces say. A token without a
binding has to be the one of the piece, since it is left as it is. -/
inductive Stands (pair : Pair) (bindings : List (Text × Value)) : Text → List Piece → Prop
  /-- Nothing is left. -/
  | nil : Stands pair bindings [] []
  /-- A character. -/
  | char {c : Char} {t : Text} {ps : List Piece} : c ∉ pair.opening → Stands pair bindings t ps →
      Stands pair bindings (c :: t) (.char c :: ps)
  /-- A token under its own name or another. -/
  | token {name given t : Text} {value : Option Value} {ps : List Piece} : pair.Clean given →
      find? given bindings = value → (value = none → given = name) → Stands pair bindings t ps →
      Stands pair bindings (pair.wrap given ++ t) (.token name value :: ps)

variable {pair : Pair} {bindings : List (Text × Value)} {t : Text} {ps : List Piece}

namespace Piece

/-- No value that a token stands for brings in a character of the opening delimiter. -/
def PlainValues (pair : Pair) (ps : List Piece) : Prop :=
  ∀ name value, token name (some value) ∈ ps → ∀ c ∈ value.display, c ∉ pair.opening

/-- The value that a token stands for. -/
def value? : Piece → Option Value
  | char _ => none
  | token _ value => value

/-- Values are looked at one after another. -/
theorem plainValues_iff : PlainValues pair ps ↔
    ∀ value ∈ ps.filterMap value?, ∀ c ∈ value.display, c ∉ pair.opening := by
  constructor
  · intro h value hvalue
    obtain ⟨p, hp, hpiece⟩ := List.mem_filterMap.mp hvalue
    cases p with
    | char c => exact nomatch hpiece
    | token name found =>
      obtain rfl : found = some value := hpiece
      exact h name value hp
  · exact fun h name value hp => h value (List.mem_filterMap.mpr ⟨_, hp, rfl⟩)

instance (pair : Pair) (ps : List Piece) : Decidable (PlainValues pair ps) :=
  decidable_of_iff (∀ value ∈ ps.filterMap value?, value.display.all (· ∉ pair.opening)) <| by
    simp [plainValues_iff]

variable {scope : Scope}

private theorem readFrom_skip (n : Nat) (t : Text) :
    readFrom pair scope n t = readFrom pair scope 0 (t.drop n) := by
  induction n generalizing t with
  | zero => rfl
  | succ n ih =>
    cases t with
    | nil => rfl
    | cons c t => rw [readFrom, ih, List.drop_succ_cons]

/-- A character that is not in the opening delimiter is read as itself. -/
theorem read_cons (hp : pair.Distinct) {c : Char} (hc : c ∉ pair.opening) (t : Text) :
    read pair scope (c :: t) = .char c :: read pair scope t := by
  have hnone : pair.enclosed? (c :: t) = none := by
    rw [Pair.enclosed?, Option.bind_eq_none_iff]
    intro rest hrest
    have hbegins := Text.stripPrefix?_eq_some_iff.mp hrest
    exact absurd (Pair.mem_opening_of_append_eq_cons hp.opening_ne_nil hbegins.symm) hc
  rw [read, readFrom, hnone, read]

/-- The token of a clean name is read as a token. -/
theorem read_wrap_append (hp : pair.Distinct) {name : Text} (hn : pair.Clean name) (t : Text) :
    read pair scope (pair.wrap name ++ t) = .token name (scope name) :: read pair scope t := by
  have henclosed : pair.enclosed? (pair.wrap name ++ t) = some (name, t) := by
    rw [Pair.enclosed?, Pair.wrap, List.append_assoc, List.append_assoc,
      Text.stripPrefix?_eq_some_iff.mpr rfl, Option.bind_some]
    exact Text.upTo?_append hp.closing_ne_nil (fun c hc => (hn c hc).2.1) t
  obtain ⟨c, rest, hwrap⟩ := List.exists_cons_of_ne_nil (Pair.wrap_ne_nil hp.opening_ne_nil name)
  rw [hwrap, List.cons_append] at henclosed ⊢
  rw [read, readFrom, henclosed]
  simp only
  rw [readFrom_skip, hwrap, List.length_cons, Nat.add_sub_cancel, List.drop_left, read]

variable {p : Piece}

/-- The pieces behind the first bring in no opening delimiter if all bring in none. -/
theorem PlainValues.tail (h : PlainValues pair (p :: ps)) : PlainValues pair ps :=
  fun name value hm => h name value (List.mem_cons_of_mem p hm)

end Piece

/-- A text of plain passages is made of tokens with the names of its passages. -/
theorem Tokenized.of_passages {Name : Text → Prop} {passages : List Passage}
    (hplain : ∀ s ∈ passages, s.Plain pair [])
    (hname : ∀ name ∈ passages.filterMap Passage.name?, Name name) :
    Tokenized pair Name (Passage.join pair passages) := by
  induction passages with
  | nil => exact .nil
  | cons s passages ih =>
    obtain ⟨hfirst, hrest⟩ := List.forall_mem_cons.mp hplain
    cases s with
    | literal u => exact .chars_append hfirst (ih hrest hname)
    | token name =>
      obtain ⟨hn, hnames⟩ := List.forall_mem_cons.mp hname
      exact .token hn (ih hrest hnames)

/-- What a text says depends on what the names of its tokens stand for. -/
theorem Tokenized.read_congr (hp : pair.Distinct) {Name : Text → Prop} {scope scope' : Scope}
    (hclean : ∀ n, Name n → pair.Clean n) (heq : ∀ n, Name n → scope n = scope' n)
    (h : Tokenized pair Name t) : Piece.read pair scope t = Piece.read pair scope' t := by
  induction h with
  | nil => rfl
  | char hc _ ih => rw [Piece.read_cons hp hc, Piece.read_cons hp hc, ih]
  | @token name _ hn _ ih =>
    rw [Piece.read_wrap_append hp (hclean name hn), Piece.read_wrap_append hp (hclean name hn), ih,
      heq name hn]

/-- A renamed text stands for the pieces of the text it was made from. -/
theorem Renamed.stands (hp : pair.Distinct) {Name : Text → Prop} {f : Text → Text} {s : Text}
    {scope : Scope} (hclean : ∀ n, Name n → pair.Clean n ∧ pair.Clean (f n))
    (hfind : ∀ n, Name n → find? (f n) bindings = scope n ∧ (scope n = none → f n = n))
    (h : Renamed pair Name f s t) : Stands pair bindings t (Piece.read pair scope s) := by
  induction h with
  | nil => exact .nil
  | char hc _ ih =>
    rw [Piece.read_cons hp hc]
    exact .char hc ih
  | @token name _ _ hn _ ih =>
    obtain ⟨hvalue, hstay⟩ := hfind name hn
    rw [Piece.read_wrap_append hp (hclean name hn).1]
    exact .token (hclean name hn).2 hvalue hstay ih

namespace Stands

/-- Two texts stand for the pieces of both. -/
theorem append {u : Text} {qs : List Piece} (h : Stands pair bindings t ps)
    (h' : Stands pair bindings u qs) : Stands pair bindings (t ++ u) (ps ++ qs) := by
  induction h with
  | nil => exact h'
  | char hc _ ih => exact .char hc ih
  | token hg hv hn _ ih =>
    rw [List.append_assoc]
    exact .token hg hv hn ih

/-- Characters that are not in the opening delimiter stand for themselves. -/
theorem of_chars (ht : ∀ c ∈ t, c ∉ pair.opening) :
    Stands pair bindings t (t.map Piece.char) := by
  induction t with
  | nil => exact .nil
  | cons c t ih =>
    exact .char (ht c List.mem_cons_self) (ih fun d hd => ht d (List.mem_cons_of_mem c hd))

/-- Joined texts stand for their joined pieces. -/
theorem intercalate {ts : List Text} {pss : List (List Piece)} {sep : Text} {sepPieces : List Piece}
    (hsep : Stands pair bindings sep sepPieces)
    (h : List.Forall₂ (Stands pair bindings) ts pss) :
    Stands pair bindings (List.intercalate sep ts) (List.intercalate sepPieces pss) := by
  induction h with
  | nil => exact .nil
  | cons hfirst hmore ih =>
    cases hmore with
    | nil => simpa only [List.intercalate_singleton] using hfirst
    | cons hnext hmore =>
      rw [List.intercalate_cons_cons, List.intercalate_cons_cons]
      exact (hfirst.append hsep).append ih

private theorem isBlank (hp : pair.Distinct) (h : Stands pair bindings t ps) :
    t.isBlank = ps.all Piece.isSpace := by
  induction h with
  | nil => rfl
  | char _ _ ih => exact congrArg (Text.isSpace _ && ·) ih
  | token => exact hp.isBlank_wrap_append _ _

/-- White space at the end of a text is the white space at the end of the pieces. -/
theorem trimEnd (hp : pair.Distinct) (h : Stands pair bindings t ps) :
    Stands pair bindings t.trimEnd (Piece.trimEnd ps) := by
  induction h with
  | nil => exact .nil
  | @char c t ps hc ht ih =>
    rw [Text.trimEnd_cons, Piece.trimEnd, rdropWhile_cons, (Stands.char hc ht).isBlank hp]
    split
    · exact .nil
    · exact .char hc ih
  | @token name given t value ps hg hv hn _ ih =>
    have hpieces : Piece.trimEnd (.token name value :: ps) =
        .token name value :: Piece.trimEnd ps := by
      rw [Piece.trimEnd, rdropWhile_cons]
      rfl
    rw [Text.trimEnd_append (hp.closed_wrap _), hpieces]
    exact .token hg hv hn ih

/-! ## Writing the pieces out -/

private theorem exists_passages (hvalues : Piece.PlainValues pair ps)
    (h : Stands pair bindings t ps) :
    ∃ passages, Passage.join pair passages = t ∧ (∀ s ∈ passages, s.Plain pair bindings) ∧
      Passage.join pair (passages.map (Passage.fill bindings)) = ps.flatMap (Piece.written pair) ∧
      passages.findSome? (Passage.missing? bindings) = ps.findSome? Piece.missing? := by
  induction h with
  | nil => exact ⟨[], rfl, fun s hs => absurd hs List.not_mem_nil, rfl, rfl⟩
  | @char c t ps hc _ ih =>
    obtain ⟨passages, rfl, hplain, hfilled, hmissing⟩ := ih hvalues.tail
    have hliteral : (Passage.literal [c]).Plain pair bindings := List.forall_mem_singleton.mpr hc
    refine ⟨.literal [c] :: passages, rfl, List.forall_mem_cons.mpr ⟨hliteral, hplain⟩, ?_,
      hmissing⟩
    rw [List.map_cons, Passage.join_cons, hfilled]
    rfl
  | @token name given t value ps hg hv hn _ ih =>
    obtain ⟨passages, rfl, hplain, hfilled, hmissing⟩ := ih hvalues.tail
    have htoken : (Passage.token given).Plain pair bindings := by
      refine ⟨hg.free, fun v hfind => hvalues name v ?_⟩
      rw [← hv, hfind]
      exact List.mem_cons_self
    have hsame : ((Passage.token given).fill bindings).text pair =
          (Piece.token name value).written pair ∧
        (Passage.token given).missing? bindings = (Piece.token name value).missing? := by
      cases value with
      | none =>
        rw [hn rfl] at hv ⊢
        simp [Passage.fill, Passage.text, Passage.missing?, contains, hv, Piece.written,
          Piece.missing?]
      | some v =>
        simp [Passage.fill, Passage.text, Passage.missing?, contains, hv, Piece.written,
          Piece.missing?]
    refine ⟨.token given :: passages, rfl, List.forall_mem_cons.mpr ⟨htoken, hplain⟩, ?_, ?_⟩
    · rw [List.map_cons, Passage.join_cons, List.flatMap_cons, hsame.1, hfilled]
    · rw [List.findSome?_cons, List.findSome?_cons, hsame.2, hmissing]

/-- Filling the tokens of a text writes out the pieces that it stands for. -/
theorem fillTokens_eq (hp : pair.Distinct) (hkeys : ∀ b ∈ bindings, pair.Clean b.1)
    (hvalues : Piece.PlainValues pair ps) (h : Stands pair bindings t ps) (strict : Bool) :
    fillTokens t bindings pair strict = Piece.writeAll pair strict ps := by
  obtain ⟨passages, rfl, hplain, hfilled, hmissing⟩ := h.exists_passages hvalues
  rw [Passage.fillTokens_join hp.apart (fun b hb => (hkeys b hb).free) hplain, hfilled, hmissing]
  rfl

end Stands

end Stencil
