import Stencil.Proofs.Dictionary
import Stencil.Proofs.Json.Literal
import Stencil.Source

/-!
# Documents read back

The text that stands for a list or a map is a document, and reading it gives the list or map back:
every string whatever is in it, every whole number, every key. What is in the way is only the depth
that the reader follows, and doubles, whose text may be that of another double. So lists and maps
that differ never look alike.
-/

namespace Stencil

/-- A value whose text tells it apart: lists and maps nest at most so deep, maps are in the order of
their keys, and numbers are whole. -/
inductive Value.Exact : (depth : Nat) → Value → Prop
  | null {depth : Nat} : Exact depth .null
  | bool {depth : Nat} (b : Bool) : Exact depth (.bool b)
  | whole {depth : Nat} (n : Whole) : Exact depth (.number (.whole n))
  | string {depth : Nat} (s : Text) : Exact depth (.string s)
  /-- A list is one deeper than its items. -/
  | list {depth : Nat} {items : List Value} : (∀ v ∈ items, Exact depth v) →
      Exact (depth + 1) (.list items)
  /-- A map is one deeper than its values. -/
  | map {depth : Nat} {entries : List (Text × Value)} : Dictionary.Ordered entries →
      (∀ entry ∈ entries, Exact depth entry.2) → Exact (depth + 1) (.map entries)

namespace Json

variable {α : Type} {item? : Text → Option (α × Text)} {text : α → Text} {xs : List α}
  {close : Char} {depth : Nat} {v : Value}

/-- The text begins with a character that ends no list and no map and is not white space. -/
def Begun (t : Text) : Prop := ∃ c more, t = c :: more ∧ isSpace c = false ∧ c ≠ ']' ∧ c ≠ '\x7d'

/-- A text goes on as it has begun. -/
theorem Begun.append {t : Text} (h : Begun t) (rest : Text) : Begun (t ++ rest) := by
  obtain ⟨c, more, rfl, hc⟩ := h
  exact ⟨c, more ++ rest, rfl, hc⟩

/-- No white space is in front of a text that has begun. -/
theorem Begun.skipSpace {t : Text} (h : Begun t) : Json.skipSpace t = t := by
  obtain ⟨c, more, rfl, hspace, _⟩ := h
  exact List.dropWhile_cons_of_neg (by simp [hspace])

/-- A text that has begun is not empty. -/
theorem Begun.pos {t : Text} (h : Begun t) : 0 < t.length := by
  obtain ⟨c, more, rfl, _⟩ := h
  exact Nat.succ_pos _

/-! ## Items between commas -/

/-- What is written for an item is read as the item. -/
structure Rereads (item? : Text → Option (α × Text)) (text : α → Text) (x : α) : Prop where
  begun : Begun (text x)
  read : ∀ rest, Numeral.Ended rest → item? (text x ++ rest) = some (x, rest)

private theorem ended_comma (rest : Text) : Numeral.Ended (',' :: rest) := by
  rintro c ⟨⟩
  decide

private theorem ended_close (hclose : close = ']' ∨ close = '\x7d') (rest : Text) :
    Numeral.Ended (close :: rest) := by
  rintro c ⟨⟩
  rcases hclose with rfl | rfl <;> decide

private theorem commas_singleton (text : α → Text) (x : α) : commas ([x].map text) = text x := by
  rw [List.map_singleton, commas, List.intercalate_singleton]

private theorem commas_cons_cons (text : α → Text) (x y : α) (xs : List α) :
    commas ((x :: y :: xs).map text) = text x ++ ',' :: commas ((y :: xs).map text) := by
  simp only [commas, List.map_cons, List.intercalate_cons_cons, List.append_assoc,
    List.singleton_append]

private theorem itemsUntil?_commas (hclose : close = ']' ∨ close = '\x7d')
    (h : ∀ x ∈ xs, Rereads item? text x) (hne : xs ≠ []) (rest : Text) {fuel : Nat}
    (hfuel : xs.length ≤ fuel) :
    itemsUntil? item? close fuel (commas (xs.map text) ++ close :: rest) = some (xs, rest) := by
  induction xs generalizing fuel with
  | nil => exact absurd rfl hne
  | cons x xs ih =>
    obtain ⟨hx, hxs⟩ := List.forall_mem_cons.mp h
    cases fuel with
    | zero => exact absurd hfuel (Nat.not_succ_le_zero xs.length)
    | succ fuel =>
      cases xs with
      | nil =>
        have hread := hx.read (close :: rest) (ended_close hclose rest)
        rw [commas_singleton, itemsUntil?, (hx.begun.append _).skipSpace, hread]
        rcases hclose with rfl | rfl <;> rfl
      | cons y xs =>
        have hread := hx.read (',' :: (commas ((y :: xs).map text) ++ close :: rest))
          (ended_comma _)
        have hrest := ih hxs (List.cons_ne_nil y xs) (Nat.le_of_succ_le_succ hfuel)
        rw [commas_cons_cons, List.append_assoc, List.cons_append, itemsUntil?,
          (hx.begun.append _).skipSpace, hread]
        show Option.map _ (itemsUntil? item? close fuel _) = _
        rw [hrest, Option.map_some]

private theorem length_le_commas (h : ∀ x ∈ xs, Rereads item? text x) :
    xs.length ≤ (commas (xs.map text)).length := by
  induction xs with
  | nil => exact Nat.zero_le _
  | cons x xs ih =>
    obtain ⟨hx, hxs⟩ := List.forall_mem_cons.mp h
    have hpos := hx.begun.pos
    cases xs with
    | nil => rwa [commas_singleton]
    | cons y xs =>
      have hle := ih hxs
      have hwritten := congrArg List.length (commas_cons_cons text x y xs)
      rw [List.length_append, List.length_cons] at hwritten
      rw [hwritten, List.length_cons]
      omega

/-- Items between commas are read with the closing character behind them, also where there are
none. -/
theorem enclosed?_commas (hclose : close = ']' ∨ close = '\x7d')
    (h : ∀ x ∈ xs, Rereads item? text x) (rest : Text) :
    enclosed? item? close (commas (xs.map text) ++ close :: rest) = some (xs, rest) := by
  cases xs with
  | nil => rcases hclose with rfl | rfl <;> rfl
  | cons x xs =>
    have hfuel : (x :: xs).length ≤ (commas ((x :: xs).map text) ++ close :: rest).length := by
      have hle := length_le_commas h
      rw [List.length_append]
      omega
    have hitems := itemsUntil?_commas hclose h (List.cons_ne_nil x xs) rest hfuel
    have hbegun : Begun (commas ((x :: xs).map text) ++ close :: rest) := by
      have hx := (h x List.mem_cons_self).begun
      cases xs with
      | nil => exact (commas_singleton text x) ▸ hx.append _
      | cons y xs =>
        rw [commas_cons_cons, List.append_assoc]
        exact hx.append _
    have hskip := hbegun.skipSpace
    obtain ⟨c, more, ht, _, hbracket, hbrace⟩ := hbegun
    have hc : c ≠ close := by rcases hclose with rfl | rfl <;> assumption
    rw [enclosed?, hskip, ht]
    simp only [hc, ite_false]
    rw [← ht, hitems]

/-! ## Values -/

private theorem printItems_eq_map (items : List Value) : printItems items = items.map print := by
  induction items with
  | nil => rfl
  | cons v items ih => rw [printItems, ih, List.map_cons]

/-- What is written for an entry of a map. -/
private def printEntry (entry : Text × Value) : Text := quote entry.1 ++ ':' :: print entry.2

private theorem printEntries_eq_map (entries : List (Text × Value)) :
    printEntries entries = entries.map printEntry := by
  induction entries with
  | nil => rfl
  | cons entry entries ih => rw [printEntries, ih, List.map_cons, printEntry]

private theorem value?_eq_scalar? {c : Char} {more : Text} (hmark : c ≠ '"') (hbracket : c ≠ '[')
    (hbrace : c ≠ '\x7b') : value? depth (c :: more) = scalar? (c :: more) := by
  unfold value?
  split
  · next h => exact absurd (List.cons.inj h).1 hmark
  · next h => exact absurd (List.cons.inj h).1 hbracket
  · next h => exact absurd (List.cons.inj h).1 hbrace
  · rfl

private theorem begun_intText (n : Int) : ∃ c more, Number.intText n = c :: more ∧
    (c = '-' ∨ c.isDigit = true) := by
  by_cases hn : n < 0
  · exact ⟨'-', Text.ofNat n.natAbs, by rw [Number.intText, if_pos hn], .inl rfl⟩
  · obtain ⟨c, more, ht⟩ := List.exists_cons_of_ne_nil (Text.ofNat_ne_nil n.natAbs)
    exact ⟨c, more, by rw [Number.intText, if_neg hn, ht],
      .inr (Text.isDigit_of_mem_ofNat (ht ▸ List.mem_cons_self))⟩

private theorem ne_of_sign_or_digit {c d : Char} (h : c = '-' ∨ c.isDigit = true) (hsign : d ≠ '-')
    (hdigit : d.isDigit = false) : c ≠ d := by
  rintro rfl
  rcases h with h | h
  · exact hsign h
  · exact absurd (h.symm.trans hdigit) (by decide)

private theorem begun_print (h : v.Exact depth) : Begun (print v) := by
  cases h with
  | null => exact ⟨'n', _, rfl, by decide⟩
  | bool b =>
    cases b
    · exact ⟨'f', _, rfl, by decide⟩
    · exact ⟨'t', _, rfl, by decide⟩
  | whole n =>
    obtain ⟨c, more, ht, hc⟩ := begun_intText n.value
    have hspace : isSpace c = false := by
      simp [isSpace, ne_of_sign_or_digit hc]
    exact ⟨c, more, ht, hspace, ne_of_sign_or_digit hc (by decide) (by decide),
      ne_of_sign_or_digit hc (by decide) (by decide)⟩
  | string s => exact ⟨'"', _, rfl, by decide⟩
  | list _ => exact ⟨'[', _, rfl, by decide⟩
  | map _ _ => exact ⟨'\x7b', _, rfl, by decide⟩

private theorem rereads_entry {entry : Text × Value}
    (h : Rereads (value? depth) print entry.2) :
    Rereads (member? (value? depth)) printEntry entry where
  begun := ⟨'"', _, rfl, by decide⟩
  read rest hrest := by
    have hwritten : printEntry entry ++ rest =
        '"' :: (entry.1.flatMap escape ++ '"' :: ':' :: (print entry.2 ++ rest)) := by
      simp [printEntry, quote]
    rw [hwritten, member?, string?_flatMap]
    show Option.map _ (value? depth (skipSpace (print entry.2 ++ rest))) = _
    rw [(h.begun.append rest).skipSpace, h.read rest hrest, Option.map_some]

/-- A value is read from its text, whatever follows that is not part of a number. -/
theorem rereads_print (h : v.Exact depth) : Rereads (value? depth) print v := by
  refine ⟨begun_print h, fun rest hrest => ?_⟩
  induction h generalizing rest with
  | null => exact value?_eq_scalar? (by decide) (by decide) (by decide)
  | bool b =>
    cases b <;> exact value?_eq_scalar? (by decide) (by decide) (by decide)
  | @whole depth n =>
    have hread := read?_intText n.value hrest
    obtain ⟨c, more, ht, hc⟩ := begun_intText n.value
    have hscalar : value? depth (Number.intText n.value ++ rest) =
        scalar? (Number.intText n.value ++ rest) := by
      rw [ht]
      exact value?_eq_scalar? (ne_of_sign_or_digit hc (by decide) (by decide))
        (ne_of_sign_or_digit hc (by decide) (by decide))
        (ne_of_sign_or_digit hc (by decide) (by decide))
    rw [print, Number.text, hscalar, scalar?, hread]
    simp only [number?_whole, Option.map_some]
  | string s =>
    have hwritten : print (.string s) ++ rest = '"' :: (s.flatMap escape ++ '"' :: rest) := by
      simp [print, quote]
    rw [hwritten, value?, string?_flatMap, Option.map_some]
  | @list depth items hitems ih =>
    have hall : ∀ v ∈ items, Rereads (value? depth) print v := fun v hv =>
      ⟨begun_print (hitems v hv), ih v hv⟩
    have hwritten : print (.list items) ++ rest =
        '[' :: (commas (items.map print) ++ ']' :: rest) := by
      simp [print, printItems_eq_map]
    rw [hwritten, value?, enclosed?_commas (.inl rfl) hall, Option.map_some]
  | @map depth entries hordered hentries ih =>
    have hall : ∀ entry ∈ entries, Rereads (member? (value? depth)) printEntry entry :=
      fun entry hentry => rereads_entry ⟨begun_print (hentries entry hentry), ih entry hentry⟩
    have hwritten : print (.map entries) ++ rest =
        '\x7b' :: (commas (entries.map printEntry) ++ '\x7d' :: rest) := by
      simp [print, printEntries_eq_map]
    rw [hwritten, value?, enclosed?_commas (.inr rfl) hall]
    show some (Value.map (Dictionary.ofList entries), rest) = _
    rw [Dictionary.ofList_of_ordered hordered]

/-- The text of a value that is not nested too deep is the text of that value. -/
theorem parse?_print (h : v.Exact maxDepth) : parse? (print v) = some v := by
  have hread := (rereads_print h).read [] nofun
  rw [List.append_nil] at hread
  rw [parse?, (begun_print h).skipSpace, hread]
  rfl

end Json

/-! ## Documents -/

private theorem display_of_not_scalar {v : Value} (h : v.isScalar = false) :
    v.display = Json.print v ∧ Text.dropMark (Json.print v) = Json.print v := by
  cases v with
  | list items => exact ⟨rfl, rfl⟩
  | map entries => exact ⟨rfl, rfl⟩
  | _ => exact nomatch h

/-- The text that stands for a list or a map is a document that is read as that list or map, whatever
key column is asked for; so no two of them have one text. -/
theorem document_display {v : Value} (hv : v.Exact 127) (hc : v.isScalar = false) :
    (∀ reader keyColumn, Source.document reader (Text.bytes v.display) .json keyColumn = .ok v) ∧
      ∀ w : Value, w.Exact 127 → w.isScalar = false → w.display = v.display → w = v := by
  have hparse : ∀ u : Value, u.Exact 127 → u.isScalar = false →
      Json.parse? (Text.dropMark u.display) = some u := by
    intro u hu huc
    obtain ⟨hdisplay, hmark⟩ := display_of_not_scalar huc
    rw [hdisplay, hmark]
    exact Json.parse?_print hu
  refine ⟨fun reader keyColumn => ?_, fun w hw hwc heq => ?_⟩
  · simp only [Source.document, Source.ofJson, Text.ofBytes?_bytes, Option.bind_some,
      hparse v hv hc]
  · have hsame := hparse w hw hwc
    rw [heq, hparse v hv hc] at hsame
    exact (Option.some.inj hsame).symm

/-- A list with the least and the greatest whole number and a map whose texts hold marks, a
backslash, controls and a character outside the basic plane. -/
def awkwardList : Value :=
  .list [.number (.whole ⟨-0x8000000000000000, by decide, by decide⟩),
    .number (.whole ⟨0xffffffffffffffff, by decide, by decide⟩),
    .map [([], .null), ("\"\\".toList, .string "\x07\n\x7f😀".toList)],
    .list [], .bool true]

/-- The awkward list is written on one line and read back. -/
theorem document_display_awkwardList :
    awkwardList.Exact 127 ∧ awkwardList.isScalar = false ∧
      awkwardList.display = ("[-9223372036854775808,18446744073709551615,".toList ++
        "\x7b\"\":null,\"\\\"\\\\\":\"\\u0007\\n\x7f😀\"\x7d,[],true]".toList) ∧
      ∀ reader, Source.document reader (Text.bytes awkwardList.display) .json "key".toList =
        .ok awkwardList := by
  have hexact : awkwardList.Exact 127 := by
    refine .list (List.forall_mem_cons.mpr ⟨.whole _, List.forall_mem_cons.mpr ⟨.whole _,
      List.forall_mem_cons.mpr ⟨.map (List.pairwise_pair.mpr (by decide)) ?_,
        List.forall_mem_cons.mpr ⟨.list nofun, List.forall_mem_singleton.mpr (.bool true)⟩⟩⟩⟩)
    exact List.forall_mem_cons.mpr ⟨.null, List.forall_mem_singleton.mpr (.string _)⟩
  exact ⟨hexact, rfl, by rfl, fun reader => (document_display hexact rfl).1 reader _⟩

end Stencil
