import Mathlib.Tactic.SplitIfs
import Stencil.Json
import Stencil.Json.Literal

/-!
# Literals read back

A quoted string and a whole number in digits are read as what they write, and the reader stops just
behind them. A string ends at its closing mark whatever follows; a number ends where no character
follows that could go on with it.
-/

namespace Stencil

namespace Json

variable {rest : Text}

/-! ## Strings -/

private theorem hexDigit?_hexDigit : ∀ n < 16, hexDigit? (hexDigit n) = some n := by decide

private theorem unicodeEscape?_control {c : Char} (h : c.toNat < 0x20) (rest : Text) :
    unicodeEscape? ('0' :: '0' :: hexDigit (c.toNat / 16) :: hexDigit (c.toNat % 16) :: rest) =
      some (c, rest) := by
  have hhigh := hexDigit?_hexDigit (c.toNat / 16) (by omega)
  have hlow := hexDigit?_hexDigit (c.toNat % 16) (by omega)
  have hzero : hexDigit? '0' = some 0 := rfl
  have hnumber : ((0 * 16 + 0) * 16 + c.toNat / 16) * 16 + c.toNat % 16 = c.toNat := by omega
  have hsurrogate : isHighSurrogate c.toNat = false ∧ isLowSurrogate c.toNat = false := by
    simp only [isHighSurrogate, isLowSurrogate, Bool.and_eq_false_iff, decide_eq_false_iff_not]
    omega
  simp only [unicodeEscape?, hexFour?, hzero, hhigh, hlow, hnumber, hsurrogate.1, hsurrogate.2,
    Bool.false_eq_true, ite_false, Char.ofNat_toNat]

/-- What is written for a character inside a string is read as that character. -/
theorem stringChar?_escape (c : Char) (rest : Text) :
    stringChar? (escape c ++ rest) = some (c, rest) := by
  unfold escape
  split_ifs with hmark hslash hback htab hfeed hform hreturn hcontrol
  · rw [hmark]; rfl
  · rw [hslash]; rfl
  · rw [hback]; rfl
  · rw [htab]; rfl
  · rw [hfeed]; rfl
  · rw [hform]; rfl
  · rw [hreturn]; rfl
  · exact unicodeEscape?_control hcontrol rest
  · have hplain : ¬ (c = '\\' || decide (c.toNat < 0x20)) = true := by simp [hslash, hcontrol]
    rw [List.singleton_append, stringChar?.eq_def]
    split
    · next h => exact absurd (List.cons.inj h).1 hslash
    · next h => exact absurd (List.cons.inj h).1 hslash
    · next h =>
      obtain ⟨rfl, rfl⟩ := List.cons.inj h
      rw [if_neg hplain]
    · next h => exact nomatch h

private theorem escape_append_ne (c : Char) (rest more : Text) : escape c ++ rest ≠ '"' :: more := by
  unfold escape
  split_ifs with hmark <;> intro h <;> simp_all

private theorem stringBody?_flatMap (s rest : Text) {fuel : Nat} (h : s.length ≤ fuel) :
    stringBody? fuel (s.flatMap escape ++ '"' :: rest) = some (s, rest) := by
  induction s generalizing fuel with
  | nil => cases fuel <;> rfl
  | cons c s ih =>
    cases fuel with
    | zero => exact absurd h (Nat.not_succ_le_zero s.length)
    | succ fuel =>
      rw [List.flatMap_cons, List.append_assoc, stringBody?.eq_def]
      split
      · next h' => exact absurd h' (escape_append_ne c _ _)
      · next h' _ => exact absurd h' (Nat.succ_ne_zero fuel)
      · next h' _ =>
        obtain rfl := Nat.succ.inj h'
        rw [stringChar?_escape]
        simp only [ih (Nat.le_of_succ_le_succ h), Option.map_some]

private theorem length_le_flatMap (s : Text) : s.length ≤ (s.flatMap escape).length := by
  induction s with
  | nil => exact Nat.le_refl 0
  | cons c s ih =>
    have hpos : 0 < (escape c).length := by
      unfold escape
      split_ifs <;> simp
    rw [List.flatMap_cons, List.length_append, List.length_cons]
    omega

/-- A quoted string is read as the string, whatever follows. -/
theorem string?_flatMap (s rest : Text) :
    string? (s.flatMap escape ++ '"' :: rest) = some (s, rest) := by
  refine stringBody?_flatMap s rest ?_
  have hlength := length_le_flatMap s
  rw [List.length_append]
  omega

/-! ## Whole numbers -/

/-- The decimal digits of a number, from the front. -/
def decimalDigits (n : Nat) : List Nat := (Text.ofNat n).filterMap digit?

private theorem digit?_digitChar : ∀ n < 10, digit? (Nat.digitChar n) = some n := by decide

private theorem decimalDigits_of_lt {n : Nat} (h : n < 10) : decimalDigits n = [n] := by
  rw [decimalDigits, Text.ofNat_eq_toDigits, Nat.toDigits_of_lt_base h,
    List.filterMap_cons_some (digit?_digitChar n h), List.filterMap_nil]

private theorem decimalDigits_of_le {n : Nat} (h : 10 ≤ n) :
    decimalDigits n = decimalDigits (n / 10) ++ [n % 10] := by
  have htext : Text.ofNat n = Text.ofNat (n / 10) ++ [Nat.digitChar (n % 10)] := by
    rw [Text.ofNat_eq_toDigits, Nat.toDigits_of_base_le (by decide) h, Text.ofNat_eq_toDigits]
  have hlast := digit?_digitChar (n % 10) (Nat.mod_lt n (by decide))
  rw [decimalDigits, htext, List.filterMap_append, List.filterMap_cons_some hlast,
    List.filterMap_nil, decimalDigits]

/-- The digits of a number write it. -/
theorem ofDigits_decimalDigits (n : Nat) : ofDigits (decimalDigits n) = n := by
  induction n using Nat.strongRecOn with
  | _ n ih =>
    by_cases h : n < 10
    · rw [decimalDigits_of_lt h]
      exact Nat.zero_add n
    · have hrest := ih (n / 10) (by omega)
      rw [ofDigits] at hrest
      rw [decimalDigits_of_le (by omega), ofDigits, List.foldl_append, hrest, List.foldl_cons,
        List.foldl_nil]
      omega

private theorem exists_decimalDigits_eq_cons (n : Nat) :
    ∃ d more, decimalDigits n = d :: more ∧ (d = 0 → more = []) := by
  induction n using Nat.strongRecOn with
  | _ n ih =>
    by_cases h : n < 10
    · exact ⟨n, [], decimalDigits_of_lt h, fun _ => rfl⟩
    · obtain ⟨d, more, hrest, hzero⟩ := ih (n / 10) (by omega)
      refine ⟨d, more ++ [n % 10], by rw [decimalDigits_of_le (by omega), hrest]; rfl, ?_⟩
      rintro rfl
      -- A lone zero in front would write the number in front of the last digit.
      have hwritten := ofDigits_decimalDigits (n / 10)
      rw [hrest, hzero rfl] at hwritten
      have hnone : 0 = n / 10 := hwritten
      omega

/-- No number goes on with the beginning of the text. -/
def Numeral.Ended (rest : Text) : Prop :=
  ∀ c ∈ rest.head?, c.isDigit = false ∧ c ≠ '.' ∧ c ≠ 'e' ∧ c ≠ 'E'

private theorem digits_ofNat (n : Nat) (h : Numeral.Ended rest) :
    digits (Text.ofNat n ++ rest) = (decimalDigits n, rest) := by
  have hdigit : ∀ c ∈ Text.ofNat n, c.isDigit = true := fun c => Text.isDigit_of_mem_ofNat
  have hrest : rest.takeWhile Char.isDigit = [] ∧ rest.dropWhile Char.isDigit = rest := by
    cases rest with
    | nil => exact ⟨rfl, rfl⟩
    | cons c more =>
      have hc : ¬ c.isDigit = true := by simp [(h c rfl).1]
      exact ⟨List.takeWhile_cons_of_neg hc, List.dropWhile_cons_of_neg hc⟩
  rw [digits, List.takeWhile_append_of_pos hdigit, List.dropWhile_append_of_pos hdigit, hrest.1,
    hrest.2, List.append_nil, decimalDigits]

private theorem whole?_ofNat (n : Nat) (h : Numeral.Ended rest) :
    Numeral.whole? (Text.ofNat n ++ rest) = some (decimalDigits n, rest) := by
  obtain ⟨d, more, hdigits, hzero⟩ := exists_decimalDigits_eq_cons n
  rw [Numeral.whole?, digits_ofNat n h, hdigits]
  cases d with
  | zero => rw [hzero rfl]; rfl
  | succ d => rfl

/-- The text of a whole number is read as its sign and its digits. -/
theorem read?_intText (n : Int) (h : Numeral.Ended rest) :
    Numeral.read? (Number.intText n ++ rest) =
      some (⟨decide (n < 0), decimalDigits n.natAbs, none, none⟩, rest) := by
  have hfraction : Numeral.fraction? rest = some (none, rest) := by
    unfold Numeral.fraction?
    split
    · exact absurd rfl (h '.' rfl).2.1
    · rfl
  have hexponent : Numeral.exponent? rest = some (none, rest) := by
    unfold Numeral.exponent?
    split
    · exact absurd rfl (h 'e' rfl).2.2.1
    · exact absurd rfl (h 'E' rfl).2.2.2
    · rfl
  have hwhole := whole?_ofNat n.natAbs h
  by_cases hn : n < 0
  · simp only [Number.intText, hn, ite_true, List.cons_append, Numeral.read?, hwhole, hfraction,
      hexponent, decide_true]
  · have hsign : ∀ more, Text.ofNat n.natAbs ++ rest ≠ '-' :: more := by
      intro more hm
      obtain ⟨c, t, ht⟩ := List.exists_cons_of_ne_nil (Text.ofNat_ne_nil n.natAbs)
      have hc : c.isDigit = true := Text.isDigit_of_mem_ofNat (ht ▸ List.mem_cons_self)
      rw [ht] at hm
      rw [(List.cons.inj hm).1] at hc
      exact nomatch hc
    simp only [Number.intText, hn, ite_false, Numeral.read?, hwhole, hfraction,
      hexponent, decide_false]

/-- A sign and digits are read as the whole number they write. -/
theorem number?_whole (w : Whole) :
    number? ⟨decide (w.value < 0), decimalDigits w.value.natAbs, none, none⟩ =
      some (.whole w) := by
  have hvalue : (if decide (w.value < 0) = true then -(w.value.natAbs : Int)
      else (w.value.natAbs : Int)) = w.value := by
    by_cases hn : w.value < 0
    · simp only [hn, decide_true, ite_true]
      omega
    · simp only [hn, decide_false, Bool.false_eq_true, ite_false]
      omega
  have hwhole : Whole.ofInt? w.value = some w := by
    rw [Whole.ofInt?, dif_pos ⟨w.lower, w.upper⟩]
  have hzero : ¬ (decide (w.value < 0) = true ∧ w.value = 0) := by
    rw [decide_eq_true_eq]
    omega
  simp only [number?, ofDigits_decimalDigits, hvalue, hwhole, hzero, ite_false]

end Json

end Stencil
