/-!
# Text

Text is a list of characters: a template, a delimiter, a variable name, a rendered document. This
module holds the operations that every other part of the library shares: white space, lines,
trimming, replacement of a piece, and the number of bytes a position stands for.
-/

namespace Stencil

/-- Text is the list of its characters, so operations on it recur on that list. -/
abbrev Text := List Char

namespace Text

/-- The characters with the White_Space property: five controls, the space, and nineteen others. -/
def isSpace (c : Char) : Bool :=
  let n := c.toNat
  (9 ≤ n && n ≤ 13) || n == 0x20 || n == 0x85 || n == 0xa0 || n == 0x1680 ||
    (0x2000 ≤ n && n ≤ 0x200a) || n == 0x2028 || n == 0x2029 || n == 0x202f || n == 0x205f ||
    n == 0x3000

/-- A text is blank when it holds white space only. -/
def isBlank (t : Text) : Bool := t.all isSpace

/-- Drop the longest white-space suffix. -/
def trimEnd (t : Text) : Text := (t.reverse.dropWhile isSpace).reverse

/-- The pieces between occurrences of a character: one more than there are occurrences. -/
def split (mark : Char) : Text → List Text
  | [] => [[]]
  | c :: rest =>
    match split mark rest with
    | [] => [[c]]
    | piece :: more => if c = mark then [] :: piece :: more else (c :: piece) :: more

/-- The pieces between line feeds. -/
def lines (t : Text) : List Text := split '\n' t

/-- Put line feeds between lines, so that `unlines (lines t)` is `t`. -/
def unlines (ls : List Text) : Text := List.intercalate ['\n'] ls

/-- Walk through a text, dropping the next `skip` characters and from then on writing `new` for each
occurrence of `piece`; an empty `piece` occurs before each character and at the end. -/
def replaceFrom (piece new : Text) : Nat → Text → Text
  | _, [] => if piece.isEmpty then new else []
  | skip + 1, _ :: rest => replaceFrom piece new skip rest
  | 0, c :: rest =>
    if piece.isEmpty then new ++ c :: replaceFrom piece new 0 rest
    else if piece.isPrefixOf (c :: rest) then new ++ replaceFrom piece new (piece.length - 1) rest
    else c :: replaceFrom piece new 0 rest

/-- Write `new` for every occurrence of `piece`, from left to right without overlap. -/
def replace (t piece new : Text) : Text := replaceFrom piece new 0 t

/-- The number of bytes a text takes in UTF-8. -/
def byteLength : Text → Nat
  | [] => 0
  | c :: rest => c.utf8Size + byteLength rest

/-- The byte offset of a position, which counts characters. -/
def byteOffset (t : Text) (position : Nat) : Nat := byteLength (t.take position)

/-- The position whose byte offset is `bytes`, or the first one past it. -/
def positionAt : Text → Nat → Nat
  | [], _ => 0
  | c :: rest, bytes => if bytes = 0 then 0 else positionAt rest (bytes - c.utf8Size) + 1

/-- The text between two positions. -/
def between (t : Text) (start stop : Nat) : Text := (t.drop start).take (stop - start)

/-- Remove a given beginning, where the text has it. -/
def stripPrefix? (piece t : Text) : Option Text := piece.isPrefixOf? t

/-- Remove a given end, where the text has it. -/
def stripSuffix? (piece t : Text) : Option Text :=
  (piece.reverse.isPrefixOf? t.reverse).map List.reverse

/-- Whether `piece` occurs somewhere in the text. -/
def contains (piece : Text) : Text → Bool
  | [] => piece.isEmpty
  | c :: rest => piece.isPrefixOf (c :: rest) || contains piece rest

/-- A number in decimal digits. -/
def ofNat (n : Nat) : Text := (toString n).toList

/-- The text of a number is its decimal digits. -/
theorem ofNat_eq_toDigits (n : Nat) : ofNat n = Nat.toDigits 10 n := Nat.toList_repr

/-- Different numbers have different texts. -/
theorem ofNat_inj {m n : Nat} (h : ofNat m = ofNat n) : m = n := by
  rw [ofNat_eq_toDigits, ofNat_eq_toDigits] at h
  rw [← Nat.ofDigitChars_ten_toDigits (n := m), h, Nat.ofDigitChars_ten_toDigits]

/-- Every number has a digit. -/
theorem ofNat_ne_nil (n : Nat) : ofNat n ≠ [] := ofNat_eq_toDigits n ▸ Nat.toDigits_ne_nil

/-- The text of a number holds digits only. -/
theorem isDigit_of_mem_ofNat {n : Nat} {c : Char} (h : c ∈ ofNat n) : c.isDigit = true :=
  Nat.isDigit_of_mem_toDigits (b := 10) (by decide) (by decide) (ofNat_eq_toDigits n ▸ h)

/-- The order of texts compares code points from the left, which is also the order of their bytes
in UTF-8. -/
def before (a b : Text) : Bool := decide (a < b)

end Text

end Stencil
