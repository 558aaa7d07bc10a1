import Stencil.Number

/-!
# JSON strings and numbers

Reading the two kinds of literal that carry text. Each reader takes a beginning of the text and gives
back the rest. A number with neither fraction nor exponent stays whole if it fits in 64 bits; all
others become doubles by one scaling of a 64-bit significand by a power of ten.
-/

namespace Stencil

namespace Json

/-- The value of a decimal digit. -/
def digit? (c : Char) : Option Nat :=
  if '0' ≤ c ∧ c ≤ '9' then some (c.toNat - '0'.toNat) else none

/-- The value of a hexadecimal digit in either case. -/
def hexDigit? (c : Char) : Option Nat :=
  if '0' ≤ c ∧ c ≤ '9' then some (c.toNat - '0'.toNat)
  else if 'a' ≤ c ∧ c ≤ 'f' then some (c.toNat - 'a'.toNat + 10)
  else if 'A' ≤ c ∧ c ≤ 'F' then some (c.toNat - 'A'.toNat + 10)
  else none

/-- Four hexadecimal digits. -/
def hexFour? : Text → Option (Nat × Text)
  | a :: b :: c :: d :: rest =>
    match hexDigit? a, hexDigit? b, hexDigit? c, hexDigit? d with
    | some a, some b, some c, some d => some (((a * 16 + b) * 16 + c) * 16 + d, rest)
    | _, _, _, _ => none
  | _ => none

/-- The characters a backslash and a letter stand for. -/
def shortEscape? (c : Char) : Option Char :=
  match c with
  | '"' => some '"'
  | '\\' => some '\\'
  | '/' => some '/'
  | 'b' => some '\x08'
  | 'f' => some '\x0c'
  | 'n' => some '\n'
  | 'r' => some '\r'
  | 't' => some '\t'
  | _ => none

/-- Whether a 16-bit unit is the first half of a surrogate pair. -/
def isHighSurrogate (n : Nat) : Bool := 0xd800 ≤ n && n ≤ 0xdbff

/-- Whether a 16-bit unit is the second half of a surrogate pair. -/
def isLowSurrogate (n : Nat) : Bool := 0xdc00 ≤ n && n ≤ 0xdfff

/-- The character after a backslash and `u`: four hexadecimal digits, or two such groups for a
surrogate pair. Half a pair is refused. -/
def unicodeEscape? (t : Text) : Option (Char × Text) :=
  match hexFour? t with
  | none => none
  | some (n, rest) =>
    if isHighSurrogate n then
      match rest with
      | '\\' :: 'u' :: more =>
        match hexFour? more with
        | none => none
        | some (m, after) =>
          if isLowSurrogate m then
            some (Char.ofNat (0x10000 + (n - 0xd800) * 0x400 + (m - 0xdc00)), after)
          else none
      | _ => none
    else if isLowSurrogate n then none
    else some (Char.ofNat n, rest)

/-- The first character of the inside of a string: itself, or what an escape stands for. Controls
below the space must be escaped. -/
def stringChar? : Text → Option (Char × Text)
  | '\\' :: 'u' :: rest => unicodeEscape? rest
  | '\\' :: c :: rest => (shortEscape? c).map (·, rest)
  | c :: rest => if c = '\\' || c.toNat < 0x20 then none else some (c, rest)
  | [] => none

/-- The inside of a string up to its closing quotation mark. `fuel` bounds the characters. -/
def stringBody? : Nat → Text → Option (Text × Text)
  | _, '"' :: rest => some ([], rest)
  | 0, _ => none
  | fuel + 1, t =>
    match stringChar? t with
    | none => none
    | some (c, rest) => (stringBody? fuel rest).map fun (s, after) => (c :: s, after)

/-- A string, after its opening quotation mark. -/
def string? (t : Text) : Option (Text × Text) := stringBody? t.length t

/-- The digits at the beginning of a text. -/
def digits (t : Text) : List Nat × Text :=
  ((t.takeWhile Char.isDigit).filterMap digit?, t.dropWhile Char.isDigit)

/-- A number as written. -/
structure Numeral where
  /-- Whether a minus sign is in front. -/
  negative : Bool
  /-- The digits before the point. -/
  whole : List Nat
  /-- The digits after the point, where there is one. -/
  fraction : Option (List Nat)
  /-- The exponent, where there is one: whether it is negative, and its digits. -/
  exponent : Option (Bool × List Nat)
  deriving DecidableEq, Repr

namespace Numeral

/-- The digits before the point: a lone zero, or digits that start with another. -/
def whole? (t : Text) : Option (List Nat × Text) :=
  match digits t with
  | ([], _) => none
  | (0 :: _ :: _, _) => none
  | found => some found

/-- A point and at least one digit, or nothing. -/
def fraction? : Text → Option (Option (List Nat) × Text)
  | '.' :: rest =>
    match digits rest with
    | ([], _) => none
    | (ds, after) => some (some ds, after)
  | t => some (none, t)

/-- The sign and the digits of an exponent. -/
def signedDigits? (t : Text) : Option (Option (Bool × List Nat) × Text) :=
  let (negative, rest) :=
    match t with
    | '-' :: rest => (true, rest)
    | '+' :: rest => (false, rest)
    | _ => (false, t)
  match digits rest with
  | ([], _) => none
  | (ds, after) => some (some (negative, ds), after)

/-- The letter `e` and an exponent, or nothing. -/
def exponent? : Text → Option (Option (Bool × List Nat) × Text)
  | 'e' :: rest | 'E' :: rest => signedDigits? rest
  | t => some (none, t)

/-- A number as written, at the beginning of a text. -/
def read? (t : Text) : Option (Numeral × Text) :=
  let (negative, t) :=
    match t with
    | '-' :: rest => (true, rest)
    | _ => (false, t)
  match whole? t with
  | none => none
  | some (whole, t) =>
    match fraction? t with
    | none => none
    | some (fraction, t) =>
      match exponent? t with
      | none => none
      | some (exponent, t) => some (⟨negative, whole, fraction, exponent⟩, t)

end Numeral

/-- The number a list of digits writes. -/
def ofDigits (ds : List Nat) : Nat := ds.foldl (fun n d => n * 10 + d) 0

/-- The digits that a 64-bit significand has room for after `n`, and those left over: the first digit
that does not fit and all after it. -/
def fillSignificand (n : Nat) : List Nat → Nat × List Nat
  | [] => (n, [])
  | d :: rest =>
    if n * 10 + d < 0x10000000000000000 then fillSignificand (n * 10 + d) rest else (n, d :: rest)

/-- The significand of a numeral and its power of ten before the written exponent: left-over digits
before the point add to the power, and used digits after it subtract. -/
def scaled (numeral : Numeral) : Nat × Int :=
  let (n, dropped) := fillSignificand 0 numeral.whole
  let fraction := numeral.fraction.getD []
  let (m, unused) := fillSignificand n fraction
  (m, (dropped.length : Int) - ((fraction.length - unused.length : Nat) : Int))

/-- Whether a double is one of the infinities. -/
def isInfinite (x : Float) : Bool := x == 1.0 / 0.0 || x == -1.0 / 0.0

/-- The double next to a power of ten, which need not be the power itself. -/
def powerOfTen (n : Nat) : Float := Float.ofScientific 1 false n

/-- Multiply or divide a double by a power of ten. The power is applied at once up to `10 ^ 308`;
below `10 ^ -308` it is divided off in steps, and above `10 ^ 308`, as on overflow, there is no
result. `fuel` bounds the steps. -/
def scale? : Nat → Float → Int → Option Float
  | 0, x, _ => some x
  | fuel + 1, x, e =>
    if e.natAbs ≤ 308 then
      if 0 ≤ e then
        let y := x * powerOfTen e.toNat
        if isInfinite y then none else some y
      else some (x / powerOfTen e.natAbs)
    else if x == 0.0 then some x
    else if 0 ≤ e then none
    else scale? fuel (x / powerOfTen 308) (e + 308)

/-- The double a numeral stands for. An exponent too long for 32 bits gives zero when it is negative
or the significand is zero, and no double otherwise. -/
def real? (numeral : Numeral) : Option Float :=
  let (significand, power) := scaled numeral
  let signed (x : Float) := if numeral.negative then -x else x
  let (below, exponent) :=
    match numeral.exponent with
    | none => (false, 0)
    | some (below, ds) => (below, ofDigits ds)
  if 0x80000000 ≤ exponent then
    if significand ≠ 0 ∧ ¬below then none else some (signed 0.0)
  else
    let e : Int := if below then power - exponent else power + exponent
    (scale? (e.natAbs / 308 + 2) (Float.ofNat significand) e).map signed

/-- The number a numeral stands for. Minus zero is a double. -/
def number? (numeral : Numeral) : Option Number :=
  let magnitude : Int := ofDigits numeral.whole
  let n := if numeral.negative then -magnitude else magnitude
  match numeral.fraction, numeral.exponent, Whole.ofInt? n with
  | none, none, some w =>
    if numeral.negative ∧ n = 0 then (real? numeral).map .real else some (.whole w)
  | _, _, _ => (real? numeral).map .real

end Json

end Stencil
