import Stencil.Json.Literal

/-!
# Reading decimals

The double nearest to a decimal number as people write it: digits before or after a point, an optional
sign and exponent, and the words for infinity and for no number.
-/

namespace Stencil

namespace Decimal

/-- A sign at the beginning of a text: whether it is a minus. -/
def sign : Text → Bool × Text
  | '-' :: rest => (true, rest)
  | '+' :: rest => (false, rest)
  | t => (false, t)

/-- The exponent at the end of a number. -/
def exponent? : Text → Option Int
  | [] => some 0
  | c :: rest =>
    if c = 'e' ∨ c = 'E' then
      let (negative, t) := sign rest
      match Json.digits t with
      | (d :: ds, []) =>
        let n : Int := Json.ofDigits (d :: ds)
        some (if negative then -n else n)
      | _ => none
    else none

/-- The double nearest to `digits · 10 ^ exponent`; far outside the range of doubles no arithmetic is
done. -/
def nearest (digits : Nat) (exponent : Int) : Float :=
  if digits = 0 ∨ exponent < -(400 + (Text.ofNat digits).length) then 0.0
  else if 400 < exponent then 1.0 / 0.0
  else Float.ofScientific digits (exponent < 0) exponent.natAbs

/-- A number in digits, without its sign. -/
def magnitude? (t : Text) : Option Float :=
  let (whole, t) := Json.digits t
  let (fraction, t) :=
    match t with
    | '.' :: rest => Json.digits rest
    | _ => ([], t)
  if whole.isEmpty ∧ fraction.isEmpty then none
  else (exponent? t).map fun e => nearest (Json.ofDigits (whole ++ fraction)) (e - fraction.length)

/-- The words for numbers that have no digits, in any case of letters. -/
def word? (t : Text) : Option Float :=
  let t := t.map Char.toLower
  if t = "inf".toList ∨ t = "infinity".toList then some (1.0 / 0.0)
  else if t = "nan".toList then some (0.0 / 0.0)
  else none

/-- The double that a text writes. -/
def read? (t : Text) : Option Float :=
  let (negative, t) := sign t
  ((magnitude? t).or (word? t)).map fun x => if negative then -x else x

end Decimal

end Stencil
