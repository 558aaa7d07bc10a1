import Stencil.Text

/-!
# Decimal numbers

A decimal number is a whole number of units of a power of ten. A layout says how one is written:
where positional notation ends, whether a whole number shows a fraction, how an exponent looks, and
which way a tie between two decimals goes.
-/

namespace Stencil

/-- The number `digits · 10 ^ exponent`. -/
structure Decimal where
  /-- The digits, read as a whole number. -/
  digits : Nat
  /-- The power of ten they count. -/
  exponent : Int
  deriving DecidableEq, Repr

/-- Which of two neighbouring decimals stands for a number just halfway between them. -/
inductive Tie
  /-- The one with an even last digit. -/
  | even
  /-- The greater one. -/
  | upper
  deriving DecidableEq, Repr

/-- Whether the lesser of two neighbours stands for the number between them. -/
def Tie.takesLower (tie : Tie) (lower : Nat) : Bool :=
  match tie with
  | even => lower % 2 == 0
  | upper => false

/-- How decimal numbers are written. -/
structure DecimalLayout where
  /-- Whether a number whose first digit stands for this power of ten is written positionally. -/
  positional : Int → Bool
  /-- What follows a positional number without a fraction. -/
  wholeEnd : Text
  /-- The sign in front of an exponent that is not negative. -/
  plus : Text
  /-- Which decimal is written for a number halfway between two. -/
  tie : Tie

namespace Decimal

/-- The digits as text. -/
def digitText (d : Decimal) : Text := Text.ofNat d.digits

/-- The power of ten of the first digit. -/
def leading (d : Decimal) : Int := d.digitText.length - 1 + d.exponent

/-- Positional notation: zeros up to the point, or a point inside or before the digits. -/
def positional (layout : DecimalLayout) (d : Decimal) : Text :=
  let ds := d.digitText
  if 0 ≤ d.exponent then ds ++ List.replicate d.exponent.toNat '0' ++ layout.wholeEnd
  else if 0 ≤ d.leading then
    let whole := (d.leading + 1).toNat
    ds.take whole ++ '.' :: ds.drop whole
  else '0' :: '.' :: List.replicate (-d.leading - 1).toNat '0' ++ ds

/-- Scientific notation: one digit, the others after a point, and the exponent. -/
def scientific (layout : DecimalLayout) (d : Decimal) : Text :=
  let mantissa :=
    match d.digitText with
    | [] => []
    | [c] => [c]
    | c :: more => c :: '.' :: more
  let sign := if d.leading < 0 then ['-'] else layout.plus
  mantissa ++ 'e' :: sign ++ Text.ofNat d.leading.natAbs

/-- A decimal number as its layout has it. -/
def text (layout : DecimalLayout) (d : Decimal) : Text :=
  if layout.positional d.leading then d.positional layout else d.scientific layout

end Decimal

end Stencil
