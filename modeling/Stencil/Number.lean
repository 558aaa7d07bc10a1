import Stencil.Decimal.Shortest

/-!
# Numbers

A number of a document is either whole, when it fits in 64 bits, or a double. The two kinds stay
apart: `1` and `1.0` are different numbers with different texts.
-/

namespace Stencil

/-- A whole number that fits in 64 bits, with or without a sign. -/
structure Whole where
  /-- The number. -/
  value : Int
  /-- It is not below the least signed number. -/
  lower : -0x8000000000000000 ≤ value
  /-- It is not above the greatest unsigned number. -/
  upper : value < 0x10000000000000000
  deriving DecidableEq, Repr

/-- A whole number, where it fits. -/
def Whole.ofInt? (n : Int) : Option Whole :=
  if h : -0x8000000000000000 ≤ n ∧ n < 0x10000000000000000 then some ⟨n, h.1, h.2⟩ else none

/-- Numbers of a document. -/
inductive Number
  /-- A whole number. -/
  | whole (n : Whole)
  /-- A double. -/
  | real (x : Float)
  deriving DecidableEq, Repr

namespace Number

/-- A whole number in decimal digits, after a minus sign if it is negative. -/
def intText (n : Int) : Text :=
  if n < 0 then '-' :: Text.ofNat n.natAbs else Text.ofNat n.natAbs

/-- Doubles in documents: positional from `10 ^ -5` to below `10 ^ 16`, always with a fraction; a
tie goes to the even digit. -/
def documentLayout : DecimalLayout :=
  ⟨fun leading => -5 ≤ leading && leading < 16, ".0".toList, ['+'], .even⟩

/-- The text of a number in a document. Infinities and no number have none, and are not stored. -/
def text : Number → Text
  | whole n => intText n.value
  | real x =>
    match Binary.ofFloat? x with
    | none => "null".toList
    | some b => b.text documentLayout

/-- The double next to a number. -/
def toFloat : Number → Float
  | whole n => Float.ofInt n.value
  | real x => x

end Number

end Stencil
