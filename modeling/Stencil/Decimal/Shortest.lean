import Stencil.Decimal

/-!
# Shortest decimals

The shortest decimal number that reads back as a given binary floating-point number. The numbers that
read back form an interval around it. On each decimal grid, from coarse to fine, only the two grid
points next to the number need a test; the first grid with a hit gives the fewest digits, and of two
hits the nearer one is taken. A number just between them goes the way of its layout. All arithmetic is
exact.
-/

namespace Stencil

/-- The parts of a finite binary floating-point number, `mantissa · 2 ^ exponent` up to its sign. -/
structure Binary where
  /-- Whether the sign bit is set. -/
  negative : Bool
  /-- The significant bits, read as a whole number. -/
  mantissa : Nat
  /-- The power of two they count. -/
  exponent : Int
  deriving DecidableEq, Repr

namespace Binary

/-- The bit of a mantissa above those that a double stores. -/
def leadingBit : Nat := 0x10000000000000

/-- Take a double apart; `none` for the infinities and for no number. -/
def ofFloat? (x : Float) : Option Binary :=
  let bits := x.toBits.toNat
  let negative := bits / 0x8000000000000000 == 1
  let exponent : Nat := bits / leadingBit % 2048
  let fraction : Nat := bits % leadingBit
  if exponent = 2047 then none
  else if exponent = 0 then some ⟨negative, fraction, -1074⟩
  else some ⟨negative, leadingBit + fraction, (exponent : Int) - 1075⟩

/-- Just below the least mantissa the neighbours are half as far apart. -/
def nearBelow (b : Binary) : Bool := b.mantissa == leadingBit && b.exponent != -1074

/-- The ends of the interval that reads back, counted in quarters of the last bit. -/
def interval (b : Binary) : Nat × Nat :=
  (4 * b.mantissa - (if b.nearBelow then 1 else 2), 4 * b.mantissa + 2)

/-- The numerator and the denominator of a quarter of the last bit over `10 ^ grid`. -/
def quarterOver (b : Binary) (grid : Int) : Nat × Nat :=
  let e := b.exponent - 2
  (Nat.pow 2 e.toNat * Nat.pow 10 (-grid).toNat, Nat.pow 2 (-e).toNat * Nat.pow 10 grid.toNat)

/-- Whether the grid point `digits · 10 ^ grid` reads back; an end of the interval does so just for
even mantissas. -/
def readsBack (b : Binary) (grid : Int) (digits : Nat) : Bool :=
  let (scale, unit) := b.quarterOver grid
  let (low, high) := b.interval
  if b.mantissa % 2 = 0 then low * scale ≤ digits * unit && digits * unit ≤ high * scale
  else low * scale < digits * unit && digits * unit < high * scale

/-- The grid point next to the number that reads back, the nearer one if both do. -/
def onGrid? (b : Binary) (tie : Tie) (grid : Int) : Option Decimal :=
  let (scale, unit) := b.quarterOver grid
  let centre := 4 * b.mantissa * scale
  let below := centre / unit
  match b.readsBack grid below, b.readsBack grid (below + 1) with
  | false, false => none
  | true, false => some ⟨below, grid⟩
  | false, true => some ⟨below + 1, grid⟩
  | true, true =>
    let down := centre - below * unit
    let up := (below + 1) * unit - centre
    if down < up ∨ (down = up ∧ tie.takesLower below) then some ⟨below, grid⟩
    else some ⟨below + 1, grid⟩

/-- A power of ten above the number, at most by a factor of a hundred. -/
def topGrid (b : Binary) : Int := (b.mantissa.log2 + 1 + b.exponent) * 30103 / 100000 + 1

/-- The shortest decimal that reads back as the number, for a mantissa that is not zero. -/
def shortest (b : Binary) (tie : Tie) : Decimal :=
  ((List.range 21).findSome? fun (n : Nat) => b.onGrid? tie (b.topGrid - n)).getD ⟨b.mantissa, 0⟩

/-- A number as its layout has it, with its sign. -/
def text (layout : DecimalLayout) (b : Binary) : Text :=
  let magnitude := if b.mantissa = 0 then ⟨0, 0⟩ else b.shortest layout.tie
  (if b.negative then ['-'] else []) ++ magnitude.text layout

end Binary

end Stencil
