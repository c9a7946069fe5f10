/-! The shortest decimal that reads back as a given binary number. A float is
`mantissa · 2^exponent`, and the reals that round to it fill an interval around it,
with its ends when the mantissa is even. For one digit, two digits, and so on, the
decimals of that many digits form a grid; the first grid with a point in the
interval wins, and on it the point nearer to the float, an even one in a tie. If
any point of a grid lies in the interval, then one of the float's two neighbours
on that grid does, so only those two are tried. -/
namespace TemplateFill.Decimal

/-- A positive number `mantissa · 2^exponent`. `even` tells whether the ends of its
interval round to it, `narrow` whether the next smaller float is half as far away
as the next greater one. -/
structure Binary where
  mantissa : Nat
  exponent : Int
  narrow : Bool
  deriving DecidableEq, Repr

/-- The absolute value of a finite float, unless it is zero. -/
def Binary.ofBits? (bits : UInt64) : Option Binary :=
  let fraction := bits.toNat % (1 <<< 52)
  let biased : Nat := (bits.toNat >>> 52) % (1 <<< 11)
  if biased = 0 then
    if fraction = 0 then none else some ⟨fraction, -1074, false⟩
  else some ⟨1 <<< 52 + fraction, biased - 1075, fraction = 0 ∧ 1 < biased⟩

/-- A decimal `digits · 10^exponent`. -/
structure Point where
  digits : Nat
  exponent : Int
  deriving DecidableEq, Repr

namespace Binary

/-- Four times the binary number and the ends of its interval, in units of `2^exponent`. -/
def value (b : Binary) : Nat := 4 * b.mantissa

def low (b : Binary) : Nat := 4 * b.mantissa - if b.narrow then 1 else 2

def high (b : Binary) : Nat := 4 * b.mantissa + 2

/-- Factors that compare decimals of a grid with the binary number: the point
`d · 10^grid` lies to the value as `d * factors.1` to `value * factors.2`. -/
def factors (b : Binary) (grid : Int) : Nat × Nat :=
  ((4 * Nat.pow 10 grid.toNat) <<< (-b.exponent).toNat,
    Nat.pow 10 (-grid).toNat <<< b.exponent.toNat)

/-- Whether a point of a grid lies in the interval. -/
def reaches (b : Binary) (grid : Int) (d : Nat) : Bool :=
  let (up, down) := b.factors grid
  if b.mantissa % 2 = 0 then b.low * down ≤ d * up && d * up ≤ b.high * down
  else b.low * down < d * up && d * up < b.high * down

/-- The grid point just below the binary number, or on it. -/
def floor (b : Binary) (grid : Int) : Nat :=
  let (up, down) := b.factors grid
  b.value * down / up

/-- The point of a grid that stands for the binary number, if one does. -/
def nearest? (b : Binary) (grid : Int) : Option Point :=
  let (up, down) := b.factors grid
  let d := b.floor grid
  let below := b.value * down - d * up
  let above := (d + 1) * up - b.value * down
  match b.reaches grid d, b.reaches grid (d + 1) with
  | true, true =>
    if below < above ∨ (below = above ∧ d % 2 = 0) then some ⟨d, grid⟩ else some ⟨d + 1, grid⟩
  | true, false => some ⟨d, grid⟩
  | false, true => some ⟨d + 1, grid⟩
  | false, false => none

/-- The power of ten of the leading digit. -/
def magnitude (b : Binary) : Int :=
  let (up, down) := b.factors 0
  let places (n : Nat) : Int := (Nat.toDigits 10 n).length
  let guess := places (b.value * down) - places up
  if b.floor guess = 0 then guess - 1 else guess

/-- Seventeen digits tell all floats apart, so no finer grid is needed. -/
def shortest (b : Binary) : Point :=
  let finest := b.magnitude - 16
  let grids := (List.range 17).map fun (n : Nat) => b.magnitude - n
  (grids.findSome? b.nearest?).getD ⟨b.floor finest, finest⟩

end Binary

/-- A point in scientific notation: its digits without zeros at the end, and the
power of ten of the first. -/
def Point.scientific (p : Point) : List Char × Int :=
  let digits := Nat.toDigits 10 p.digits
  ((digits.reverse.dropWhile (· == '0')).reverse, p.exponent + digits.length - 1)

example : (Binary.ofBits? 1).map Binary.shortest = some ⟨5, -324⟩ := by decide +kernel

example : (Binary.ofBits? 0x3fb999999999999a).map Binary.shortest = some ⟨1, -1⟩ := by
  decide +kernel

example : (Binary.ofBits? 0x7fefffffffffffff).map Binary.shortest =
    some ⟨17976931348623157, 292⟩ := by decide +kernel

end TemplateFill.Decimal
