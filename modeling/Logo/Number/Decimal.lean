import Logo.Number.Exact

/-!
# Shortest decimals

Every double is the nearest one to a whole interval of real numbers.
`Decimal.shortest` finds, in that interval, the decimal with the fewest digits
and, among those, the one closest to the double itself.

On the grid of decimals with a given number of digits only the two neighbours
of the value can be closest, so one grid after the other is tried, coarsest
first.  Seventeen digits always suffice.
-/

namespace Logo.Number

/-- The positive decimal `digits · 10 ^ exponent`. -/
structure Decimal where
  digits : Nat
  exponent : Int
deriving DecidableEq, Repr

namespace Decimal

/-- Whether `10 ^ power` is at most `numerator / denominator`. -/
def powerAtMost (numerator denominator : Nat) (power : Int) : Bool :=
  denominator * powerOfTen power.toNat ≤ numerator * powerOfTen (-power).toNat

/-- The exponent of the leading decimal digit of `numerator / denominator`. -/
def leadingExponent (numerator denominator : Nat) : Int :=
  let estimate := (leadingPower numerator denominator * 30103).fdiv 100000
  if powerAtMost numerator denominator (estimate + 1) then
    estimate + 1
  else if powerAtMost numerator denominator estimate then
    estimate
  else
    estimate - 1

/--
Whether a decimal is read back as the double of `value`.  The ends of the
interval, half a unit away, belong to it exactly when the significand is even;
below a power of two the lower end is only a quarter of a unit away.
-/
def reads (value : Exact) (decimal : Decimal) : Bool :=
  let lower :=
    if value.significand == hiddenBit && value.exponent > -1074 then
      4 * value.significand - 1
    else
      4 * value.significand - 2
  let upper := 4 * value.significand + 2
  let unit := value.exponent - 2
  let point := (decimal.digits * powerOfTen decimal.exponent.toNat) <<< (-unit).toNat
  let scaled (bound : Nat) : Nat :=
    (bound * powerOfTen (-decimal.exponent).toNat) <<< unit.toNat
  if value.significand % 2 == 0 then
    scaled lower ≤ point && point ≤ scaled upper
  else
    scaled lower < point && point < scaled upper

/--
The decimal closest to a value among those with `count` digits that are read
back as it, if there is one.  Of two equally close ones the even one is taken.
-/
def ofCount? (value : Exact) (leading : Int) (count : Nat) : Option Decimal :=
  let exponent := leading - count + 1
  let numerator := value.numerator * powerOfTen (-exponent).toNat
  let denominator := value.denominator * powerOfTen exponent.toNat
  let below : Decimal := ⟨numerator / denominator, exponent⟩
  let above : Decimal := ⟨numerator / denominator + 1, exponent⟩
  match reads value below, reads value above with
  | true, true => some ⟨divideNearest numerator denominator, exponent⟩
  | true, false => some below
  | false, true => some above
  | false, false => none

/-- Drop the zeros at the end of the digits, at most `limit` of them. -/
def dropZeros : Nat → Decimal → Decimal
  | 0, decimal => decimal
  | limit + 1, decimal =>
      if decimal.digits % 10 == 0 then
        dropZeros limit ⟨decimal.digits / 10, decimal.exponent + 1⟩
      else
        decimal

/-- The shortest decimal that is read back as a nonzero value. -/
def shortest (value : Exact) : Decimal :=
  let leading := leadingExponent value.numerator value.denominator
  let found := (List.range 17).findSome? fun index => ofCount? value leading (index + 1)
  dropZeros 17 (found.getD ⟨value.numerator / value.denominator, 0⟩)

end Decimal

end Logo.Number
