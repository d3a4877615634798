/-!
# Exact values of doubles

A finite double is a whole number of units of some power of two.  `Exact`
holds that value as whole numbers, so that every later question about a
double (its whole part, its decimal digits, its nearest multiple of a
billionth) is answered in exact arithmetic.

`nearest` goes the other way: it rounds any ratio of whole numbers to the
closest double, a tie going to the even significand.
-/

namespace Logo.Number

/-- The quotient of two whole numbers, rounded to the nearest, ties to even. -/
def divideNearest (numerator denominator : Nat) : Nat :=
  let quotient := numerator / denominator
  let rest := numerator % denominator
  if 2 * rest > denominator || (2 * rest == denominator && quotient % 2 == 1) then
    quotient + 1
  else
    quotient

/-- A power of ten. -/
def powerOfTen (exponent : Nat) : Nat :=
  Nat.pow 10 exponent

/-- The bit above the fraction of a double: 2 ^ 52. -/
def hiddenBit : Nat := 0x10000000000000

/-- The bit that makes a double negative: 2 ^ 63. -/
def signBit : Nat := 0x8000000000000000

/-- The exact value `± significand · 2 ^ exponent` of a finite double. -/
structure Exact where
  negative : Bool
  significand : Nat
  exponent : Int
deriving DecidableEq, Repr

namespace Exact

/-- Take a double apart.  Infinities and NaN have no exact value. -/
def ofFloat? (number : Float) : Option Exact :=
  let bits := number.toBits
  let negative := bits >>> 63 == 1
  let scale := (bits >>> 52 &&& 0x7ff).toNat
  let fraction := (bits &&& 0xfffffffffffff).toNat
  if scale == 2047 then
    none
  else if scale == 0 then
    some ⟨negative, fraction, -1074⟩
  else
    some ⟨negative, fraction + hiddenBit, (scale : Int) - 1075⟩

/-- The numerator of the magnitude, over `denominator`. -/
def numerator (value : Exact) : Nat :=
  value.significand <<< value.exponent.toNat

/-- The denominator of the magnitude, a power of two. -/
def denominator (value : Exact) : Nat :=
  1 <<< (-value.exponent).toNat

/-- Give a magnitude the sign of the value. -/
def signed (value : Exact) (magnitude : Nat) : Int :=
  if value.negative then -(magnitude : Int) else magnitude

/-- The whole part: the fraction is dropped. -/
def whole (value : Exact) : Int :=
  value.signed
    (if value.exponent < 0 then value.significand >>> (-value.exponent).toNat
    else value.numerator)

/-- The least whole number that is not below the value. -/
def ceiling (value : Exact) : Int :=
  if value.negative then
    -((value.numerator / value.denominator : Nat) : Int)
  else
    ((value.numerator + value.denominator - 1) / value.denominator : Nat)

/-- The nearest whole number, ties to even. -/
def round (value : Exact) : Int :=
  value.signed (divideNearest value.numerator value.denominator)

/-- The nearest whole number, halves away from zero. -/
def roundAway (value : Exact) : Int :=
  value.signed ((2 * value.numerator + value.denominator) / (2 * value.denominator))

end Exact

/-- The double with the given sign and the given bits below the sign. -/
def ofMagnitudeBits (negative : Bool) (bits : Nat) : Float :=
  Float.ofBits (UInt64.ofNat (if negative then signBit + bits else bits))

/-- The bits of positive infinity. -/
def infinityBits : Nat := 2047 * hiddenBit

/-- The largest power of two not above `numerator / denominator`. -/
def leadingPower (numerator denominator : Nat) : Int :=
  let estimate := (numerator.log2 : Int) - denominator.log2
  if denominator <<< estimate.toNat ≤ numerator <<< (-estimate).toNat then
    estimate
  else
    estimate - 1

/--
The double nearest to `± numerator / denominator`, ties to even.  Ratios too
large for a double become infinite.
-/
def nearest (negative : Bool) (numerator denominator : Nat) : Float :=
  if numerator == 0 then
    ofMagnitudeBits negative 0
  else
    let unit := max (leadingPower numerator denominator - 52) (-1074)
    let significand :=
      divideNearest (numerator <<< (-unit).toNat) (denominator <<< unit.toNat)
    let bits := (unit + 1074).toNat * hiddenBit + significand
    ofMagnitudeBits negative (min bits infinityBits)

/-- The double of an exact value, rounded if it needs more than 53 bits. -/
def Exact.toFloat (value : Exact) : Float :=
  nearest value.negative value.numerator value.denominator

/-- The double nearest to a natural number.  Below 2 ^ 53 it is equal to it. -/
def ofNat (number : Nat) : Float :=
  if number < 0x20000000000000 then number.toUInt64.toFloat else nearest false number 1

/-- The double nearest to a whole number. -/
def ofInt (number : Int) : Float :=
  if number < 0 then -ofNat number.natAbs else ofNat number.natAbs

/-- The whole part of a double, if it has one. -/
def whole? (number : Float) : Option Int :=
  (Exact.ofFloat? number).map Exact.whole

/-- Whether a double is a finite whole number. -/
def isWhole (number : Float) : Bool :=
  match Exact.ofFloat? number with
  | none => false
  | some value => value.numerator % value.denominator == 0

end Logo.Number
