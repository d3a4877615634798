import Logo.Number.Exact

/-!
# Rounding and remainders

Operations on doubles whose results are fixed by exact arithmetic: rounding
to decimal places, the two remainders (one with the sign of the dividend, one
with the sign of the divisor), and the fixed ratio between degrees and
radians.
-/

namespace Logo.Number

/--
Round to a number of decimal places.  The exact value decides, and a tie goes
to the even digit.  Infinities and NaN stay as they are.
-/
def toPlaces (places : Nat) (number : Float) : Float :=
  match Exact.ofFloat? number with
  | none => number
  | some value =>
      nearest value.negative
        (divideNearest (value.numerator * powerOfTen places) value.denominator)
        (powerOfTen places)

/-- The remainder of a division, with the sign of the dividend. -/
def remainder (dividend divisor : Float) : Float :=
  match Exact.ofFloat? dividend, Exact.ofFloat? divisor with
  | some left, some right =>
      if right.significand == 0 then
        0 / 0
      else
        let unit := min left.exponent right.exponent
        let whole (value : Exact) : Nat :=
          value.significand <<< (value.exponent - unit).toNat
        Exact.toFloat ⟨left.negative, whole left % whole right, unit⟩
  | some _, none => if divisor.isNaN then divisor else dividend
  | none, _ => 0 / 0

/-- The remainder of a division, with the sign of the divisor. -/
def modulo (dividend divisor : Float) : Float :=
  let rest := remainder dividend divisor
  if rest == 0 then
    if divisor < 0 then -0.0 else 0.0
  else if rest.isNaN || (divisor < 0) == (rest < 0) then
    rest
  else
    rest + divisor

/-- The ratio of the circumference of a circle to its diameter. -/
def pi : Float := 3.141592653589793

/-- Degrees in radians. -/
def radians (degrees : Float) : Float :=
  degrees * (pi / 180)

/-- Radians in degrees. -/
def degrees (radians : Float) : Float :=
  radians * (180 / pi)

/-- The nearest whole number, halves away from zero. -/
def roundAway (number : Float) : Float :=
  let magnitude := (number.abs + 0.5).floor
  if number < 0 then -magnitude else magnitude

/-- Drop the fraction. -/
def truncate (number : Float) : Float :=
  if number < 0 then -((-number).floor) else number.floor

end Logo.Number
