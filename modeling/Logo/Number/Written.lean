import Logo.Number.Decimal

/-!
# Written numbers

Two ways to write a double.  `write` always shows that it is a double: the
shortest digits that read back, with a point or an exponent.  `plain` is the
way a program's output shows numbers: whole numbers of moderate size as bare
digits, everything else as `write` does.
-/

namespace Logo.Number

/-- The digits of a natural number. -/
def digitsOf (number : Nat) : List Char :=
  Nat.toDigits 10 number

/-- Positional notation starts at this exponent of the leading digit. -/
def positionalFrom : Int := -4

/-- Positional notation ends below this exponent of the leading digit. -/
def positionalBelow : Int := 16

/-- Digits around a point, given the exponent of the first digit. -/
def positional (digits : List Char) (leading : Int) : List Char :=
  if leading < 0 then
    '0' :: '.' :: (List.replicate (-leading - 1).toNat '0' ++ digits)
  else
    let wholePart := digits.take (leading.toNat + 1)
    let padding := List.replicate (leading.toNat + 1 - digits.length) '0'
    let fraction := digits.drop (leading.toNat + 1)
    wholePart ++ padding ++ '.' :: (if fraction.isEmpty then ['0'] else fraction)

/-- One digit, the others after a point, and an exponent of two digits or more. -/
def scientific (digits : List Char) (leading : Int) : List Char :=
  let fraction :=
    match digits.drop 1 with
    | [] => []
    | rest => '.' :: rest
  let sign := if leading < 0 then '-' else '+'
  let power := digitsOf leading.natAbs
  digits.take 1 ++ fraction ++ 'e' :: sign ::
    (List.replicate (2 - power.length) '0' ++ power)

/-- Write a positive decimal. -/
def Decimal.write (decimal : Decimal) : List Char :=
  let digits := digitsOf decimal.digits
  let leading := decimal.exponent + digits.length - 1
  if positionalFrom ≤ leading && leading < positionalBelow then
    positional digits leading
  else
    scientific digits leading

/-- The shortest text that reads back as the number, with a point or an exponent. -/
def write (number : Float) : String :=
  match Exact.ofFloat? number with
  | none => if number.isNaN then "nan" else if number < 0 then "-inf" else "inf"
  | some value =>
      let sign := if value.negative then ['-'] else []
      let body := if value.significand == 0 then ['0', '.', '0'] else (Decimal.shortest value).write
      String.ofList (sign ++ body)

/-- Write a whole number. -/
def writeInt (number : Int) : String :=
  let digits := digitsOf number.natAbs
  String.ofList (if number < 0 then '-' :: digits else digits)

/-- Whole numbers below this size are written as bare digits. -/
def plainLimit : Nat := powerOfTen 15

/-- The text that a program's output shows for a number. -/
def plain (number : Float) : String :=
  match Exact.ofFloat? number with
  | none => write number
  | some value =>
      if isWhole number && value.whole.natAbs < plainLimit then
        writeInt value.whole
      else
        write number

end Logo.Number
