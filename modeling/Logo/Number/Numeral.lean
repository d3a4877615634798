import Logo.Number.Exact
import Logo.Text.Blank
import Logo.Text.Digit

/-!
# Numerals

Reading a number from text: an optional sign, decimal digits of any script
with an optional point and an optional exponent, or one of the words for
infinity and not-a-number.  Single underscores may stand between digits, and
blanks around the whole.  The result is the nearest double.
-/

namespace Logo.Number

/-- The digits of a numeral in order, most significant first. -/
abbrev Digits := List Nat

/-- The whole number that a row of digits stands for. -/
def Digits.value (digits : Digits) : Nat :=
  digits.foldl (fun total digit => total * 10 + digit) 0

/--
Read digits as far as they go, a single underscore being allowed between two
of them.  `afterDigit` says whether a digit has just been read.
-/
def readDigits (afterDigit : Bool) : List Char → Digits × List Char
  | [] => ([], [])
  | character :: rest =>
      match Text.digitValue? character with
      | some digit =>
          let (digits, remaining) := readDigits true rest
          (digit :: digits, remaining)
      | none =>
          if character == '_' && afterDigit then
            match rest with
            | next :: others =>
                match Text.digitValue? next with
                | some digit =>
                    let (digits, remaining) := readDigits true others
                    (digit :: digits, remaining)
                | none => ([], character :: rest)
            | [] => ([], character :: rest)
          else
            ([], character :: rest)

/-- Read a sign, if there is one; the answer says whether it is negative. -/
def readSign : List Char → Bool × List Char
  | '-' :: rest => (true, rest)
  | '+' :: rest => (false, rest)
  | rest => (false, rest)

/-- Read the exponent at the end of a numeral; without one it is zero. -/
def readExponent? : List Char → Option Int
  | [] => some 0
  | mark :: rest =>
      if mark == 'e' || mark == 'E' then
        let (negative, unsigned) := readSign rest
        match readDigits false unsigned with
        | ([], _) => none
        | (digits, []) =>
            let power : Int := digits.value
            some (if negative then -power else power)
        | (_, _ :: _) => none
      else
        none

/-- Exponents beyond this size leave nothing of a numeral but infinity or zero. -/
def exponentLimit : Nat := 400

/-- The nearest double to `± digits · 10 ^ exponent`. -/
def ofDigits (negative : Bool) (digits : Digits) (exponent : Int) : Float :=
  let significant := digits.dropWhile (· == 0)
  let leading := exponent + significant.length
  if significant.isEmpty || leading < -(exponentLimit : Int) then
    ofMagnitudeBits negative 0
  else if leading > exponentLimit then
    ofMagnitudeBits negative infinityBits
  else
    nearest negative (Digits.value significant * powerOfTen exponent.toNat)
      (powerOfTen (-exponent).toNat)

/-- Read digits, point and exponent. -/
def readUnsigned? (negative : Bool) (characters : List Char) : Option Float :=
  let (whole, afterWhole) := readDigits false characters
  let (fraction, afterFraction) :=
    match afterWhole with
    | '.' :: rest => readDigits false rest
    | rest => ([], rest)
  if whole.isEmpty && fraction.isEmpty then
    none
  else
    (readExponent? afterFraction).map fun exponent =>
      ofDigits negative (whole ++ fraction) (exponent - fraction.length)

/-- Drop the blanks around a numeral. -/
def trimBlanks (characters : List Char) : List Char :=
  let front := characters.dropWhile Text.isNumeralBlank
  (front.reverse.dropWhile Text.isNumeralBlank).reverse

/-- Read the words for infinity and not-a-number, in any case. -/
def readWord? (negative : Bool) (characters : List Char) : Option Float :=
  let word := String.ofList (characters.map Char.toLower)
  if word == "inf" || word == "infinity" then
    some (ofMagnitudeBits negative infinityBits)
  else if word == "nan" then
    some (0 / 0)
  else
    none

/-- Read a number.  Text that is no numeral gives nothing. -/
def read? (text : String) : Option Float :=
  let (negative, unsigned) := readSign (trimBlanks text.toList)
  match readWord? negative unsigned with
  | some number => some number
  | none => readUnsigned? negative unsigned

/-- How many digits a whole number may have. -/
def wholeDigitLimit : Nat := 4300

/-- Read a whole number: a sign, if there is one, and digits. -/
def readWhole? (text : String) : Option Int :=
  let (negative, unsigned) := readSign (trimBlanks text.toList)
  match readDigits false unsigned with
  | ([], _) => none
  | (digits, []) =>
      if digits.length ≤ wholeDigitLimit then
        some (if negative then -(digits.value : Int) else digits.value)
      else
        none
  | (_, _ :: _) => none

end Logo.Number
