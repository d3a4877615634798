/-!
# Blank characters

The white space of Unicode, the four information separators included.  Blanks
divide the words of a program.
-/

namespace Logo.Text

/-- The ranges of blank characters, first and last code point of each. -/
def blankRanges : List (Nat × Nat) :=
  [(0x09, 0x0d), (0x1c, 0x20), (0x85, 0x85), (0xa0, 0xa0), (0x1680, 0x1680),
    (0x2000, 0x200a), (0x2028, 0x2029), (0x202f, 0x202f), (0x205f, 0x205f),
    (0x3000, 0x3000)]

/-- Whether a character is blank. -/
def isBlank (character : Char) : Bool :=
  blankRanges.any fun range => range.1 ≤ character.toNat && character.toNat ≤ range.2

/--
Whether a character may surround a numeral.  Of the ASCII blanks the
information separators may not.
-/
def isNumeralBlank (character : Char) : Bool :=
  isBlank character && !(0x1c ≤ character.toNat && character.toNat ≤ 0x1f)

end Logo.Text
