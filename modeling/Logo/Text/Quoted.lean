/-!
# Quoted text

How messages and listings quote a piece of text.  Single quotes are the rule;
double quotes are used when the text has a single quote in it and no double
one.  Backslashes and control characters are escaped.
-/

namespace Logo.Text

/-- A character by its code in two hexadecimal digits. -/
def hexEscape (character : Char) : String :=
  let digits := Nat.toDigits 16 character.toNat
  "\\x" ++ String.ofList (List.replicate (2 - digits.length) '0' ++ digits)

/-- Whether a character below U+0100 has no glyph of its own. -/
def isControl (character : Char) : Bool :=
  let code := character.toNat
  code < 0x20 || (0x7f ≤ code && code ≤ 0xa0) || code == 0xad

/-- A character inside the given quotes. -/
def escape (quote character : Char) : String :=
  if character == '\\' then "\\\\"
  else if character == quote then "\\" ++ String.ofList [quote]
  else if character == '\n' then "\\n"
  else if character == '\r' then "\\r"
  else if character == '\t' then "\\t"
  else if isControl character then hexEscape character
  else String.ofList [character]

/-- The quotes that suit a text. -/
def quoteFor (characters : List Char) : Char :=
  if characters.contains '\'' && !characters.contains '"' then '"' else '\''

/-- A text in quotes. -/
def quoted (text : String) : String :=
  let quote := quoteFor text.toList
  String.ofList [quote] ++ String.join (text.toList.map (escape quote)) ++ String.ofList [quote]

end Logo.Text
