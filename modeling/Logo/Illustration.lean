import Logo.Text.Blank
import Logo.Text.Line

/-!
# Illustrations

A line of the source with its number, and a mark under the part that a
message is about.
-/

namespace Logo.Illustration

/-- A place in a text: the number of its line, the characters before it there, and the line. -/
structure Place where
  row : Nat
  column : Nat
  line : List Char
deriving DecidableEq, Repr

/-- Find the place of an offset in lines that are numbered from `row` on. -/
def placeIn (row offset : Nat) : List (List Char) → Place
  | [] => ⟨row, offset, []⟩
  | [line] => ⟨row, offset, line⟩
  | line :: next :: others =>
      if offset < line.length then
        ⟨row, offset, line⟩
      else
        placeIn (row + 1) (offset - line.length) (next :: others)

/-- Find the place of an offset in a text. -/
def place (source : String) (offset : Nat) : Place :=
  placeIn 1 offset (Text.lines source.toList)

/-- The number of a line, right-justified, and a rule. -/
def margin (row : Nat) : List Char :=
  let digits := ' ' :: Nat.toDigits 10 row
  List.replicate (6 - digits.length) ' ' ++ digits ++ [' ', '|']

/-- Leave off the blanks at the end of a line. -/
def trimEnd (line : List Char) : List Char :=
  (line.reverse.dropWhile Text.isBlank).reverse

/-- Blanks as wide as some text; tabs stay as they are. -/
def blanksFor (text : List Char) : List Char :=
  text.map fun character => if character == '\t' then character else ' '

/-- Show the line of an extent, underline the extent, and add a caption. -/
def draw (source : String) (start stop : Nat) (caption : String) : String :=
  let place := place source start
  let width := max 1 (min (stop - start) (place.line.length - place.column))
  let above := margin place.row ++ trimEnd place.line
  let below :=
    blanksFor (margin place.row ++ place.line.take place.column) ++ List.replicate width '^'
  String.ofList above ++ "\n" ++ String.ofList below ++ " " ++ caption

end Logo.Illustration
