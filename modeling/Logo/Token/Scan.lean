import Logo.Text.Blank
import Logo.Token

/-!
# Scanning

A text is cut into lexemes in one pass from left to right, after its comments
have been turned into spaces.  Brackets, parentheses and operators are lexemes
of their own; other characters run together until a blank or one of those.
An equals sign ends a word only as the second half of an operator.
-/

namespace Logo.Token

/--
Replace every comment, from a semicolon to the end of its line, by as many
spaces.  `inside` says whether the text starts within a comment.
-/
def blankComments (inside : Bool) : List Char → List Char
  | [] => []
  | character :: rest =>
      if character == '\n' then
        '\n' :: blankComments false rest
      else if inside || character == ';' then
        ' ' :: blankComments true rest
      else
        character :: blankComments false rest

/-- The glyphs that are lexemes of their own. -/
def isGlyph (character : Char) : Bool :=
  ['[', ']', '(', ')', '<', '>', '+', '-', '*', '/'].contains character

/-- The characters that make an operator together with an equals sign after them. -/
def isPaired (character : Char) : Bool :=
  ['<', '>', '=', '!'].contains character

/-- The word that ends at a position, given its characters from last to first. -/
def wordEnding (position : Nat) (pending : List Char) : List Lexeme :=
  if pending.isEmpty then
    []
  else
    [⟨String.ofList pending.reverse, position - pending.length⟩]

/--
Cut a text into lexemes.  `position` is where the text starts, and `pending`
holds the characters, from last to first, of a word that is not finished.
-/
def split (position : Nat) (pending : List Char) : List Char → List Lexeme
  | [] => wordEnding position pending
  | character :: rest =>
      match isPaired character, rest with
      | true, '=' :: others =>
          wordEnding position pending ++
            ⟨String.ofList [character, '='], position⟩ :: split (position + 2) [] others
      | _, following =>
          if Text.isBlank character then
            wordEnding position pending ++ split (position + 1) [] following
          else if isGlyph character then
            wordEnding position pending ++
              ⟨String.ofList [character], position⟩ :: split (position + 1) [] following
          else
            split (position + 1) (character :: pending) following

/-- The lexemes of a text. -/
def lexemes (text : String) : List Lexeme :=
  split 0 [] (blankComments false text.toList)

/-- The tokens of a text. -/
def scan (text : String) : List Token :=
  (lexemes text).map ofLexeme

end Logo.Token
