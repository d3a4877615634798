import Logo.Number.Numeral
import Logo.Primitive

/-!
# Tokens

The words of a program.  A lexeme is a piece of the text with its position;
a token adds what kind of word it is.  The kind depends on the lexeme alone,
and every lexeme has one: what is nothing else is the name of a procedure.
-/

namespace Logo

/-- A piece of source text and where it starts, counted in characters. -/
structure Lexeme where
  text : String
  start : Nat
deriving DecidableEq, Repr

/-- What a word of a program stands for. -/
inductive Kind where
  | command (primitive : Primitive)
  | number
  | word (text : String)
  | reference (name : String)
  | operator (glyph : String)
  | openBracket
  | closeBracket
  | openParen
  | closeParen
  | toWord
  | endWord
  | procedure (name : String)
deriving DecidableEq, Repr

namespace Kind

/-- The glyphs of the infix operators. -/
def operators : List String :=
  ["+", "-", "*", "/", "<", ">", "<=", ">=", "==", "!="]

/-- Whether characters are digits, perhaps with a point and more digits. -/
def isNumeral (characters : List Char) : Bool :=
  let whole := characters.takeWhile Text.isDigit
  let rest := characters.dropWhile Text.isDigit
  !whole.isEmpty &&
    match rest with
    | [] => true
    | mark :: fraction => mark == '.' && !fraction.isEmpty && fraction.all Text.isDigit

/-- The kind of a word without quote, colon or glyphs. -/
def ofName (text : String) : Kind :=
  let name := Text.upper text
  if name == "TO" then
    .toWord
  else if name == "END" then
    .endWord
  else
    match Primitive.find? text with
    | some primitive => .command primitive
    | none => .procedure name

/-- The kind of a lexeme. -/
def ofText (text : String) : Kind :=
  if isNumeral text.toList then
    .number
  else
    match text.toList with
    | '"' :: rest => .word (String.ofList rest)
    | ':' :: rest => .reference (String.ofList rest)
    | ['['] => .openBracket
    | [']'] => .closeBracket
    | ['('] => .openParen
    | [')'] => .closeParen
    | _ => if operators.contains text then .operator text else ofName text

end Kind

/-- A word of a program: its kind, its text as written, and its extent. -/
structure Token where
  kind : Kind
  lexeme : String
  start : Nat
  stop : Nat
deriving DecidableEq, Repr

namespace Token

/-- Recognize a lexeme. -/
def ofLexeme (lexeme : Lexeme) : Token :=
  ⟨.ofText lexeme.text, lexeme.text, lexeme.start, lexeme.start + lexeme.text.length⟩

/-- The token's text as messages show it: quotes and colons are left off, names are canonical. -/
def text (token : Token) : String :=
  match token.kind with
  | .command primitive => primitive.name
  | .word text => text
  | .reference name => name
  | .procedure name => name
  | .toWord => "TO"
  | .endWord => "END"
  | .number | .operator _ | .openBracket | .closeBracket | .openParen | .closeParen => token.lexeme

/-- Whether a token follows another without a gap. -/
def follows (token before : Token) : Bool :=
  before.stop == token.start

end Token

end Logo
