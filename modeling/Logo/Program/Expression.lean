import Logo.Program

/-!
# Reading expressions

Expressions are read from left to right.  Infix operators have no precedence;
a chain of them nests to the right.  A minus sign that stands apart from what
is before it but not from what is after it begins a new expression.

A call takes as many inputs as the procedure is known to have, or, before its
definition has been seen, as many expressions as follow.  Reading expressions
changes nothing, so an input that cannot be read simply ends such a call.

A reader gives what it has read together with the place after it, or else the
issue that stopped it.  All readers take a budget that bounds how often they
call each other, and which is never used up.  They also know how much room is
left on the stack for readers inside each other; `none` is as much as needed.
Running out of room stops everything.
-/

namespace Logo.Program

/-- A place in the tokens of a program: the token just read, and those ahead. -/
structure Cursor where
  behind : Token
  ahead : List Token

/-- How many inputs the procedures take whose definitions have begun. -/
abbrev Arities := List (String × Nat)

/-- The origin of a command that begins with a token. -/
def originOf (token : Token) : Origin :=
  ⟨0, token.start, token.stop⟩

/-- Whether a kind of token can only close what was opened before. -/
def isCloser : Kind → Bool
  | .closeBracket | .closeParen | .endWord => true
  | _ => false

/-- Whether a minus sign glued to a kind of token can negate it. -/
def isNegatable : Kind → Bool
  | .number | .reference _ | .openParen => true
  | _ => false

/-- Whether a kind of token can begin an input of a call that takes what follows. -/
def beginsInput : Kind → Bool
  | .number | .word _ | .reference _ | .openBracket | .openParen => true
  | .operator glyph => glyph == "-" || glyph == "+"
  | .command primitive => primitive.spec.reports
  | _ => false

namespace Cursor

/-- Whether no input can follow: the tokens end or close something. -/
def atEnd (cursor : Cursor) : Bool :=
  match cursor.ahead with
  | [] => true
  | token :: _ => isCloser token.kind

/-- The token ahead, or else the last one. -/
def next (cursor : Cursor) : Token :=
  cursor.ahead.headD cursor.behind

/-- Whether an input can begin here. -/
def atInput (cursor : Cursor) : Bool :=
  match cursor.ahead with
  | [] => false
  | token :: _ => beginsInput token.kind

/-- Whether a minus sign is ahead that belongs to what comes after it. -/
def atNegative (cursor : Cursor) : Bool :=
  match cursor.ahead with
  | minus :: after :: _ =>
      minus.kind == .operator "-" && isNegatable after.kind && after.follows minus &&
        cursor.behind.stop < minus.start
  | _ => false

end Cursor

/-- Whether a word spells a number. -/
def isNumericWord (text : String) : Bool :=
  (Number.read? text).isSome

/-- Whether a value as written may be an operand. -/
def allowsOperand : Value → Bool
  | .list _ | .block _ => false
  | .word text => isNumericWord text
  | _ => true

/-- Whether a value as written may go into a slot.  Only literals are judged this early. -/
def allowsInput : Shape → Value → Bool
  | .number, .list _ => false
  | .number, .block _ => false
  | .number, .word text => isNumericWord text
  | .word, .list _ => false
  | .word, .block _ => false
  | .list, .number _ => false
  | .list, .word _ => false
  | .list, .block _ => false
  | _, _ => true

/-- Refuse a literal that cannot be an operand. -/
def checkOperand (glyph : String) (value : Value) (token : Token) : Except Issue Unit :=
  if allowsOperand value then
    .ok ()
  else
    .error ⟨.rejectedOperand glyph value.describe, token⟩

/-- Refuse a literal that cannot be an input. -/
def checkInput (name : String) (shape : Shape) (value : Value) (token : Token) :
    Except Issue Unit :=
  if allowsInput shape value then
    .ok ()
  else
    .error ⟨.rejectedInput name value.describe, token⟩

/-- The number that a token spells. -/
def numberOf (token : Token) : Except Issue Float :=
  match Number.read? token.lexeme with
  | some value => .ok value
  | none => .error ⟨.unreadableNumber token.lexeme, token⟩

/-- Apply a sign to an operand.  A literal number is negated at once. -/
def applySign (glyph : String) (operand : Value) : Value :=
  if glyph == "+" then
    operand
  else
    match operand with
    | .number value => .number (-value)
    | other => .operation "-" (.number 0) other

/-- Read with a reader inside the one that is at work, if there is room for it. -/
def descend {m : Type → Type} [MonadExceptOf Issue m] {α : Type} (room : Option Nat)
    (token : Token) (read : Option Nat → m α) : m α :=
  match room with
  | none => read none
  | some 0 => throw ⟨.noRoom, token⟩
  | some (room + 1) => read (some room)

@[simp]
theorem descend_none {m : Type → Type} [MonadExceptOf Issue m] {α : Type} (token : Token)
    (read : Option Nat → m α) : descend none token read = read none :=
  rfl

/-- Go on with something else after an issue, unless it is that there was no room. -/
def recover {α : Type} (room : Option Nat) (issue : Issue) (otherwise : α) : Except Issue α :=
  match room with
  | none => .ok otherwise
  | some _ => if issue.complaint = .noRoom then .error issue else .ok otherwise

@[simp]
theorem recover_none {α : Type} (issue : Issue) (otherwise : α) :
    recover none issue otherwise = .ok otherwise :=
  rfl

/--
Read the items of a list up to its closing bracket.  Words are kept just as
they are written; numbers, also negative ones, become numbers.
-/
def listItems (room : Option Nat) (opener : Token) :
    Nat → Cursor → Except Issue (List Value × Cursor)
  | 0, cursor => .error ⟨.tooNested, cursor.next⟩
  | budget + 1, cursor =>
      match cursor.ahead with
      | [] => .error ⟨.unclosedList, opener⟩
      | token :: rest =>
          match token.kind with
          | .closeBracket => .ok ([], ⟨token, rest⟩)
          | .openBracket => do
              let (inner, afterInner) ← descend room token fun room =>
                listItems room token budget ⟨token, rest⟩
              let (items, last) ← listItems room opener budget afterInner
              return (.list inner :: items, last)
          | .number => do
              let value ← numberOf token
              let (items, last) ← listItems room opener budget ⟨token, rest⟩
              return (.number value :: items, last)
          | _ =>
              match rest with
              | digits :: others =>
                  if token.kind == .operator "-" && digits.kind == .number &&
                      digits.follows token then do
                    let value ← numberOf digits
                    let (items, last) ← listItems room opener budget ⟨digits, others⟩
                    return (.number (-value) :: items, last)
                  else do
                    let (items, last) ← listItems room opener budget ⟨token, rest⟩
                    return (.word token.lexeme :: items, last)
              | [] => do
                  let (items, last) ← listItems room opener budget ⟨token, rest⟩
                  return (.word token.lexeme :: items, last)

mutual

/-- Read an expression: a chain of primaries with infix operators between them. -/
def expression (room : Option Nat) (arities : Arities) :
    Nat → Cursor → Except Issue (Value × Cursor)
  | 0, cursor => .error ⟨.tooNested, cursor.next⟩
  | budget + 1, cursor => do
      let (left, afterLeft) ← descend room cursor.next fun room =>
        primary room arities budget cursor
      match afterLeft.ahead with
      | [] => return (left, afterLeft)
      | token :: rest =>
          match token.kind with
          | .operator glyph =>
              if afterLeft.atNegative then
                return (left, afterLeft)
              else if rest.isEmpty then
                .error ⟨.nothingAfter glyph, token⟩
              else
                let (right, last) ← descend room token fun room =>
                  expression room arities budget ⟨token, rest⟩
                checkOperand glyph left cursor.next
                checkOperand glyph right (Cursor.mk token rest).next
                return (.operation glyph left right, last)
          | _ => return (left, afterLeft)

/-- Read an expression without infix operators outside parentheses. -/
def primary (room : Option Nat) (arities : Arities) :
    Nat → Cursor → Except Issue (Value × Cursor)
  | 0, cursor => .error ⟨.tooNested, cursor.next⟩
  | budget + 1, cursor =>
      match cursor.ahead with
      | [] => .error ⟨.endOfText "an expression", cursor.behind⟩
      | token :: rest =>
          match token.kind with
          | .number => do
              let value ← numberOf token
              return (.number value, ⟨token, rest⟩)
          | .word text => .ok (.word text, ⟨token, rest⟩)
          | .reference name => .ok (.reference name, ⟨token, rest⟩)
          | .openBracket => do
              let (items, last) ← descend room token fun room =>
                listItems room token budget ⟨token, rest⟩
              return (.list items, last)
          | .openParen => do
              let (inner, afterInner) ← descend room token fun room =>
                expression room arities budget ⟨token, rest⟩
              match afterInner.ahead with
              | closer :: others =>
                  if closer.kind == .closeParen then
                    return (inner, ⟨closer, others⟩)
                  else
                    .error ⟨.unclosedParenthesis, token⟩
              | [] => .error ⟨.unclosedParenthesis, token⟩
          | .operator glyph =>
              if glyph == "-" || glyph == "+" then do
                let (operand, last) ← descend room token fun room =>
                  primary room arities budget ⟨token, rest⟩
                checkOperand glyph operand (Cursor.mk token rest).next
                return (applySign glyph operand, last)
              else
                .error ⟨.unexpected token.text, token⟩
          | .command primitive =>
              match primitive.spec.form with
              | .command _ => .error ⟨.notReporter primitive.name, token⟩
              | .reporter shapes => do
                  let (inputs, last) ← descend room token fun room =>
                    reporterInputs room arities primitive token budget shapes ⟨token, rest⟩
                  return (.reporter (.primitive primitive inputs (originOf token)), last)
          | .procedure name => do
              let (inputs, last) ← descend room token fun room =>
                callInputs room arities name token budget ⟨token, rest⟩
              return (.reporter (.call name inputs true (originOf token)), last)
          | _ => .error ⟨.unexpected token.text, token⟩

/-- Read one input for each shape. -/
def reporterInputs (room : Option Nat) (arities : Arities) (primitive : Primitive) (token : Token) :
    Nat → List Shape → Cursor → Except Issue (List Value × Cursor)
  | 0, _, cursor => .error ⟨.tooNested, cursor.next⟩
  | _ + 1, [], cursor => .ok ([], cursor)
  | budget + 1, shape :: shapes, cursor =>
      if cursor.atEnd then
        .error ⟨.notEnoughInputs primitive.name primitive.spec.arity, token⟩
      else do
        let (value, next) ← descend room cursor.next fun room =>
          expression room arities budget cursor
        checkInput primitive.name shape value cursor.next
        let (values, last) ← reporterInputs room arities primitive token budget shapes next
        return (value :: values, last)

/-- Read the inputs of a call. -/
def callInputs (room : Option Nat) (arities : Arities) (name : String) (token : Token) :
    Nat → Cursor → Except Issue (List Value × Cursor)
  | 0, cursor => .error ⟨.tooNested, cursor.next⟩
  | budget + 1, cursor =>
      match arities.lookup name with
      | some arity => exactInputs room arities name arity token budget arity cursor
      | none => followingInputs room arities budget cursor

/-- Read a known number of inputs. -/
def exactInputs (room : Option Nat) (arities : Arities) (name : String) (arity : Nat)
    (token : Token) :
    Nat → Nat → Cursor → Except Issue (List Value × Cursor)
  | 0, _, cursor => .error ⟨.tooNested, cursor.next⟩
  | _ + 1, 0, cursor => .ok ([], cursor)
  | budget + 1, missing + 1, cursor =>
      if cursor.atEnd then
        .error ⟨.notEnoughInputs name arity, token⟩
      else do
        let (value, next) ← descend room cursor.next fun room =>
          expression room arities budget cursor
        let (values, last) ← exactInputs room arities name arity token budget missing next
        return (value :: values, last)

/-- Read inputs for as long as they follow. -/
def followingInputs (room : Option Nat) (arities : Arities) :
    Nat → Cursor → Except Issue (List Value × Cursor)
  | 0, cursor => .error ⟨.tooNested, cursor.next⟩
  | budget + 1, cursor =>
      if cursor.atInput then
        match descend room cursor.next fun room => expression room arities budget cursor with
        | .error issue => recover room issue ([], cursor)
        | .ok (value, next) => do
            let (values, last) ← followingInputs room arities budget next
            return (value :: values, last)
      else
        .ok ([], cursor)

end

end Logo.Program
