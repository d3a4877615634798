import Logo.Error
import Logo.Program.Expression

/-!
# Reading statements

Statements are read one after the other.  A definition announces its name and
its number of inputs before its body is read, so that calls in the body and
after it know how many inputs to take; this, and the issues found so far, is
the record that reading keeps.  It survives an issue that is thrown.

An issue ends the statement it is in.  At top level and in the body of a
definition it is recorded and reading goes on one token further, unless the
issue is fatal.  Reading that runs out of room gives no program.
-/

namespace Logo.Program

/--
What reading remembers: the arities of definitions, latest first, and the
issues, latest first.
-/
structure Record where
  arities : Arities
  issues : List Issue

namespace Record

/-- Nothing read yet. -/
def empty : Record := ⟨[], []⟩

/-- Remember how many inputs a procedure takes. -/
def announce (name : String) (arity : Nat) (record : Record) : Record :=
  { record with arities := (name, arity) :: record.arities }

/-- Remember an issue. -/
def note (issue : Issue) (record : Record) : Record :=
  { record with issues := issue :: record.issues }

end Record

/-- Readers of statements keep a record, also when they fail. -/
abbrev Reader := ExceptT Issue (StateM Record)

/-- Read an expression or its parts with the arities known so far. -/
def withArities {α : Type} (read : Arities → Except Issue α) : Reader α := do
  liftExcept (read (← get).arities)
where
  liftExcept : Except Issue α → Reader α
    | .ok result => pure result
    | .error issue => throw issue

/-- Read, and give an issue as a result. -/
def attempt {α : Type} (reader : Reader α) : Reader (Except Issue α) :=
  tryCatch (Except.ok <$> reader) fun issue => pure (.error issue)

/-- Split off the references in front: the inputs of a definition. -/
def parameters (behind : Token) : List Token → List String × Cursor
  | [] => ([], ⟨behind, []⟩)
  | token :: rest =>
      match token.kind with
      | .reference name =>
          let (names, last) := parameters token rest
          (name :: names, last)
      | _ => ([], ⟨behind, token :: rest⟩)

mutual

/-- Read the statement that begins with a token. -/
def statement (room : Option Nat) : Nat → Token → List Token → Reader (Command × Cursor)
  | 0, token, _ => throw ⟨.tooNested, token⟩
  | budget + 1, token, rest =>
      match token.kind with
      | .command primitive => do
          let (inputs, last) ← descend room token fun room =>
            slotInputs room primitive token budget primitive.spec.slots ⟨token, rest⟩
          return (.primitive primitive inputs (originOf token), last)
      | .procedure name => do
          let (inputs, last) ← withArities fun arities => descend room token fun room =>
            callInputs room arities name token budget ⟨token, rest⟩
          return (.call name inputs false (originOf token), last)
      | .toWord => descend room token fun room => definition room budget token rest
      | .endWord => throw ⟨.strayEnd, token⟩
      | .closeBracket => throw ⟨.strayBracket, token⟩
      | _ => throw ⟨.notCommand token.text, token⟩

/-- Read one input for each slot. -/
def slotInputs (room : Option Nat) (primitive : Primitive) (token : Token) :
    Nat → List Slot → Cursor → Reader (List Value × Cursor)
  | 0, _, cursor => throw ⟨.tooNested, cursor.next⟩
  | _ + 1, [], cursor => return ([], cursor)
  | budget + 1, slot :: slots, cursor => do
      if cursor.atEnd then
        throw ⟨.notEnoughInputs primitive.name primitive.spec.arity, token⟩
      let (value, next) ← descend room cursor.next fun room =>
        slotInput room primitive budget slot cursor
      let (values, last) ← slotInputs room primitive token budget slots next
      return (value :: values, last)

/-- Read what goes into a slot. -/
def slotInput (room : Option Nat) (primitive : Primitive) :
    Nat → Slot → Cursor → Reader (Value × Cursor)
  | 0, _, cursor => throw ⟨.tooNested, cursor.next⟩
  | budget + 1, .block, cursor =>
      match cursor.ahead with
      | [] => throw ⟨.blockExpected primitive.name cursor.next.text, cursor.next⟩
      | token :: rest => do
          if token.kind != .openBracket then
            throw ⟨.blockExpected primitive.name token.text, token⟩
          let (commands, last) ← descend room token fun room =>
            blockCommands room token budget ⟨token, rest⟩
          return (.block commands, last)
  | budget + 1, .datum shape, cursor => do
      let (value, next) ← withArities fun arities => descend room cursor.next fun room =>
        expression room arities budget cursor
      withArities fun _ => checkInput primitive.name shape value cursor.next
      return (value, next)

/-- Read the commands of a block up to its closing bracket. -/
def blockCommands (room : Option Nat) (opener : Token) :
    Nat → Cursor → Reader (List Command × Cursor)
  | 0, cursor => throw ⟨.tooNested, cursor.next⟩
  | budget + 1, cursor =>
      match cursor.ahead with
      | [] => throw ⟨.unclosedBlock, opener⟩
      | token :: rest => do
          if token.kind == .closeBracket then
            return ([], ⟨token, rest⟩)
          let (command, next) ← descend room token fun room => statement room budget token rest
          let (commands, last) ← blockCommands room opener budget next
          return (command :: commands, last)

/-- Read a definition after its first word. -/
def definition (room : Option Nat) : Nat → Token → List Token → Reader (Command × Cursor)
  | 0, token, _ => throw ⟨.tooNested, token⟩
  | _ + 1, opener, [] => throw ⟨.endOfText "a procedure definition", opener⟩
  | budget + 1, opener, nameToken :: rest =>
      match nameToken.kind with
      | .command primitive => throw ⟨.redefinition primitive.name, nameToken⟩
      | .procedure name => do
          let (names, next) := parameters nameToken rest
          modify (·.announce name names.length)
          let (body, last) ← bodyCommands room name opener budget next
          return (.define name names body (originOf opener), last)
      | _ => throw ⟨.nameExpected nameToken.text, nameToken⟩

/-- Read the body of a definition up to its end, noting issues on the way. -/
def bodyCommands (room : Option Nat) (name : String) (opener : Token) :
    Nat → Cursor → Reader (List Command × Cursor)
  | 0, cursor => throw ⟨.tooNested, cursor.next⟩
  | budget + 1, cursor =>
      match cursor.ahead with
      | [] => throw ⟨.unfinishedDefinition name, opener⟩
      | token :: rest => do
          if token.kind == .endWord then
            return ([], ⟨token, rest⟩)
          if token.kind == .toWord then
            throw ⟨.nestedDefinition name, token⟩
          match ← attempt (descend room token fun room => statement room budget token rest) with
          | .ok (command, next) => do
              let (commands, last) ← bodyCommands room name opener budget next
              return (command :: commands, last)
          | .error issue => do
              if issue.complaint.isFatal then
                throw issue
              modify (·.note issue)
              bodyCommands room name opener budget ⟨token, rest⟩

end

/-- Read statements to the end, noting issues on the way. -/
def statements (room : Option Nat) : Nat → List Token → StateM Record (List Command)
  | 0, _ => pure []
  | _ + 1, [] => pure []
  | budget + 1, token :: rest => do
      match ← (descend room token fun room => statement room budget token rest).run with
      | .ok (command, next) => do
          let commands ← statements room budget next.ahead
          return command :: commands
      | .error issue => do
          modify (·.note issue)
          if issue.complaint.isFatal then
            return []
          statements room budget rest

/-- A budget that is enough for any number of tokens. -/
def budgetFor (tokens : List Token) : Nat :=
  8 * (tokens.length + 1)

/-- Read a program from its tokens. -/
def ofTokens (room : Option Nat) (source : String) (tokens : List Token) : Program :=
  let (commands, record) := (statements room (budgetFor tokens) tokens).run .empty
  ⟨commands, source, record.issues.reverse⟩

/-- Read a program, however much room that takes. -/
def ofText (source : String) : Program :=
  ofTokens none source (Token.scan source)

/-- Whether reading a program ran out of room. -/
def isCutShort (program : Program) : Bool :=
  program.issues.any fun issue => issue.complaint == .noRoom

/-- Read a program with room for so many readers inside each other. -/
def parse (room : Nat) (source : String) : Except Fault Program :=
  let program := ofTokens (some room) source (Token.scan source)
  if program.isCutShort then .error .tooManyCalls else .ok program

end Logo.Program
