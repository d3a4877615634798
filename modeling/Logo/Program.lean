import Logo.Token.Scan
import Logo.Tree

/-!
# Programs

What reading a text gives: the commands that could be made out, and an issue
for everything that could not.  Issues name their cause; `Complaint.message`
words it.
-/

namespace Logo

/-- What is wrong with a piece of a program. -/
inductive Complaint where
  | strayEnd
  | strayBracket
  | notCommand (text : String)
  | notEnoughInputs (name : String) (expected : Nat)
  | blockExpected (name : String) (got : String)
  | unclosedBlock
  | redefinition (name : String)
  | nameExpected (got : String)
  | unfinishedDefinition (name : String)
  | nestedDefinition (name : String)
  | nothingAfter (glyph : String)
  | unclosedParenthesis
  | unclosedList
  | notReporter (name : String)
  | unexpected (text : String)
  | rejectedOperand (glyph : String) (operand : String)
  | rejectedInput (name : String) (input : String)
  | endOfText (place : String)
  | unreadableNumber (text : String)
  | tooNested
  | noRoom
deriving DecidableEq, Repr

namespace Complaint

/-- The wording of a complaint. -/
def message : Complaint → String
  | .strayEnd => "END without a matching TO"
  | .strayBracket => "Unexpected ] with no matching ["
  | .notCommand text => "I don't know what to do with " ++ text
  | .notEnoughInputs name expected =>
      "Not enough inputs to " ++ name ++ ", expected " ++ toString expected
  | .blockExpected name got =>
      name ++ " expected a block of commands in [brackets], got " ++ got
  | .unclosedBlock => "Missing closing bracket for block"
  | .redefinition name => name ++ " is a primitive, so it can't be redefined"
  | .nameExpected got => "TO needs a procedure name, got " ++ got
  | .unfinishedDefinition name => "TO " ++ name ++ " has no END"
  | .nestedDefinition name =>
      "Can't define a procedure inside TO " ++ name ++ "; is an END missing?"
  | .nothingAfter glyph => "Nothing after the " ++ glyph ++ " operator"
  | .unclosedParenthesis => "Missing closing parenthesis"
  | .unclosedList => "Missing closing bracket for list"
  | .notReporter name => name ++ " does not output a value, so it can't be used as an input"
  | .unexpected text => "Unexpected " ++ text ++ " in an expression"
  | .rejectedOperand glyph operand =>
      "The " ++ glyph ++ " operator needs numbers, not " ++ operand
  | .rejectedInput name input => name ++ " doesn't like " ++ input ++ " as input"
  | .endOfText place => "Unexpected end of input while parsing " ++ place
  | .unreadableNumber text => "I can't read the number " ++ text
  | .tooNested => "The program is nested too deeply"
  | .noRoom => "There is no room left to read on"

/-- Whether reading stops at a complaint.  After any other it goes on at the next token. -/
def isFatal : Complaint → Bool
  | .unfinishedDefinition _ => true
  | .nestedDefinition _ => true
  | .noRoom => true
  | _ => false

end Complaint

/-- A complaint and the token it is about. -/
structure Issue where
  complaint : Complaint
  token : Token
deriving DecidableEq, Repr

/-- The wording of an issue. -/
def Issue.message (issue : Issue) : String :=
  issue.complaint.message

/-- The commands of a text and the issues with it. -/
structure Program where
  commands : List Command
  source : String
  issues : List Issue

namespace Program

/-- Whether there was nothing to complain about. -/
def isClean (program : Program) : Bool :=
  program.issues.isEmpty

/-- The wordings of all issues. -/
def messages (program : Program) : List String :=
  program.issues.map Issue.message

/-- The program as text, one top-level command after the other. -/
def render (program : Program) : String :=
  "\n".intercalate (renderCommands program.commands)

/-- The same program, its commands told apart from those of other documents. -/
def inDocument (document : Nat) (program : Program) : Program :=
  { program with commands := commandsInDocument document program.commands }

end Program

end Logo
