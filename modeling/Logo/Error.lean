import Logo.Text.Quoted

/-!
# Errors and faults

A program can go wrong in two ways.  An error is part of the language: it has
a wording for the person who wrote the program, and it ends the command that
made it.  A fault lies outside the language: the program asked for something
that has no meaning at all, such as the sine of an infinite angle.
-/

namespace Logo

/-- What a program did wrong. -/
inductive Error where
  | undefinedVariable (name : String)
  | undefinedProcedure (name : String)
  | rejectedInput (who : String) (input : String)
  | rejectedCondition (who : String) (input : String)
  | rejectedColor (who : String) (input : String)
  | blockNeeded (who : String) (typeName : String)
  | pairNeeded (input : String)
  | divisionByZero
  | emptyInput (who : String) (input : String)
  | noSuchItem (index : String) (count : Nat)
  | noValue (command : String)
  | noOutput (procedure : String)
  | strayOutput
  | tooDeep
  | tooBig (who : String)
  | outOfReach
deriving DecidableEq, Repr

/-- The wording of an error. -/
def Error.message : Error → String
  | .undefinedVariable name => name ++ " has no value"
  | .undefinedProcedure name => "I don't know how to " ++ name
  | .rejectedInput who input => who ++ " doesn't like " ++ input ++ " as input"
  | .rejectedCondition who input => who ++ " doesn't like " ++ input ++ " as a condition"
  | .rejectedColor who input => who ++ " doesn't like " ++ input ++ " as a color"
  | .blockNeeded who typeName => who ++ " needs a block of commands, not a " ++ typeName
  | .pairNeeded input => "SETPOS needs a list of two numbers, not " ++ input
  | .divisionByZero => "Can't divide by zero"
  | .emptyInput who input => who ++ " doesn't like " ++ input ++ " as input"
  | .noSuchItem index count =>
      "ITEM doesn't like " ++ index ++ " as input; there are only " ++ toString count ++ " items"
  | .noValue command => command ++ " did not return a value when one was expected"
  | .noOutput procedure => "Procedure '" ++ procedure ++ "' does not output a value"
  | .strayOutput => "OUTPUT can only be used inside a procedure"
  | .tooDeep => "Too many procedure calls inside each other"
  | .tooBig who => who ++ " made a number too big to handle"
  | .outOfReach => "The turtle can't go that far from home"

/-- What no program can ask for. -/
inductive Fault where
  | infiniteAngle
  | infiniteIndex
  | undefinedIndex
  | unknownOperator (glyph : String)
  | wrongInputCount (name : String)
  | tooManyCalls
  | endlessLoop
  | stranded
deriving DecidableEq, Repr

/-- The wording of a fault. -/
def Fault.message : Fault → String
  | .infiniteAngle => "math domain error"
  | .infiniteIndex => "cannot convert float infinity to integer"
  | .undefinedIndex => "cannot convert float NaN to integer"
  | .unknownOperator glyph => Text.quoted glyph
  | .wrongInputCount name => name ++ " was given the wrong number of inputs"
  | .tooManyCalls => "too many calls inside each other"
  | .endlessLoop => "a loop that does not end"
  | .stranded => "A task is in flight but nothing will ever finish it."

/-- An error or a fault. -/
inductive Mishap where
  | error (cause : Error)
  | fault (cause : Fault)
deriving DecidableEq, Repr

end Logo
