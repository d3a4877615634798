import Logo.Number.Written
import Logo.Primitive

/-!
# Trees

Programs are trees of commands and values.  Some values are data: numbers,
words, truth values, lists, blocks of commands and procedures.  Three are not
yet data: a reference to a variable, an infix operation and a command that
reports a value.  They are resolved when a command needs its input.

The module also writes trees as text, in the three styles that messages and
output use, and compares values structurally.
-/

namespace Logo

/--
Where a command was written: the number of its source text and the extent of
its first token.  No two commands of one program share their origin.
-/
structure Origin where
  document : Nat
  start : Nat
  stop : Nat
deriving DecidableEq, Repr, Inhabited

mutual

/-- Data, and what will become data when it is resolved. -/
inductive Value where
  | number (value : Float)
  | word (text : String)
  | truth (value : Bool)
  | list (items : List Value)
  | block (commands : List Command)
  | reference (name : String)
  | operation (glyph : String) (left right : Value)
  | reporter (command : Command)
  | procedure (name : String) (parameters : List String) (body : List Command)

/--
Something to do: run a primitive on its inputs, define a procedure, or call
one.  A call in value position is marked `asExpression`.
-/
inductive Command where
  | primitive (primitive : Primitive) (inputs : List Value) (origin : Origin)
  | define (name : String) (parameters : List String) (body : List Command) (origin : Origin)
  | call (name : String) (inputs : List Value) (asExpression : Bool) (origin : Origin)

end

instance : Inhabited Value := ⟨.truth false⟩

instance : Inhabited Command := ⟨.call "" [] false default⟩

/-- A procedure: its name, the names of its inputs, and what it does. -/
structure Procedure where
  name : String
  parameters : List String
  body : List Command
deriving Inhabited

/-- Where a command was written. -/
def Command.origin : Command → Origin
  | .primitive _ _ origin => origin
  | .define _ _ _ origin => origin
  | .call _ _ _ origin => origin

/--
How to write a value: as output prints it, with a list's outer brackets left
off; as output shows it, brackets and all; or as the source of a program has
it, with words quoted.
-/
inductive Style where
  | printed | shown | source
deriving DecidableEq, Repr

/-- The first line of a definition, as far as it names the procedure. -/
def titleLine (name : String) (parameters : List String) : String :=
  "TO " ++ " ".intercalate (name :: parameters.map (":" ++ ·))

mutual

/-- Write a value. -/
def Value.render (style : Style) : Value → String
  | .number value => Number.plain value
  | .word text => if style == .source then "\"" ++ text else text
  | .truth value => if value then "true" else "false"
  | .list items =>
      let inside := " ".intercalate (renderValues .shown items)
      if style == .printed then inside else "[" ++ inside ++ "]"
  | .block commands => "[" ++ " ".intercalate (renderCommands commands) ++ "]"
  | .reference name => ":" ++ name
  | .operation glyph left right =>
      "(" ++ left.render .source ++ " " ++ glyph ++ " " ++ right.render .source ++ ")"
  | .reporter command => "(" ++ command.render ++ ")"
  | .procedure name parameters _ => titleLine name parameters

/-- Write several values. -/
def renderValues (style : Style) : List Value → List String
  | [] => []
  | value :: rest => value.render style :: renderValues style rest

/-- Write a command as the source of a program has it. -/
def Command.render : Command → String
  | .primitive primitive inputs _ =>
      " ".intercalate (primitive.name :: renderValues .source inputs)
  | .define name parameters body _ =>
      "\n".intercalate
        (titleLine name parameters :: ((renderCommands body).map ("  " ++ ·) ++ ["END"]))
  | .call name inputs _ _ => " ".intercalate (name :: renderValues .source inputs)

/-- Write several commands. -/
def renderCommands : List Command → List String
  | [] => []
  | command :: rest => command.render :: renderCommands rest

end

namespace Value

/-- A value as the source of a program has it. -/
def describe (value : Value) : String :=
  value.render .source

/-- Whether the lists in a value are at most so deep inside each other. -/
def isWithin : Nat → Value → Bool
  | 0, .list _ => false
  | depth + 1, .list items => items.all (isWithin depth)
  | _, _ => true

/-- The word for the type of a value. -/
def typeName : Value → String
  | .number _ => "number"
  | .word _ => "word"
  | .truth _ => "boolean"
  | .list _ => "list"
  | .block _ => "block"
  | .reference _ => "variableref"
  | .operation _ _ _ => "operation"
  | .reporter _ => "commandref"
  | .procedure _ _ _ => "procedure"

/-- Whether two lists of commands are the same commands of the same texts. -/
def sameCommands (left right : List Command) : Bool :=
  left.map Command.origin == right.map Command.origin

mutual

/--
Whether two values are the same: of one type and with the same parts.
Commands are the same when they were written in the same place.
-/
def same : Value → Value → Bool
  | .number left, .number right => left == right
  | .word left, .word right => left == right
  | .truth left, .truth right => left == right
  | .list left, .list right => sameValues left right
  | .block left, .block right => sameCommands left right
  | .reference left, .reference right => left == right
  | .operation glyph left right, .operation glyph' left' right' =>
      glyph == glyph' && left.same left' && right.same right'
  | .reporter left, .reporter right => left.origin == right.origin
  | .procedure name parameters body, .procedure name' parameters' body' =>
      name == name' && parameters == parameters' && sameCommands body body'
  | _, _ => false

/-- Whether two lists of values are the same, item by item. -/
def sameValues : List Value → List Value → Bool
  | [], [] => true
  | left :: lefts, right :: rights => left.same right && sameValues lefts rights
  | _, _ => false

end

end Value

mutual

/-- Move all commands in a value to another document. -/
def Value.inDocument (document : Nat) : Value → Value
  | .list items => .list (valuesInDocument document items)
  | .block commands => .block (commandsInDocument document commands)
  | .operation glyph left right =>
      .operation glyph (left.inDocument document) (right.inDocument document)
  | .reporter command => .reporter (command.inDocument document)
  | .procedure name parameters body =>
      .procedure name parameters (commandsInDocument document body)
  | .number value => .number value
  | .word text => .word text
  | .truth value => .truth value
  | .reference name => .reference name

/-- Move all commands in some values to another document. -/
def valuesInDocument (document : Nat) : List Value → List Value
  | [] => []
  | value :: rest => value.inDocument document :: valuesInDocument document rest

/-- Move a command, and the commands in it, to another document. -/
def Command.inDocument (document : Nat) : Command → Command
  | .primitive primitive inputs origin =>
      .primitive primitive (valuesInDocument document inputs) { origin with document }
  | .define name parameters body origin =>
      .define name parameters (commandsInDocument document body) { origin with document }
  | .call name inputs asExpression origin =>
      .call name (valuesInDocument document inputs) asExpression { origin with document }

/-- Move some commands to another document. -/
def commandsInDocument (document : Nat) : List Command → List Command
  | [] => []
  | command :: rest => command.inDocument document :: commandsInDocument document rest

end

end Logo
