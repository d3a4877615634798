import Logo.Machine
import Logo.Machine.Coercion

/-!
# What primitives do

A primitive gets its inputs unresolved and resolves each right before it is
used, so the order of effects is its own.  An input can be asked for its value
or, if it is a block, for the action of running it.  A primitive is also told
how much room is left on the stack, in procedure calls.

Every primitive has an action for a fixed number of inputs.
-/

namespace Logo

variable {σ : Type}

/-- An input that has not been resolved yet. -/
structure Input (σ : Type) where
  value : Machine σ Value
  block : String → Machine σ (Machine σ (Option Value))

namespace Input

/-- Resolve an input as a number. -/
def number (who : String) (input : Input σ) : Machine σ Float := do
  Machine.orFail ((← input.value).asNumber who)

/-- Resolve an input as a whole number. -/
def integer (who : String) (input : Input σ) : Machine σ Int := do
  Machine.orFail ((← input.value).asInteger who)

/-- Resolve an input as a word. -/
def word (who : String) (input : Input σ) : Machine σ String := do
  Machine.orFail ((← input.value).asWord who)

/-- Resolve an input as a list. -/
def list (who : String) (input : Input σ) : Machine σ (List Value) := do
  Machine.orFail ((← input.value).asList who)

/-- Resolve an input as a condition. -/
def truth (who : String) (input : Input σ) : Machine σ Bool := do
  Machine.orFail ((← input.value).asTruth who)

/-- Resolve an input as a color. -/
def color [Platform] (who : String) (input : Input σ) : Machine σ Color := do
  Machine.orMishap ((← input.value).asColor who)

/-- Resolve an input as a block, and run it. -/
def run (who : String) (input : Input σ) : Machine σ (Option Value) := do
  (← input.block who)

/-- Resolve an input as items in a row: those of a list, or the characters of a word. -/
def items (who : String) (input : Input σ) : Machine σ (List Value ⊕ String) := do
  match ← input.value with
  | .list [] => Machine.fail (.emptyInput who "[]")
  | .list (item :: items) => return .inl (item :: items)
  | other => do
      let text ← Machine.orFail (other.asWord who)
      if text.isEmpty then
        Machine.fail (.emptyInput who other.describe)
      else
        return .inr text

/-- Write a value.  A list inside a list takes as much room as a call. -/
def write (room : Nat) (style : Style) (value : Value) : Machine σ String :=
  if value.isWithin room then
    return value.render style
  else
    Machine.crash .tooManyCalls

/-- Resolve an input and write it. -/
def text (room : Nat) (style : Style) (input : Input σ) : Machine σ String := do
  write room style (← input.value)

end Input

/-- What to do with a fixed number of inputs. -/
inductive Action (σ : Type) where
  | none (act : Machine σ (Option Value))
  | one (act : Input σ → Machine σ (Option Value))
  | two (act : Input σ → Input σ → Machine σ (Option Value))
  | three (act : Input σ → Input σ → Input σ → Machine σ (Option Value))

namespace Action

/-- Loops that go around this often are taken to be endless. -/
def loopLimit : Nat := Number.powerOfTen 18

/-- Run a block for rounds `first`, `first + 1` and so on, `rounds` times. -/
def repeatRounds (first : Nat) (block : Machine σ (Option Value)) : Nat → Machine σ Unit
  | 0 => pure ()
  | rounds + 1 => do
      Machine.setRound (some first)
      let _ ← block
      repeatRounds (first + 1) block rounds

/-- Test, then run, for as long as the test holds. -/
def loopWhile (test : Machine σ Bool) (body : Machine σ (Option Value)) :
    Nat → Machine σ Unit
  | 0 => Machine.crash .endlessLoop
  | rounds + 1 => do
      if ← test then
        let _ ← body
        loopWhile test body rounds
      else
        pure ()

/-- Run, then test, until the test holds. -/
def loopUntil (test : Machine σ Bool) (body : Machine σ (Option Value)) :
    Nat → Machine σ Unit
  | 0 => Machine.crash .endlessLoop
  | rounds + 1 => do
      let _ ← body
      if ← test then
        pure ()
      else
        loopUntil test body rounds

/-- Do something that gives no value. -/
def quietly (act : Machine σ Unit) : Machine σ (Option Value) := do
  act
  return Option.none

/-- Report a value. -/
def reporting (act : Machine σ Value) : Machine σ (Option Value) := do
  return some (← act)

/-- Tell the turtle to do something. -/
def turtle [Stage σ] (room : Nat) (deed : Deed) : Action σ :=
  .none (quietly (Machine.tell room deed))

/-- Tell the turtle to do something with a number. -/
def turtleBy [Stage σ] (room : Nat) (who : String) (deed : Float → Deed) : Action σ :=
  .one fun input => quietly do
    Machine.tell room (deed (← input.number who))

/-- Report something about the turtle. -/
def query (report : Turtle → Value) : Action σ :=
  .none (reporting do return report (← Machine.turtle))

/-- The number that an operation made, if it is finite. -/
def result (who : String) (number : Float) : Machine σ Value := do
  return .number (← Machine.orFail (Value.finite who number))

/-- An operation on one number that may refuse it. -/
def unary (who : String) (operation : Float → Except Error Float) : Action σ :=
  .one fun input => reporting do
    let number ← input.number who
    result who (← Machine.orFail (operation number))

/-- An operation on two numbers that may refuse them. -/
def binary (who : String) (operation : Float → Float → Except Error Float) : Action σ :=
  .two fun first second => reporting do
    let left ← first.number who
    let right ← second.number who
    result who (← Machine.orFail (operation left right))

/-- A test of a value. -/
def test (property : Value → Bool) : Action σ :=
  .one fun input => reporting do
    return .truth (property (← input.value))

/-- The number of an operation by division, unless the divisor is zero. -/
def dividing (operation : Float → Float → Float) (left right : Float) : Except Error Float :=
  if right == 0 then .error .divisionByZero else .ok (operation left right)

/-- Refuse a number for which an operation is not defined. -/
def onlyIf (who : String) (allowed : Bool) (number result : Float) : Except Error Float :=
  if allowed then .ok result else .error (.rejectedInput who (Number.plain number))

/-- Whether a value is a number, or a word that spells one. -/
def isNumber (value : Value) : Except Error Bool :=
  match value.asNumber "NUMBERP" with
  | .ok _ => .ok true
  | .error (.rejectedInput _ _) => .ok false
  | .error error => .error error

/-- Whether a value is a word. -/
def isWord : Value → Bool
  | .word _ => true
  | .number _ => true
  | _ => false

/-- Whether a value is a list. -/
def isList : Value → Bool
  | .list _ => true
  | _ => false

/-- Whether a value is the empty word or the empty list. -/
def isEmpty : Value → Bool
  | .list items => items.isEmpty
  | .word text => text.isEmpty
  | _ => false

/-- A character as a word. -/
def letter (character : Char) : Value :=
  .word (String.ofList [character])

/-- Take one of the items in a row. -/
def select (who : String) (ofList : List Value → Option Value) (ofWord : String → Char) :
    Action σ :=
  .one fun input => do
    match ← input.items who with
    | .inl items => return ofList items
    | .inr text => return some (letter (ofWord text))

/-- Take all but one of the items in a row. -/
def shorten (who : String) (ofList : List Value → List Value) (ofWord : String → String) :
    Action σ :=
  .one fun input => reporting do
    match ← input.items who with
    | .inl items => return .list (ofList items)
    | .inr text => return .word (ofWord text)

/-- The item at a place, counted from one, if that is among so many. -/
def itemAt (index : Int) (count : Nat) (item : Nat → Option Value) : Machine σ (Option Value) :=
  if 1 ≤ index ∧ index ≤ count then
    return item (index - 1).toNat
  else
    Machine.fail (.noSuchItem (Number.writeInt index) count)

/-- What a value adds to a sentence. -/
def sentencePart : Value → List Value
  | .list items => items
  | other => [other]

/-- What a primitive does. -/
def ofPrimitive [Platform] [Stage σ] (room : Nat) : Primitive → Action σ
  | .forward => turtleBy room "FORWARD" .forward
  | .back => turtleBy room "BACK" .back
  | .left => turtleBy room "LEFT" .left
  | .right => turtleBy room "RIGHT" .right
  | .penUp => turtle room (.setPenDown false)
  | .penDown => turtle room (.setPenDown true)
  | .penPaint => turtle room (.setPenMode .paint)
  | .penErase => turtle room (.setPenMode .erase)
  | .penReverse => turtle room (.setPenMode .reverse)
  | .hideTurtle => turtle room (.setVisible false)
  | .showTurtle => turtle room (.setVisible true)
  | .clearScreen => turtle room .clear
  | .clean => turtle room .clean
  | .home => turtle room .home
  | .setHeading => turtleBy room "SETHEADING" .setHeading
  | .setPosition =>
      .one fun place => quietly do
        match ← place.list "SETPOS" with
        | [x, y] => do
            let x ← Machine.orFail (x.asNumber "SETPOS")
            let y ← Machine.orFail (y.asNumber "SETPOS")
            Machine.tell room (.setPosition (some x) (some y))
        | items => Machine.fail (.pairNeeded (Value.list items).describe)
  | .setCoordinates =>
      .two fun first second => quietly do
        let x ← first.number "SETXY"
        let y ← second.number "SETXY"
        Machine.tell room (.setPosition (some x) (some y))
  | .setX => turtleBy room "SETX" fun x => .setPosition (some x) Option.none
  | .setY => turtleBy room "SETY" fun y => .setPosition Option.none (some y)
  | .setPenColor =>
      .one fun color => quietly do
        Machine.tell room (.setPenColor (← color.color "SETPENCOLOR"))
  | .setBackground =>
      .one fun color => quietly do
        Machine.tell room (.setBackground (← color.color "SETBACKGROUND"))
  | .setPenSize => turtleBy room "SETPENSIZE" .setPenSize
  | .fill => turtle room .fill
  | .wait => turtleBy room "WAIT" fun ticks => .wait (ticks * 1000 / 60)
  | .xCoordinate => query fun turtle => .number turtle.x
  | .yCoordinate => query fun turtle => .number turtle.y
  | .position => query fun turtle => .list [.number turtle.x, .number turtle.y]
  | .heading => query fun turtle => .number turtle.bearing
  | .penColor => query fun turtle => .ofColor turtle.penColor
  | .isPenDown => query fun turtle => .truth turtle.penDown
  | .isShown => query fun turtle => .truth turtle.visible
  | .repeatBlock =>
      .two fun count block => quietly do
        let times ← count.integer "REPEAT"
        let body ← block.block "REPEAT"
        Machine.keepingRound (repeatRounds 1 body times.toNat)
  | .repeatCount =>
      .none <| reporting do
        match ← Machine.round with
        | some round => return .number (Number.ofNat round)
        | Option.none => return .number (-1)
  | .ifBlock =>
      .two fun condition block => do
        if ← condition.truth "IF" then block.run "IF" else return Option.none
  | .ifElse =>
      .three fun condition block other => do
        if ← condition.truth "IFELSE" then block.run "IFELSE" else other.run "IFELSE"
  | .untilBlock =>
      .two fun condition block => quietly do
        loopUntil (condition.truth "UNTIL") (block.run "UNTIL") loopLimit
  | .whileBlock =>
      .two fun condition block => quietly do
        loopWhile (condition.truth "WHILE") (block.run "WHILE") loopLimit
  | .stop => .none (Machine.leave .stop)
  | .output => .one fun input => do Machine.leave (.output (← input.value))
  | .bye => .none (Machine.leave .bye)
  | .make =>
      .two fun name value => quietly do
        let name ← name.word "MAKE"
        Machine.assign name (← value.value)
  | .thing => .one fun name => reporting do Machine.lookup (← name.word "THING")
  | .sum => binary "SUM" fun left right => .ok (left + right)
  | .difference => binary "DIFFERENCE" fun left right => .ok (left - right)
  | .product => binary "PRODUCT" fun left right => .ok (left * right)
  | .quotient => binary "QUOTIENT" (dividing (· / ·))
  | .remainder => binary "REMAINDER" (dividing Number.remainder)
  | .minus => unary "MINUS" fun number => .ok (-number)
  | .absolute => unary "ABSOLUTE" fun number => .ok number.abs
  | .truncate => unary "INT" fun number => .ok (Number.truncate number)
  | .round => unary "ROUND" fun number => .ok (Number.roundAway number)
  | .squareRoot =>
      unary "SQRT" fun number => onlyIf "SQRT" (!(number < 0)) number number.sqrt
  | .sine => unary "SIN" fun number => .ok (Number.radians number).sin
  | .cosine => unary "COS" fun number => .ok (Number.radians number).cos
  | .arcTangent => unary "ARCTAN" fun number => .ok (Number.degrees number.atan)
  | .arcCosine =>
      unary "ARCCOS" fun number =>
        onlyIf "ARCCOS" (-1 ≤ number && number ≤ 1) number (Number.degrees number.acos)
  | .random =>
      .one fun limit => reporting do
        let number ← limit.number "RANDOM"
        let _ ← Machine.orFail (onlyIf "RANDOM" (!(number < 1)) number number)
        let drawn ← Machine.draw ((Number.whole? number).getD 1).toNat
        result "RANDOM" (Number.ofNat drawn)
  | .equal =>
      .two fun first second => reporting do
        let left ← first.value
        let right ← second.value
        return .truth (← Machine.orFail (left.equal right))
  | .not => .one fun input => reporting do return .truth (!(← input.truth "NOT"))
  | .and =>
      .two fun first second => reporting do
        if ← first.truth "AND" then return .truth (← second.truth "AND")
        else return .truth false
  | .or =>
      .two fun first second => reporting do
        if ← first.truth "OR" then return .truth true
        else return .truth (← second.truth "OR")
  | .isNumber =>
      .one fun input => reporting do
        return .truth (← Machine.orFail (isNumber (← input.value)))
  | .isWord => test isWord
  | .isList => test isList
  | .isEmpty => test isEmpty
  | .first => select "FIRST" List.head? String.front
  | .butFirst => shorten "BUTFIRST" List.tail fun text => (text.drop 1).copy
  | .last => select "LAST" List.getLast? String.back
  | .butLast => shorten "BUTLAST" List.dropLast fun text => (text.dropEnd 1).copy
  | .item =>
      .two fun place row => do
        let index ← place.integer "ITEM"
        match ← row.items "ITEM" with
        | .inl items => itemAt index items.length fun place => items[place]?
        | .inr text => itemAt index text.length fun place => some (letter (text.drop place).front)
  | .count =>
      .one fun input => reporting do
        match ← input.value with
        | .list items => return .number (Number.ofNat items.length)
        | other => return .number (Number.ofNat (← Machine.orFail (other.asWord "COUNT")).length)
  | .putFirst =>
      .two fun first second => reporting do
        let item ← first.value
        return .list (item :: (← second.list "FPUT"))
  | .putLast =>
      .two fun first second => reporting do
        let items ← second.list "LPUT"
        return .list (items ++ [← first.value])
  | .list =>
      .two fun first second => reporting do
        let left ← first.value
        return .list [left, ← second.value]
  | .sentence =>
      .two fun first second => reporting do
        let left ← first.value
        return .list (sentencePart left ++ sentencePart (← second.value))
  | .word =>
      .two fun first second => reporting do
        let left ← first.word "WORD"
        return .word (left ++ (← second.word "WORD"))
  | .print => .one fun input => quietly do Machine.print ((← input.text room .printed) ++ "\n")
  | .display => .one fun input => quietly do Machine.print ((← input.text room .shown) ++ "\n")
  | .emit => .one fun input => quietly do Machine.print (← input.text room .printed)

/-- Carry out a primitive on its inputs. -/
def perform [Platform] [Stage σ] (room : Nat) (primitive : Primitive) (inputs : List (Input σ)) :
    Machine σ (Option Value) :=
  match ofPrimitive room primitive, inputs with
  | .none act, [] => act
  | .one act, [first] => act first
  | .two act, [first, second] => act first second
  | .three act, [first, second, third] => act first second third
  | _, _ => Machine.crash (.wrongInputCount primitive.name)

end Action

end Logo
