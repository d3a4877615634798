import Logo.Text.UpperCase

/-!
# Primitives

The commands that are built into the language.  Each has a name, perhaps
aliases, and a form that says which inputs it takes and whether it reports a
value.  Only reporters may stand where a value is expected, and only commands
may take blocks.

What a primitive does is the business of `Logo.Machine`; this module is all
that reading a program needs to know.
-/

namespace Logo

/-- What kind of datum an input accepts. -/
inductive Shape where
  | number | word | list | anything
deriving DecidableEq, Repr

/-- The word for a shape. -/
def Shape.label : Shape → String
  | .number => "number"
  | .word => "word"
  | .list => "list"
  | .anything => "anything"

/-- An input of a command: a block of commands in brackets, or a datum. -/
inductive Slot where
  | block
  | datum (shape : Shape)
deriving DecidableEq, Repr

/-- The word for what goes into a slot. -/
def Slot.label : Slot → String
  | .block => "block"
  | .datum shape => shape.label

/-- The subjects under which primitives are listed, in order. -/
inductive Category where
  | turtle | graphics | control | naming | arithmetic | logic | lists | inputOutput
deriving DecidableEq, Repr

namespace Category

/-- The heading of a category. -/
def label : Category → String
  | .turtle => "Turtle Graphics"
  | .graphics => "Graphics"
  | .control => "Control Structures"
  | .naming => "Variables"
  | .arithmetic => "Arithmetic"
  | .logic => "Logic"
  | .lists => "List Processing"
  | .inputOutput => "Input/Output Operations"

/-- All categories in the order of the catalogue. -/
def all : List Category :=
  [.turtle, .graphics, .control, .naming, .arithmetic, .logic, .lists, .inputOutput]

end Category

/-- How a primitive is used: as a command that acts, or as a reporter of a value. -/
inductive Form where
  | command (slots : List Slot)
  | reporter (shapes : List Shape)
deriving DecidableEq, Repr

/-- What is known about a primitive before it is run. -/
structure Spec where
  name : String
  aliases : List String
  form : Form
  category : Category
  description : String

namespace Spec

/-- The inputs that a primitive takes. -/
def slots (spec : Spec) : List Slot :=
  match spec.form with
  | .command slots => slots
  | .reporter shapes => shapes.map .datum

/-- How many inputs a primitive takes. -/
def arity (spec : Spec) : Nat :=
  spec.slots.length

/-- Whether a primitive reports a value. -/
def reports (spec : Spec) : Bool :=
  match spec.form with
  | .command _ => false
  | .reporter _ => true

end Spec

/-- The primitives of the language. -/
inductive Primitive where
  | forward | back | left | right | penUp | penDown | penPaint | penErase | penReverse
  | hideTurtle | showTurtle | clearScreen | clean | home | setHeading | setPosition
  | setCoordinates | setX | setY | setPenColor | setBackground | setPenSize | fill | wait
  | xCoordinate | yCoordinate | position | heading | penColor | isPenDown | isShown
  | repeatBlock | repeatCount | ifBlock | ifElse | untilBlock | whileBlock | stop | output | bye
  | make | thing | sum | difference | product | quotient | remainder | minus | absolute
  | truncate | round | squareRoot | sine | cosine | arcTangent | arcCosine | random | equal
  | not | and | or | isNumber | isWord | isList | isEmpty | first | butFirst | last | butLast
  | item | count | putFirst | putLast | list | sentence | word | print | display | emit
deriving DecidableEq, Repr

namespace Primitive

/-- All primitives in the order of the catalogue. -/
def all : List Primitive :=
  [.forward, .back, .left, .right, .penUp, .penDown, .penPaint, .penErase, .penReverse,
    .hideTurtle, .showTurtle, .clearScreen, .clean, .home, .setHeading, .setPosition,
    .setCoordinates, .setX, .setY, .setPenColor, .setBackground, .setPenSize, .fill, .wait,
    .xCoordinate, .yCoordinate, .position, .heading, .penColor, .isPenDown, .isShown,
    .repeatBlock, .repeatCount, .ifBlock, .ifElse, .untilBlock, .whileBlock, .stop, .output,
    .bye, .make, .thing, .sum, .difference, .product, .quotient, .remainder, .minus, .absolute,
    .truncate, .round, .squareRoot, .sine, .cosine, .arcTangent, .arcCosine, .random, .equal,
    .not, .and, .or, .isNumber, .isWord, .isList, .isEmpty, .first, .butFirst, .last, .butLast,
    .item, .count, .putFirst, .putLast, .list, .sentence, .word, .print, .display, .emit]

/-- The entry of a primitive in the catalogue. -/
def spec : Primitive → Spec
  | .forward =>
      ⟨"FORWARD", ["FD"], .command [.datum .number], .turtle,
        "Move turtle forward"⟩
  | .back =>
      ⟨"BACK", ["BK"], .command [.datum .number], .turtle,
        "Move turtle backward"⟩
  | .left =>
      ⟨"LEFT", ["LT"], .command [.datum .number], .turtle,
        "Turn turtle left"⟩
  | .right =>
      ⟨"RIGHT", ["RT"], .command [.datum .number], .turtle,
        "Turn turtle right"⟩
  | .penUp =>
      ⟨"PENUP", ["PU"], .command [], .turtle,
        "Lift pen up"⟩
  | .penDown =>
      ⟨"PENDOWN", ["PD"], .command [], .turtle,
        "Put pen down for drawing"⟩
  | .penPaint =>
      ⟨"PENPAINT", ["PPT"], .command [], .turtle,
        "Pen draws in the pen color"⟩
  | .penErase =>
      ⟨"PENERASE", ["PE"], .command [], .turtle,
        "Pen draws in the background color"⟩
  | .penReverse =>
      ⟨"PENREVERSE", ["PX", "PENR"], .command [], .turtle,
        "Pen inverts whatever it passes over"⟩
  | .hideTurtle =>
      ⟨"HIDETURTLE", ["HT"], .command [], .turtle,
        "Hide the turtle cursor"⟩
  | .showTurtle =>
      ⟨"SHOWTURTLE", ["ST"], .command [], .turtle,
        "Show the turtle cursor"⟩
  | .clearScreen =>
      ⟨"CLEARSCREEN", ["CS"], .command [], .turtle,
        "Clear the graphics screen and send the turtle home"⟩
  | .clean =>
      ⟨"CLEAN", [], .command [], .turtle,
        "Erase the drawing but leave the turtle where it is"⟩
  | .home =>
      ⟨"HOME", [], .command [], .turtle,
        "Move turtle to the center of the screen"⟩
  | .setHeading =>
      ⟨"SETHEADING", ["SETH"], .command [.datum .number], .turtle,
        "Set turtle heading"⟩
  | .setPosition =>
      ⟨"SETPOS", [], .command [.datum .list], .turtle,
        "Set turtle position from a list [x y]"⟩
  | .setCoordinates =>
      ⟨"SETXY", ["SXY"], .command [.datum .number, .datum .number], .turtle,
        "Set turtle X and Y coordinates"⟩
  | .setX =>
      ⟨"SETX", [], .command [.datum .number], .turtle,
        "Set the X coordinate of the turtle"⟩
  | .setY =>
      ⟨"SETY", [], .command [.datum .number], .turtle,
        "Set the Y coordinate of the turtle"⟩
  | .setPenColor =>
      ⟨"SETPENCOLOR", ["SETPC", "SPC"], .command [.datum .anything], .graphics,
        "Set pen color: a number 0-15, a list [r g b], or a color name"⟩
  | .setBackground =>
      ⟨"SETBACKGROUND", ["SETBG"], .command [.datum .anything], .graphics,
        "Set the background color, repainting the whole screen"⟩
  | .setPenSize =>
      ⟨"SETPENSIZE", ["SETPS"], .command [.datum .number], .graphics,
        "Set pen size"⟩
  | .fill =>
      ⟨"FILL", ["FL"], .command [], .graphics,
        "Fill the enclosed area around the turtle"⟩
  | .wait =>
      ⟨"WAIT", [], .command [.datum .number], .control,
        "Pause for some sixtieths of a second"⟩
  | .xCoordinate =>
      ⟨"XCOR", [], .reporter [], .turtle,
        "The turtle's X coordinate"⟩
  | .yCoordinate =>
      ⟨"YCOR", [], .reporter [], .turtle,
        "The turtle's Y coordinate"⟩
  | .position =>
      ⟨"POS", [], .reporter [], .turtle,
        "The turtle's position as a list [x y]"⟩
  | .heading =>
      ⟨"HEADING", ["HD"], .reporter [], .turtle,
        "The turtle's heading, from 0 up to (not including) 360"⟩
  | .penColor =>
      ⟨"PENCOLOR", ["PC"], .reporter [], .graphics,
        "The pen color as a list [r g b]"⟩
  | .isPenDown =>
      ⟨"PENDOWNP", [], .reporter [], .turtle,
        "Is the pen down?"⟩
  | .isShown =>
      ⟨"SHOWNP", [], .reporter [], .turtle,
        "Is the turtle visible?"⟩
  | .repeatBlock =>
      ⟨"REPEAT", ["RP"], .command [.datum .number, .block], .control,
        "Repeat commands"⟩
  | .repeatCount =>
      ⟨"REPCOUNT", [], .reporter [], .control,
        "Which time around the innermost REPEAT this is"⟩
  | .ifBlock =>
      ⟨"IF", [], .command [.datum .anything, .block], .control,
        "Run the block if the condition holds"⟩
  | .ifElse =>
      ⟨"IFELSE", [], .command [.datum .anything, .block, .block], .control,
        "Run one block or the other"⟩
  | .untilBlock =>
      ⟨"UNTIL", ["UT"], .command [.datum .anything, .block], .control,
        "Run the block, then test the condition, until it holds"⟩
  | .whileBlock =>
      ⟨"WHILE", [], .command [.datum .anything, .block], .control,
        "Test the condition, then run the block, for as long as it holds"⟩
  | .stop =>
      ⟨"STOP", [], .command [], .control,
        "Stop the current procedure"⟩
  | .output =>
      ⟨"OUTPUT", ["OP"], .command [.datum .anything], .control,
        "Return a value from a procedure"⟩
  | .bye =>
      ⟨"BYE", [], .command [], .control,
        "End the whole program"⟩
  | .make =>
      ⟨"MAKE", ["MK"], .command [.datum .word, .datum .anything], .naming,
        "Create or set a variable"⟩
  | .thing =>
      ⟨"THING", ["TH"], .reporter [.word], .naming,
        "The value of the named variable"⟩
  | .sum =>
      ⟨"SUM", [], .reporter [.number, .number], .arithmetic,
        "Add two numbers"⟩
  | .difference =>
      ⟨"DIFFERENCE", [], .reporter [.number, .number], .arithmetic,
        "Subtract the second number from the first"⟩
  | .product =>
      ⟨"PRODUCT", ["PROD"], .reporter [.number, .number], .arithmetic,
        "Multiply two numbers"⟩
  | .quotient =>
      ⟨"QUOTIENT", ["QUOT"], .reporter [.number, .number], .arithmetic,
        "Divide the first number by the second"⟩
  | .remainder =>
      ⟨"REMAINDER", ["REM"], .reporter [.number, .number], .arithmetic,
        "Remainder after division, with the sign of the dividend"⟩
  | .minus =>
      ⟨"MINUS", [], .reporter [.number], .arithmetic,
        "Negate a number"⟩
  | .absolute =>
      ⟨"ABSOLUTE", ["ABS"], .reporter [.number], .arithmetic,
        "Absolute value"⟩
  | .truncate =>
      ⟨"INT", [], .reporter [.number], .arithmetic,
        "Drop the fractional part"⟩
  | .round =>
      ⟨"ROUND", [], .reporter [.number], .arithmetic,
        "Round to the nearest whole number, halves away from zero"⟩
  | .squareRoot =>
      ⟨"SQRT", [], .reporter [.number], .arithmetic,
        "Square root"⟩
  | .sine =>
      ⟨"SIN", [], .reporter [.number], .arithmetic,
        "Sine of an angle in degrees"⟩
  | .cosine =>
      ⟨"COS", [], .reporter [.number], .arithmetic,
        "Cosine of an angle in degrees"⟩
  | .arcTangent =>
      ⟨"ARCTAN", [], .reporter [.number], .arithmetic,
        "Arc tangent, in degrees"⟩
  | .arcCosine =>
      ⟨"ARCCOS", ["ACS"], .reporter [.number], .arithmetic,
        "Arc cosine, in degrees"⟩
  | .random =>
      ⟨"RANDOM", ["RND"], .reporter [.number], .arithmetic,
        "A random whole number from zero up to (not including) the input"⟩
  | .equal =>
      ⟨"EQUALP", [], .reporter [.anything, .anything], .logic,
        "Are the two inputs equal?"⟩
  | .not =>
      ⟨"NOT", [], .reporter [.anything], .logic,
        "Logical negation"⟩
  | .and =>
      ⟨"AND", [], .reporter [.anything, .anything], .logic,
        "True if both inputs are true"⟩
  | .or =>
      ⟨"OR", [], .reporter [.anything, .anything], .logic,
        "True if either input is true"⟩
  | .isNumber =>
      ⟨"NUMBERP", [], .reporter [.anything], .logic,
        "Is the input a number?"⟩
  | .isWord =>
      ⟨"WORDP", [], .reporter [.anything], .logic,
        "Is the input a word?"⟩
  | .isList =>
      ⟨"LISTP", [], .reporter [.anything], .logic,
        "Is the input a list?"⟩
  | .isEmpty =>
      ⟨"EMPTYP", [], .reporter [.anything], .logic,
        "Is the input the empty word or the empty list?"⟩
  | .first =>
      ⟨"FIRST", ["FT"], .reporter [.anything], .lists,
        "First item of a list, or first character of a word"⟩
  | .butFirst =>
      ⟨"BUTFIRST", ["BF"], .reporter [.anything], .lists,
        "All but the first item"⟩
  | .last =>
      ⟨"LAST", ["LA"], .reporter [.anything], .lists,
        "Last item of a list, or last character of a word"⟩
  | .butLast =>
      ⟨"BUTLAST", ["BL"], .reporter [.anything], .lists,
        "All but the last item"⟩
  | .item =>
      ⟨"ITEM", [], .reporter [.number, .anything], .lists,
        "The item at a (one-based) position"⟩
  | .count =>
      ⟨"COUNT", [], .reporter [.anything], .lists,
        "How many items (or characters)"⟩
  | .putFirst =>
      ⟨"FPUT", [], .reporter [.anything, .list], .lists,
        "A new list with the item in front"⟩
  | .putLast =>
      ⟨"LPUT", [], .reporter [.anything, .list], .lists,
        "A new list with the item at the end"⟩
  | .list =>
      ⟨"LIST", [], .reporter [.anything, .anything], .lists,
        "A list of the two inputs"⟩
  | .sentence =>
      ⟨"SENTENCE", ["SE"], .reporter [.anything, .anything], .lists,
        "Join the inputs into one flat list"⟩
  | .word =>
      ⟨"WORD", [], .reporter [.anything, .anything], .lists,
        "Join two words into one"⟩
  | .print =>
      ⟨"PRINT", ["PR"], .command [.datum .anything], .inputOutput,
        "Print to the output, leaving off a list's outer brackets"⟩
  | .display =>
      ⟨"SHOW", [], .command [.datum .anything], .inputOutput,
        "Print to the output, brackets and all"⟩
  | .emit =>
      ⟨"TYPE", [], .command [.datum .anything], .inputOutput,
        "Print without adding a newline"⟩

/-- The canonical name of a primitive. -/
def name (primitive : Primitive) : String :=
  primitive.spec.name

/-- The name and the aliases of a primitive. -/
def names (primitive : Primitive) : List String :=
  primitive.spec.name :: primitive.spec.aliases

/-- Every name of every primitive. -/
def table : List (String × Primitive) :=
  all.flatMap fun primitive => primitive.names.map fun name => (name, primitive)

/-- Find a primitive by one of its names, in any case. -/
def find? (word : String) : Option Primitive :=
  table.lookup (Text.upper word)

/-- Pad a text with spaces on the right. -/
def padRight (width : Nat) (text : String) : String :=
  text ++ String.ofList (List.replicate (width - text.length) ' ')

/-- The line of the catalogue for a primitive. -/
def catalogueLine (primitive : Primitive) : String :=
  let spec := primitive.spec
  let usage := " ".intercalate (spec.name :: spec.slots.map Slot.label)
  let also := if spec.aliases.isEmpty then "" else " (also " ++ ", ".intercalate spec.aliases ++ ")"
  "  " ++ padRight 32 usage ++ " " ++ spec.description ++ also

/-- All primitives with their usage, grouped by category. -/
def catalogue : String :=
  "\n".intercalate <| Category.all.flatMap fun category =>
    match all.filter fun primitive => primitive.spec.category == category with
    | [] => []
    | members => (category.label ++ ":") :: (members.map catalogueLine ++ [""])

end Primitive

end Logo
