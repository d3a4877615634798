import Logo.Number.Numeral
import Logo.Text.Quoted

/-!
# Options

What can be asked for on the command line.  An option has a long name, which
may be shortened as long as it stays unambiguous, and perhaps a letter.  The
value of an option is the next word, or follows the name after an equals sign,
or follows the letter directly.  Letters of options without value can be run
together; an equals sign after the first of them says nothing, and any other
belongs to the text.  Two dashes end the options; as a value that is attached
to an option they stand for no value at all.

Reading goes in two passes.  The first tells options from other words, and
objects to ambiguous names.  The second takes the words from left to right.
-/

namespace Logo

/-- What the command line asks for. -/
structure Options where
  program : Option String := none
  check : Bool := false
  speed : Option Int := some 50
  headless : Bool := false
  save : Option String := none
  verbose : Bool := false
  commands : Bool := false
deriving DecidableEq, Repr

/-- The options there are. -/
inductive Switch where
  | help | check | speed | headless | save | verbose | commands
deriving DecidableEq, Repr

namespace Switch

def all : List Switch :=
  [.help, .check, .speed, .headless, .save, .verbose, .commands]

/-- The names of an option, its letter first. -/
def names : Switch → List String
  | .help => ["-h", "--help"]
  | .check => ["-c", "--check"]
  | .speed => ["-s", "--speed"]
  | .headless => ["--headless"]
  | .save => ["-o", "--save"]
  | .verbose => ["-v", "--verbose"]
  | .commands => ["--commands"]

/-- Whether an option has a value. -/
def takesValue : Switch → Bool
  | .speed | .save => true
  | .help | .check | .headless | .verbose | .commands => false

/-- How messages name an option. -/
def title (switch : Switch) : String :=
  "/".intercalate switch.names

/-- All names with their options. -/
def table : List (String × Switch) :=
  all.flatMap fun switch => switch.names.map fun name => (name, switch)

/-- The option of a name. -/
def find? (name : String) : Option Switch :=
  table.lookup name

end Switch

/-- What can be wrong with a command line. -/
inductive UsageError where
  | ambiguous (word : String) (names : List String)
  | valueMissing (switch : Switch)
  | notWhole (switch : Switch) (text : String)
  | valueIgnored (switch : Switch) (text : String)
  | unrecognized (words : List String)
  | noProgram
deriving DecidableEq, Repr

/-- The wording of a usage error. -/
def UsageError.message : UsageError → String
  | .ambiguous word names =>
      "ambiguous option: " ++ word ++ " could match " ++ ", ".intercalate names
  | .valueMissing switch => "argument " ++ switch.title ++ ": expected one argument"
  | .notWhole switch text =>
      "argument " ++ switch.title ++ ": invalid int value: " ++ Text.quoted text
  | .valueIgnored switch text =>
      "argument " ++ switch.title ++ ": ignored explicit argument " ++ Text.quoted text
  | .unrecognized words => "unrecognized arguments: " ++ " ".intercalate words
  | .noProgram => "Which program should I run?"

namespace Options

/--
What is attached to an option: to its letter more letters or a value, to its
long name a value.
-/
inductive Attached where
  | nothing
  | joined (characters : List Char)
  | assigned (text : String)

/-- A word of the command line. -/
inductive Word where
  | argument (text : String)
  | divider
  | option (switch : Switch) (attached : Attached)
  | unknown (text : String)

/-- A word cut at its first equals sign, if it has one. -/
def cut (characters : List Char) : String × Option String :=
  let name := String.ofList (characters.takeWhile (· != '='))
  match characters.dropWhile (· != '=') with
  | _ :: value => (name, some (String.ofList value))
  | [] => (name, none)

/-- Whether a name is a dash and a letter. -/
def isLetter (name : String) : Bool :=
  match name.toList with
  | '-' :: '-' :: _ => false
  | _ => true

/-- What is attached to a name that was cut from it at an equals sign. -/
def attachedTo (name : String) : Option String → Attached
  | none => .nothing
  | some text => if isLetter name then .joined text.toList else .assigned text

/-- Whether a word is a negative number.  A line feed at its end does not matter. -/
def isNegative (characters : List Char) : Bool :=
  match characters with
  | '-' :: unsigned =>
      let digits := if unsigned.getLast? == some '\n' then unsigned.dropLast else unsigned
      match digits.dropWhile Text.isDigit with
      | [] => !digits.isEmpty
      | mark :: fraction => mark == '.' && !fraction.isEmpty && fraction.all Text.isDigit
  | _ => false

/-- The option whose letter starts a word of one dash. -/
def byLetter? (characters : List Char) : Option Word :=
  match characters with
  | dash :: letter :: rest =>
      (Switch.find? (String.ofList [dash, letter])).map fun switch => .option switch (.joined rest)
  | _ => none

/-- What a word with dashes is when it is not the name of an option. -/
def fallback (text : String) : Word :=
  if isNegative text.toList || text.contains ' ' then .argument text else .unknown text

/-- The options whose names start with a word of two dashes. -/
def byLongName (text : String) : Except UsageError Word :=
  let (start, value) := cut text.toList
  match Switch.table.filter fun (name, _) => start.toList.isPrefixOf name.toList with
  | [] => .ok (fallback text)
  | [(name, switch)] => .ok (.option switch (attachedTo name value))
  | several => .error (.ambiguous text (several.map (·.1)))

/-- Recognize a word that starts with a dash and is not an exact name. -/
def recognize (text : String) : Except UsageError Word :=
  match cut text.toList with
  | (name, some value) =>
      match Switch.find? name with
      | some switch => .ok (.option switch (attachedTo name (some value)))
      | none => search text
  | (_, none) => search text
where
  /-- Look for names that a word shortens or letters that it starts with. -/
  search (text : String) : Except UsageError Word :=
    match text.toList with
    | '-' :: '-' :: _ => byLongName text
    | characters => .ok ((byLetter? characters).getD (fallback text))

/-- Tell what a word is. -/
def classify (text : String) : Except UsageError Word :=
  match text.toList with
  | '-' :: rest =>
      match Switch.find? text with
      | some switch => .ok (.option switch .nothing)
      | none => if rest.isEmpty then .ok (.argument text) else recognize text
  | _ => .ok (.argument text)

/-- Tell what the words are.  After two dashes there are no more options. -/
def classifyAll : List String → Except UsageError (List Word)
  | [] => .ok []
  | text :: rest =>
      if text == "--" then
        .ok (.divider :: rest.map .argument)
      else do
        let word ← classify text
        return word :: (← classifyAll rest)

/-- How a word of options ends. -/
inductive Ending where
  | closed
  | value (switch : Switch) (text : String)
  | wanting (switch : Switch)

/-- The options of one word: those without value, and how the word ends. -/
structure Bundle where
  flags : List Switch
  ending : Ending

/-- An option with nothing attached, after some flags. -/
def bundleBare (flags : List Switch) (switch : Switch) : Bundle :=
  if switch.takesValue then ⟨flags, .wanting switch⟩ else ⟨flags ++ [switch], .closed⟩

/-- An option with a text attached that can only be its value. -/
def bundleAssigned (flags : List Switch) (switch : Switch) (text : String) :
    Except UsageError Bundle :=
  if switch.takesValue then
    .ok ⟨flags, .value switch text⟩
  else
    .error (.valueIgnored switch text)

/-- The letters or the value attached to a letter. -/
def bundleJoined (flags : List Switch) (switch : Switch) :
    List Char → Except UsageError Bundle
  | [] => bundleAssigned flags switch ""
  | letter :: rest =>
      match switch.takesValue, Switch.find? (String.ofList ['-', letter]) with
      | false, some next =>
          if rest.isEmpty then .ok (bundleBare (flags ++ [switch]) next)
          else bundleJoined (flags ++ [switch]) next rest
      | _, _ => bundleAssigned flags switch (String.ofList (letter :: rest))

/-- Take a word of options apart. -/
def bundle (switch : Switch) : Attached → Except UsageError Bundle
  | .nothing => .ok (bundleBare [] switch)
  | .joined characters => bundleJoined [] switch characters
  | .assigned text => bundleAssigned [] switch text

/-- What has been read: the options, whether the program's place is taken, and words left over. -/
structure Reading where
  options : Options := {}
  placed : Bool := false
  extras : List String := []

/-- What a command line comes to. -/
inductive Demand where
  | help
  | options (options : Options)

/-- Set an option without value.  Nothing more is read after a call for help. -/
def setFlag (options : Options) : Switch → Option Options
  | .help => none
  | .check => some { options with check := true }
  | .headless => some { options with headless := true }
  | .verbose => some { options with verbose := true }
  | .commands => some { options with commands := true }
  | .speed | .save => some options

/-- Set an option with a value.  Two dashes take away the value that it has. -/
def setValue (options : Options) (switch : Switch) (text : String) : Except UsageError Options :=
  match switch with
  | .speed =>
      if text == "--" then
        .ok { options with speed := none }
      else
        match Number.readWhole? text with
        | some speed => .ok { options with speed := some speed }
        | none => .error (.notWhole switch text)
  | _ => .ok { options with save := if text == "--" then none else some text }

/-- Note a word that has no place. -/
def Reading.leave (reading : Reading) (text : String) : Reading :=
  { reading with extras := reading.extras ++ [text] }

/-- Take a word as the program, or note that it has no place. -/
def Reading.place (reading : Reading) (text : String) : Reading :=
  if reading.placed then reading.leave text
  else
    { reading with
      options := { reading.options with program := some text }
      placed := true }

/-- The words for the program and what is left over, after the options have ended. -/
def readRest (reading : Reading) (words : List String) : Reading :=
  if reading.placed then
    words.foldl Reading.leave (reading.leave "--")
  else
    words.foldl Reading.place reading

/-- The text of a word that is no option. -/
def Word.text : Word → String
  | .argument text => text
  | .unknown text => text
  | .divider => "--"
  | .option switch _ => switch.title

/-- Read the words from left to right. -/
def readWords (reading : Reading) : List Word → Except UsageError Demand
  | [] =>
      if reading.extras.isEmpty then .ok (.options reading.options)
      else .error (.unrecognized reading.extras)
  | .argument text :: rest =>
      if reading.placed then
        readWords (reading.leave text) rest
      else
        match rest with
        | .divider :: after => readWords (reading.place text) after
        | others => readWords (reading.place text) others
  | .divider :: rest => readWords (readRest reading (rest.map Word.text)) []
  | .unknown text :: rest => readWords (reading.leave text) rest
  | .option switch attached :: rest => do
      let bundle ← bundle switch attached
      match bundle.ending with
      | .wanting last =>
          match rest with
          | .argument text :: after =>
              match bundle.flags.foldlM setFlag reading.options with
              | none => return .help
              | some options =>
                readWords { reading with options := ← setValue options last text } after
          | _ => throw (.valueMissing last)
      | ending =>
          match bundle.flags.foldlM setFlag reading.options with
          | none => return .help
          | some options =>
              match ending with
              | .value last text =>
                readWords { reading with options := ← setValue options last text } rest
              | _ => readWords { reading with options } rest

/-- Read a command line. -/
def read (words : List String) : Except UsageError Demand := do
  readWords {} (← classifyAll words)

end Options

end Logo
