import Logo.Options
import Logo.Path
import Logo.Report
import Logo.Text.Utf8
import Logo.Window

/-!
# The command line

What the program does when it is called with some words.  First the words are
read; a call for help, for the list of commands or a usage error ends here.
Then the program is read from its file and checked.  If it is to be run, it
runs in a session with a picture of 800 by 600, either straight through or in
a window, and the picture may be saved.

Nothing here reads or writes files.  What is needed from outside comes in as
arguments, and an outcome says what is to be printed and saved.
-/

namespace Logo.CommandLine

variable [Platform]

/-- Where the program is called, and what it finds there. -/
structure Surroundings where
  directory : String
  file : String → Option (List UInt8)
  outburst : Outburst := {}
  draws : Nat → Nat := fun _ => 0

/-- What ends the program from outside the language. -/
inductive Crash where
  | brokenPath
  | unreadable (malformed : Text.Utf8.Malformed)
  | noSpeed
  | fault (fault : Fault)

/-- The wording of a crash. -/
def Crash.message : Crash → String
  | .brokenPath => "embedded null byte"
  | .unreadable malformed => malformed.message
  | .noSpeed => "'<' not supported between instances of 'list' and 'int'"
  | .fault cause => cause.message

/-- What a call comes to: an exit status unless there is none, texts, and a picture to save. -/
structure Outcome where
  status : Option Nat := some 0
  output : String := ""
  errors : String := ""
  saved : Option (String × Picture.Surface) := none
  glimpses : List Window.Glimpse := []
  crash : Option Crash := none

/-- How the program can be called. -/
def usage : String :=
  "usage: honeylogo [-h] [-c] [-s SPEED] [--headless] [-o IMAGE] [-v]\n" ++
  "                 [--commands]\n" ++
  "                 [program]\n"

/-- What a call for help prints. -/
def help : String :=
  usage ++
  "\n" ++
  "Interpreter for the HoneyLogo turtle-graphics language.\n" ++
  "\n" ++
  "positional arguments:\n" ++
  "  program               a file of HoneyLogo source code\n" ++
  "\n" ++
  "options:\n" ++
  "  -h, --help            show this help message and exit\n" ++
  "  -c, --check           Check the program thoroughly but do not actually run\n" ++
  "                        it.\n" ++
  "  -s SPEED, --speed SPEED\n" ++
  "                        How fast the turtle goes, from 0 to 100. Default is\n" ++
  "                        50.\n" ++
  "  --headless            Don't open a window. Run the program straight through,\n" ++
  "                        as fast as possible.\n" ++
  "  -o IMAGE, --save IMAGE\n" ++
  "                        After the program finishes, save the picture to this\n" ++
  "                        file (e.g. picture.png).\n" ++
  "  -v, --verbose         Say more about what's going on.\n" ++
  "  --commands            List every built-in command, then quit.\n"

/-- What a call without any words prints. -/
def introduction : String :=
  "This is an interpreter for the HoneyLogo turtle-graphics language.\n" ++
  "\n" ++
  usage ++
  "\n" ++
  "\n" ++
  "For example:\n" ++
  "\n" ++
  "    honeylogo square.logo\n" ++
  "\n" ++
  "will draw whatever square.logo says to draw, or else try to explain why not.\n" ++
  "\n" ++
  "    honeylogo -h\n" ++
  "\n" ++
  "will explain all the arguments.\n"

/-- The outcome of a usage error. -/
def misused (error : UsageError) : Outcome :=
  { status := some 2, errors := usage ++ "honeylogo: error: " ++ error.message ++ "\n" }

/-- A file to work on, and how. -/
structure Task where
  options : Options
  program : String

/-- Read the words of a call; what needs no program is done at once. -/
def taskOf (words : List String) : Except Outcome Task :=
  if words.isEmpty then
    .error { status := none, output := introduction }
  else
    match Options.read words with
    | .error error => .error (misused error)
    | .ok .help => .error { output := help }
    | .ok (.options options) =>
        if options.commands then
          .error { output := Primitive.catalogue ++ "\n" }
        else
          match options.program with
          | none => .error (misused .noProgram)
          | some program => .ok ⟨options, program⟩

namespace Task

/-- The path of the program. -/
def path (task : Task) (directory : String) : String :=
  ((Path.ofString directory).join (.ofString task.program)).render

/-- Whether to say what is going on. -/
def isTalkative (task : Task) : Bool :=
  task.options.verbose || task.options.check

/-- A line for those who want to know what is going on. -/
def remark (task : Task) (text : String) : String :=
  if task.isTalkative then text ++ "\n" else ""

/-- The title of the window. -/
def title (task : Task) : String :=
  Window.title ++ " - " ++ (Path.ofString task.program).name

end Task

/-- A program that is ready to run, how fast to run it, and what has been said so far. -/
structure Job where
  task : Task
  program : Program
  speed : Int
  errors : String

/-- What is added when there were more findings than a report takes. -/
def surrender : String :=
  String.join (List.replicate 35 " *") ++ "\n" ++
  "Giving up after a few issues. One crisis at a time, eh?\n"

/-- What is wrong with a program before it runs. -/
def examine (task : Task) (program : Program) : Report :=
  if task.options.check then program.check Report.defaultLimit
  else .upTo Report.defaultLimit program.misreadings

/-- The contents of the file at a path, or what comes of it if there is none. -/
def contents (surroundings : Surroundings) (path : String) : Except Outcome (List UInt8) :=
  if path.contains '\x00' then
    .error { status := none, crash := some .brokenPath }
  else
    match surroundings.file path with
    | some bytes => .ok bytes
    | none =>
        let report : Report := ⟨[.noFile path], false⟩
        .error { status := some 1, errors := report.render surroundings.outburst "" }

/-- Read a program, or say what comes of it if there is no room to do so. -/
def parsed (text : String) : Except Outcome Program :=
  match Program.parse Platform.readers text with
  | .ok program => .ok program
  | .error fault => .error { status := none, crash := some (.fault fault) }

/-- Read a program from the contents of its file, and check it. -/
def load (surroundings : Surroundings) (task : Task) : Except Outcome Job := do
  let path := task.path surroundings.directory
  match Text.Utf8.decode (← contents surroundings path) with
  | .error malformed => .error { status := none, crash := some (.unreadable malformed) }
  | .ok characters => do
      let program ← parsed (String.ofList (Text.unifyNewlines characters))
      let parsed := task.remark
        ("Parsed " ++ toString program.commands.length ++ " top-level command(s) from " ++ path)
      let report := examine task program
      if report.isClear then
        if task.options.check then
          .error { errors := parsed ++ "Looks plausible to me.\n" }
        else
          match task.options.speed with
          | some speed => .ok ⟨task, program, speed, parsed⟩
          | none => .error { status := none, errors := parsed, crash := some .noSpeed }
      else
        .error
          { status := some 1
            errors := parsed ++ report.render surroundings.outburst program.source ++
              if report.overflow then surrender else "" }

namespace Job

/-- The session in which a job runs. -/
def session (job : Job) (draws : Nat → Nat) : Session :=
  .new (some (.filled 800 600 .black)) job.speed draws

/-- The picture of a session, if it is to be saved, with the path of its file. -/
def saving (job : Job) (directory : String) (session : Session) :
    Option (String × Picture.Surface) :=
  match job.task.options.save, session.scene with
  | some name, some scene =>
      if name == "" then none
      else some (((Path.ofString directory).join (.ofString name)).render, scene.canvas.surface)
  | _, _ => none

/-- What is said when the picture has been saved. -/
def savingRemark (job : Job) : String :=
  match job.task.options.save with
  | some name => if name == "" then "" else job.task.remark ("Saved the picture to " ++ name)
  | none => ""

/-- The outcome of a job whose session has come to its end. -/
def conclude (job : Job) (surroundings : Surroundings) (session : Session) : Outcome :=
  let errors := job.errors ++ job.savingRemark
  let saved := job.saving surroundings.directory session
  match session.error, session.failed with
  | some error, some command =>
      let report : Report := ⟨[.stopped error command.origin], false⟩
      { status := some 1
        output := session.output
        errors := errors ++ report.render surroundings.outburst job.program.source
        saved }
  | _, _ => { output := session.output, errors := errors ++ job.task.remark "Done.", saved }

/-- The outcome of a job that a fault has ended. -/
def crashed (job : Job) (session : Session) (fault : Fault) : Outcome :=
  { status := none, output := session.output, errors := job.errors, crash := some (.fault fault) }

/-- Run a job straight through. -/
def runHeadless (job : Job) (surroundings : Surroundings) : Outcome :=
  let running : Session.Running Bool := do
    Session.start job.program
    Session.runToEnd
  match running.run (job.session surroundings.draws) with
  | (.ok _, session) => job.conclude surroundings session
  | (.error fault, session) => job.crashed session fault

/-- Run a job in a window. -/
def runShown (job : Job) (surroundings : Surroundings) (frames : List Window.Frame) : Outcome :=
  let shown := Window.play (job.session surroundings.draws) job.program frames
  let outcome :=
    match shown.fault with
    | none => job.conclude surroundings shown.session
    | some fault => job.crashed shown.session fault
  { outcome with glimpses := shown.glimpses }

end Job

/-- Call the program.  The frames are what happens to the window, if one is opened. -/
def call (surroundings : Surroundings) (frames : List Window.Frame) (words : List String) :
    Outcome :=
  let job : Except Outcome Job := do load surroundings (← taskOf words)
  match job with
  | .error outcome => outcome
  | .ok job =>
      if job.task.options.headless then job.runHeadless surroundings
      else job.runShown surroundings frames

end Logo.CommandLine
