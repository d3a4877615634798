import Logo.CommandLine
import Logo.Picture.File

/-!
# The program

The outer layer: it reads the file, keeps the time, prints and saves.  There
is no screen here, so a window is closed as soon as the program in it has come
to rest.
-/

namespace Logo.Main

variable [Platform]

/-- The bytes of a file, if it can be read. -/
def contents (path : String) : IO (Option (List UInt8)) := do
  try
    return some (← IO.FS.readBinFile path).toList
  catch _ =>
    return none

/-- Scramble a number, so that neighbours have nothing in common. -/
def scramble (number : UInt64) : UInt64 :=
  let first := (number ^^^ (number >>> 30)) * 0xbf58476d1ce4e5b9
  let second := (first ^^^ (first >>> 27)) * 0x94d049bb133111eb
  second ^^^ (second >>> 31)

/-- A sequence of random numbers that grows out of a seed. -/
def drawsFrom (seed : Nat) (index : Nat) : Nat :=
  (scramble (seed.toUInt64 + index.toUInt64 * 0x9e3779b97f4a7c15)).toNat

/-- Words to complain with. -/
def anyOutburst : IO Outburst := do
  return ⟨← IO.rand 0 4, ← IO.rand 0 15, ← IO.rand 0 3⟩

/-- Print the end of a text after so many characters, and say how long the text is. -/
def printFrom (printed : Nat) (text : String) : IO Nat := do
  IO.print (text.drop printed).toString
  (← IO.getStdout).flush
  return text.length

/-- Let time pass until a session has come to rest. -/
partial def watch (begun printed : Nat) (session : Session) :
    IO (Session × Option Fault × Nat) := do
  let now ← IO.monoMsNow
  match (Window.pass ⟨Number.ofNat (now - begun), []⟩).run session with
  | (.error fault, session) => return (session, some fault, ← printFrom printed session.output)
  | (.ok _, session) =>
      let printed ← printFrom printed session.output
      if session.isRunning then
        IO.sleep (1000 / Window.frameRate).toUInt32
        watch begun printed session
      else
        return (session, none, printed)

/-- Run a job in real time; the answer also says how much has been printed. -/
def watchJob (job : CommandLine.Job) (surroundings : CommandLine.Surroundings) :
    IO (CommandLine.Outcome × Nat) := do
  match (Session.start job.program).run (job.session surroundings.draws) with
  | (.error fault, session) => return (job.crashed session fault, 0)
  | (.ok (), session) =>
      let (session, fault, printed) ← watch (← IO.monoMsNow) 0 session
      match fault with
      | some fault => return (job.crashed session fault, printed)
      | none => return (job.conclude surroundings session, printed)

/-- Print and save what an outcome says, after what has been printed before. -/
def deliver (printed : Nat) (outcome : CommandLine.Outcome) : IO UInt32 := do
  let _ ← printFrom printed outcome.output
  if let some (path, surface) := outcome.saved then
    IO.FS.writeBinFile path (Picture.File.encode path surface)
  IO.eprint outcome.errors
  match outcome.crash with
  | some crash =>
      IO.eprintln crash.message
      return 1
  | none => return (outcome.status.getD 0).toUInt32

/-- Do what the words of a call ask for. -/
def run (words : List String) : IO UInt32 := do
  match CommandLine.taskOf words with
  | .error outcome => deliver 0 outcome
  | .ok task =>
      let directory := (← IO.currentDir).toString
      let found ← contents (task.path directory)
      let surroundings : CommandLine.Surroundings :=
        ⟨directory, fun _ => found, ← anyOutburst, drawsFrom (← IO.rand 0 0x100000000)⟩
      match CommandLine.load surroundings task with
      | .error outcome => deliver 0 outcome
      | .ok job =>
          if task.options.headless then
            deliver 0 (job.runHeadless surroundings)
          else
            let (outcome, printed) ← watchJob job surroundings
            deliver printed outcome

end Logo.Main

/-- Run the program of the command line. -/
def main (words : List String) : IO UInt32 :=
  letI := Logo.Platform.standard
  Logo.Main.run words
