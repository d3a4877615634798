import Logo.Calls
import Logo.Error
import Logo.Illustration

/-!
# Reports

What is found wrong with a program, put so that its author can see it: each
finding has an introduction and, where it belongs to a piece of the source,
an illustration.  A report takes findings up to a limit and then gives up.
-/

namespace Logo

/-- Something wrong with a program. -/
inductive Finding where
  | noFile (path : String)
  | misread (issue : Issue)
  | badCall (call : Call) (flaw : CallFlaw)
  | stopped (error : Error) (origin : Origin)

namespace Finding

/-- What a finding starts with. -/
def introduction : Finding → String
  | .noFile path => "I see no file called " ++ path
  | .misread issue => issue.message
  | .badCall call .undefined =>
      "There's no procedure called " ++ call.name ++ " anywhere in this program."
  | .badCall _ (.takes _) => "A procedure call disagrees with the procedure's definition."
  | .stopped error _ => "The program stopped with an error: " ++ error.message

/-- How a call disagrees with its definition. -/
def disagreement (call : Call) (expected : Nat) : String :=
  call.name ++ " takes " ++ toString expected ++ " input" ++ (if expected == 1 then "" else "s") ++
    ", but got " ++ toString call.inputs ++ " here."

/-- The extent that a finding points at, and what to write there. -/
def mark? : Finding → Option (Nat × Nat × String)
  | .noFile _ => none
  | .misread issue => some (issue.token.start, issue.token.stop, "confused here")
  | .badCall call .undefined => some (call.origin.start, call.origin.stop, "")
  | .badCall call (.takes expected) =>
      some (call.origin.start, call.origin.stop, disagreement call expected)
  | .stopped _ origin => some (origin.start, origin.stop, "while doing this")

/-- A finding about a source text, in words and picture. -/
def render (source : String) (finding : Finding) : String :=
  match finding.mark? with
  | none => finding.introduction ++ "\n"
  | some (start, stop, caption) =>
      finding.introduction ++ "\n\n" ++ Illustration.draw source start stop caption

end Finding

/-- Findings, and whether they were so many that the rest was left out. -/
structure Report where
  findings : List Finding
  overflow : Bool

namespace Report

/-- How many findings a report takes before it gives up. -/
def defaultLimit : Int := 10

/--
Take one more finding.  With the finding that brings it to its limit a report
gives up, and takes no more.  A limit below one is never reached.
-/
def add (limit : Int) (report : Report) (finding : Finding) : Report :=
  if report.overflow then
    report
  else
    let findings := report.findings ++ [finding]
    ⟨findings, findings.length == limit⟩

/-- Report findings one after the other, up to a limit. -/
def upTo (limit : Int) (findings : List Finding) : Report :=
  findings.foldl (add limit) ⟨[], false⟩

/-- Whether nothing was found. -/
def isClear (report : Report) : Bool :=
  report.findings.isEmpty

end Report

namespace Program

/-- The issues of a program as findings. -/
def misreadings (program : Program) : List Finding :=
  program.issues.map .misread

/-- The bad calls of a program as findings. -/
def callFindings (program : Program) : List Finding :=
  program.badCalls.map fun (call, flaw) => .badCall call flaw

/-- Check a program: report its issues, or its bad calls if it has no issues. -/
def check (limit : Int) (program : Program) : Report :=
  .upTo limit (if program.isClean then program.callFindings else program.misreadings)

end Program

/-- The words that open a list of findings. -/
structure Outburst where
  particle : Nat := 0
  oath : Nat := 0
  resignation : Nat := 0

namespace Outburst

def particles : List String := ["Oh, ", "Well, ", "Aw, ", "", ""]

def oaths : List String :=
  ["Ack", "Blargh", "Bother", "Crumbs", "Curses", "Drat", "Fiddlesticks", "Gadzooks",
    "Good Grief", "Great Scott", "Jeepers", "Leaping Lizards", "Nuts", "Rats", "Shell Shock",
    "Snapping Turtles"]

def resignations : List String :=
  ["The turtle is confused.", "The turtle has pulled in its head.", "I cannot continue.",
    "I need to ask for help."]

/-- The element at a place, counted around. -/
def pick (choices : List String) (index : Nat) : String :=
  (choices[index % choices.length]?).getD ""

/-- The words of an outburst. -/
def render (outburst : Outburst) : String :=
  pick particles outburst.particle ++ pick oaths outburst.oath ++ "! " ++
    pick resignations outburst.resignation

end Outburst

/-- A report as it appears on the console. -/
def Report.render (outburst : Outburst) (source : String) (report : Report) : String :=
  let rule := String.join (List.replicate 20 "  -") ++ "\n"
  let body := report.findings.map fun finding => rule ++ finding.render source ++ "\n"
  if report.isClear then
    ""
  else
    String.ofList (List.replicate 60 '*') ++ "\n" ++ outburst.render ++ "\n" ++ String.join body

end Logo
