import Logo.Machine.Meaning
import Logo.Program.Statement
import Logo.Scene

/-!
# Sessions

A session runs a program at a pace that can be followed.  Top-level commands
run one at a time; the next one begins only after the animations have ended
and a short delay has passed, which is the shorter the higher the speed.

Time passes when someone says so, by ticks.  `runToEnd` ignores the clock and
gets everything done at once.
-/

namespace Logo

/-- A program being run, with or without a picture. -/
structure Session where
  state : State (Option Scene)
  speed : Int
  now : Float
  pending : List Command
  readyAt : Option Float
  error : Option Error
  failed : Option Command

namespace Session

variable [Platform]

/-- Set the speed of the program and of the turtle; it stays between 0 and 100. -/
def setSpeed (speed : Int) (session : Session) : Session :=
  match session with
  | ⟨⟨⟨studio, output, procedures, draws⟩, scope⟩, _, now, pending, readyAt, error, failed⟩ =>
      ⟨⟨⟨studio.setSpeed speed, output, procedures, draws⟩, scope⟩, max 0 (min 100 speed),
        now, pending, readyAt, error, failed⟩

/-- A session that has not been given a program. -/
def new (surface : Option Picture.Surface) (speed : Int) (sequence : Nat → Nat) : Session :=
  setSpeed speed
    ⟨.initial (surface.map Scene.onSurface) sequence, Studio.defaultSpeed, 0, [], none, none,
      none⟩

/-- The picture of a session and its animations. -/
def scene (session : Session) : Option Scene :=
  session.state.world.studio.stage

/-- Everything printed so far. -/
def output (session : Session) : String :=
  session.state.world.output

/-- The turtle. -/
def turtle (session : Session) : Turtle :=
  session.state.world.studio.turtle

/-- How many animations are in flight or waiting. -/
def animations (session : Session) : Nat :=
  match session.scene with
  | none => 0
  | some scene => scene.queue.size

/-- Whether no animation is in flight or waiting. -/
def isStill (session : Session) : Bool :=
  match session.scene with
  | none => true
  | some scene => scene.queue.isIdle

/-- Whether there is anything left to do. -/
def isRunning (session : Session) : Bool :=
  !session.pending.isEmpty || !session.isStill

/-- How many seconds to pause between top-level commands. -/
def delay (session : Session) : Float :=
  Number.ofInt (500 - session.speed * 5) / 1000

/-- Actions on a session that may end in a fault. -/
abbrev Running := ExceptT Fault (StateM Session)

/-- Let the animations take a step. -/
def animate (step : Animation.Step Brushwork) : Running Unit := fun session =>
  match session with
  | ⟨⟨⟨⟨turtle, turtleSpeed, stage⟩, output, procedures, draws⟩, scope⟩, speed, now, pending,
      readyAt, error, failed⟩ =>
      let rebuild (stage : Option Scene) : Session :=
        ⟨⟨⟨⟨turtle, turtleSpeed, stage⟩, output, procedures, draws⟩, scope⟩, speed, now, pending,
          readyAt, error, failed⟩
      match stage with
      | none => (.ok (), rebuild none)
      | some scene =>
          match (Scene.perform step).run scene with
          | (result, scene) => (result, rebuild (some scene))

/-- Run an action of the machine. -/
def evaluate {α : Type} (action : Machine (Option Scene) α) : Running (Except Exit α) :=
  fun session =>
    match session with
    | ⟨state, speed, now, pending, readyAt, error, failed⟩ =>
        match action.run state with
        | (result, state) => (.ok result, ⟨state, speed, now, pending, readyAt, error, failed⟩)

/-- Add to the output. -/
def print (text : String) : Running Unit := do
  let _ ← evaluate (Machine.print text)

/-- Drop the rest of the program and all animations. -/
def cancel : Running Unit := do
  modify fun session => { session with pending := [], readyAt := none }
  animate .cancel

/-- Forget the variables and procedures of the program before. -/
def forget : Running Unit := do
  let _ ← evaluate <| modify fun (state : State (Option Scene)) =>
    { state with world := { state.world with procedures := .empty }, scope := .empty }

/-- Read a program to run. -/
def submit (text : String) : Except Fault Program :=
  Program.parse Platform.readers text

/-- Begin a program, after dropping whatever was running.  One with issues is not begun. -/
def start (program : Program) : Running Unit := do
  cancel
  modify fun session => { session with error := none, failed := none }
  if program.isClean then
    forget
    modify fun session =>
      { session with pending := program.commands, readyAt := some session.now }
  else
    print ("Parsing errors:\n" ++
      String.join (program.messages.map fun text => "- " ++ text ++ "\n"))

/-- Stop the program because of an error in a command. -/
def fail (command : Command) (error : Error) : Running Unit := do
  modify fun session =>
    { session with error := some error, failed := some command, pending := [] }
  print ("Error: " ++ error.message ++ "\n")

/-- Run the next top-level command, if there is one. -/
def step : Running Unit := do
  match (← get).pending with
  | [] => pure ()
  | command :: rest => do
      modify fun session => { session with pending := rest, readyAt := none }
      match ← evaluate command.run with
      | .ok _ => pure ()
      | .error (.signal (.output _)) => fail command .strayOutput
      | .error (.signal _) => modify fun session => { session with pending := [] }
      | .error (.mishap (.error error)) => fail command error
      | .error (.mishap (.fault .tooManyCalls)) => fail command .tooDeep
      | .error (.mishap (.fault fault)) => throw fault

/-- Let time pass: animations go on, and a command may begin. -/
def tick (now : Float) : Running Unit := do
  modify fun session => { session with now }
  animate (.tick now)
  let session ← get
  if session.pending.isEmpty || !session.isStill then
    return
  let readyAt := session.readyAt.getD (now + session.delay)
  modify fun session => { session with readyAt := some readyAt }
  if readyAt ≤ now then
    step

/-- Run the pending commands, each after the animations of the one before. -/
def runPending : Nat → Running Unit
  | 0 => pure ()
  | count + 1 => do
      if (← get).pending.isEmpty then
        return
      animate .drain
      step
      runPending count

/-- Run everything without pause, and say whether it went without error. -/
def runToEnd : Running Bool := do
  runPending (← get).pending.length
  animate .drain
  return (← get).error.isNone

end Session

end Logo
