import Logo.Number.Written
import Logo.Turtle

/-!
# The stage

Whatever the turtle does it does at once, but what is seen of it may take
time.  So every change that can be seen becomes a request to a stage, which
carries the state before and after it.  A stage may draw, keep a log, or do
nothing at all; the turtle never learns which.

`Studio` brings a turtle together with its stage and with the speed that
decides into how many steps a motion is cut.  Deeds are carried out with some
room left on the stack; where a stage needs more, it cannot be asked.
-/

namespace Logo

/-- What the turtle asks a stage to show. -/
inductive Request where
  | motion (before after : Turtle) (steps : Nat)
  | redraw (turtle : Turtle)
  | repaint (turtle : Turtle)
  | fill (turtle : Turtle)
  | wait (milliseconds : Float)

/--
A stage takes requests.  One that fails keeps what it has shown so far.  A
request takes room on the stack, which is measured in procedure calls.
-/
class Stage (σ : Type) where
  request : Request → ExceptT Fault (StateM σ) Unit
  room : σ → Nat

/-- The stage on which nothing is seen. -/
instance : Stage Unit where
  request _ := pure ()
  room _ := 0

/-- The stage that remembers its requests, latest first. -/
instance : Stage (List Request) where
  request request := modify (request :: ·)
  room _ := 0

/-- A turtle with its stage and its speed. -/
structure Studio (σ : Type) where
  turtle : Turtle
  speed : Int
  stage : σ

/-- What the turtle can be told to do. -/
inductive Deed where
  | forward (distance : Float)
  | back (distance : Float)
  | left (degrees : Float)
  | right (degrees : Float)
  | setHeading (degrees : Float)
  | setPosition (x y : Option Float)
  | home
  | setPenDown (down : Bool)
  | setPenMode (mode : PenMode)
  | setPenColor (color : Color)
  | setPenSize (size : Float)
  | setBackground (color : Color)
  | clear
  | clean
  | setVisible (visible : Bool)
  | fill
  | wait (milliseconds : Float)

namespace Studio

variable {σ : Type}

/-- Actions that change a studio and may end in a mishap. -/
abbrev Direction (σ : Type) := ExceptT Mishap (StateM (Studio σ))

/-- The speed that every turtle starts with. -/
def defaultSpeed : Int := 50

/-- A new turtle at home on a stage. -/
def initial (stage : σ) : Studio σ :=
  ⟨.initial, defaultSpeed, stage⟩

/--
Into how many steps a motion over a distance is cut at a speed: one for each
unit of its length, but not more than five times the speed, and at least five.
-/
def stepCount (speed : Int) (distance : Float) : Nat :=
  let limit := speed * 5
  match Number.Exact.ofFloat? distance.abs with
  | some length => (max 5 (min length.ceiling limit)).toNat
  | none => if distance.isNaN then 5 else (max 5 limit).toNat

/-- Ask the stage for something, if there is room to do so. -/
def ask [Stage σ] (room : Nat) (request : Request) : Direction σ Unit := fun studio =>
  if Stage.room studio.stage ≤ room then
    match (Stage.request request).run studio.stage with
    | (.ok (), stage) => (.ok (), { studio with stage })
    | (.error fault, stage) => (.error (.fault fault), { studio with stage })
  else
    (.error (.fault .tooManyCalls), studio)

/-- Change the turtle. -/
def become (change : Turtle → Turtle) : Direction σ Unit :=
  modify fun studio => { studio with turtle := change studio.turtle }

/-- Move the turtle to where a rule says, and show the motion over a distance. -/
def glide [Stage σ] (room : Nat) (distance : Float) (rule : Turtle → Except Mishap Turtle) :
    Direction σ Unit := do
  let studio ← get
  match rule studio.turtle with
  | .error mishap => throw mishap
  | .ok after =>
      become fun _ => after
      ask room (.motion studio.turtle after (stepCount studio.speed distance))

/-- Walk ahead. -/
def walk [Stage σ] (room : Nat) (distance : Float) : Direction σ Unit :=
  glide room distance (·.ahead distance)

/-- Go to a place; a coordinate that is not given stays as it is. -/
def goTo [Stage σ] (room : Nat) (x y : Option Float) : Direction σ Unit := do
  let turtle := (← get).turtle
  let x := x.getD turtle.x
  let y := y.getD turtle.y
  glide room ((x - turtle.x).abs + (y - turtle.y).abs) (·.moveTo x y)

/-- Face another way. -/
def turn [Stage σ] (room : Nat) (heading : Float → Float) : Direction σ Unit := do
  become fun turtle => { turtle with heading := heading turtle.heading }
  ask room (.redraw (← get).turtle)

/-- Paint the whole background. -/
def clean [Stage σ] (room : Nat) : Direction σ Unit := do
  ask room (.repaint (← get).turtle)

/-- Carry out a deed.  The turtle changes first, then the stage is asked to show it. -/
def perform [Stage σ] (room : Nat) : Deed → Direction σ Unit
  | .forward distance => walk room distance
  | .back distance => walk room (-distance)
  | .left degrees => turn room (· - degrees)
  | .right degrees => turn room (· + degrees)
  | .setHeading degrees => turn room fun _ => Number.modulo degrees 360
  | .setPosition x y => goTo room x y
  | .home => do
      goTo room (some 0) (some 0)
      turn room fun _ => 0
  | .setPenDown penDown => become fun turtle => { turtle with penDown }
  | .setPenMode penMode => become fun turtle => { turtle with penMode }
  | .setPenColor penColor => become fun turtle => { turtle with penColor }
  | .setPenSize penSize =>
      if penSize < 0 then
        throw (.error (.rejectedInput "SETPENSIZE" (Number.plain penSize)))
      else
        become fun turtle => { turtle with penSize }
  | .setBackground background => do
      become fun turtle => { turtle with background }
      clean room
  | .clear => do
      become fun _ => .initial
      clean room
  | .clean => clean room
  | .setVisible visible => do
      become fun turtle => { turtle with visible }
      ask room (.redraw (← get).turtle)
  | .fill => do ask room (.fill (← get).turtle)
  | .wait milliseconds => ask room (.wait milliseconds)

/-- Set the speed; it stays between 0 and 100. -/
def setSpeed (speed : Int) (studio : Studio σ) : Studio σ :=
  { studio with speed := max 0 (min 100 speed) }

end Studio

end Logo
