import Logo.Bindings
import Logo.Stage
import Logo.Text.CaseFold
import Logo.Tree

/-!
# The machine

What commands act on.  The world is shared by everything that runs: the
turtle, the output, the procedures and the random draws.  A scope belongs to
one procedure call, or to the program itself: variables are private to it.

An action of the machine gives a result or exits.  Exits are signals (to stop
a procedure, to output a value from it, to end the program) and mishaps.  The
state survives every exit.
-/

namespace Logo

/-- A command to leave the procedure or the program. -/
inductive Signal where
  | stop
  | output (value : Value)
  | bye

/-- The text of a signal. -/
def Signal.render : Signal → String
  | .stop => "<Stop>"
  | .output value => "<Output " ++ value.describe ++ ">"
  | .bye => "<Bye>"

/-- Why an action ended without a result. -/
inductive Exit where
  | signal (signal : Signal)
  | mishap (mishap : Mishap)

/-- A sequence of natural numbers to draw from, and how many were drawn. -/
structure Draws where
  sequence : Nat → Nat
  used : Nat

/-- What belongs to one procedure call, or to the program itself. -/
structure Scope where
  bindings : Bindings Value
  lastResult : Option Value
  round : Option Nat

/-- A scope without variables, outside any repetition. -/
def Scope.empty : Scope := ⟨.empty, none, none⟩

/-- What all procedures share. -/
structure World (σ : Type) where
  studio : Studio σ
  output : String
  procedures : Bindings Procedure
  draws : Draws

/-- Everything that commands act on. -/
structure State (σ : Type) where
  world : World σ
  scope : Scope

/-- A world in which nothing has been defined or printed. -/
def World.initial {σ : Type} (stage : σ) (sequence : Nat → Nat) : World σ :=
  ⟨.initial stage, "", .empty, ⟨sequence, 0⟩⟩

/-- The state before a program runs. -/
def State.initial {σ : Type} (stage : σ) (sequence : Nat → Nat) : State σ :=
  ⟨.initial stage sequence, .empty⟩

/-- Actions on the state. -/
abbrev Machine (σ : Type) := ExceptT Exit (StateM (State σ))

namespace Machine

variable {σ : Type}

/-- Exit with an error. -/
def fail {α : Type} (error : Error) : Machine σ α :=
  throw (.mishap (.error error))

/-- Exit with a fault. -/
def crash {α : Type} (fault : Fault) : Machine σ α :=
  throw (.mishap (.fault fault))

/-- Exit with a signal. -/
def leave {α : Type} (signal : Signal) : Machine σ α :=
  throw (.signal signal)

/-- Take a result, or exit with the error instead of it. -/
def orFail {α : Type} : Except Error α → Machine σ α
  | .ok result => pure result
  | .error error => fail error

/-- Take a result, or exit with the mishap instead of it. -/
def orMishap {α : Type} : Except Mishap α → Machine σ α
  | .ok result => pure result
  | .error mishap => throw (.mishap mishap)

/-- The turtle. -/
def turtle : Machine σ Turtle := do
  return (← get).world.studio.turtle

/-- Tell the turtle to do something, with some room left for it. -/
def tell [Stage σ] (room : Nat) (deed : Deed) : Machine σ Unit := fun state =>
  match state with
  | ⟨⟨studio, output, procedures, draws⟩, scope⟩ =>
      match (Studio.perform room deed).run studio with
      | (.ok (), studio) => (.ok (), ⟨⟨studio, output, procedures, draws⟩, scope⟩)
      | (.error mishap, studio) =>
          (.error (.mishap mishap), ⟨⟨studio, output, procedures, draws⟩, scope⟩)

/-- Add to the output. -/
def print (text : String) : Machine σ Unit :=
  modify fun state =>
    { state with world := { state.world with output := state.world.output ++ text } }

/-- The value of a variable.  Case does not matter. -/
def lookup (name : String) : Machine σ Value := do
  match (← get).scope.bindings.find? (Text.fold name) with
  | some value => return value
  | none => fail (.undefinedVariable name)

/-- Give a variable of the scope a value. -/
def assign (name : String) (value : Value) : Machine σ Unit :=
  modify fun state =>
    { state with
      scope :=
        { state.scope with bindings := state.scope.bindings.insert (Text.fold name) value } }

/-- The procedure of a name.  Case does not matter. -/
def findProcedure (name : String) : Machine σ Procedure := do
  match (← get).world.procedures.find? (Text.fold name) with
  | some procedure => return procedure
  | none => fail (.undefinedProcedure name)

/-- Make a procedure known everywhere. -/
def define (procedure : Procedure) : Machine σ Unit :=
  modify fun state =>
    { state with
      world :=
        { state.world with
          procedures := state.world.procedures.insert (Text.fold procedure.name) procedure } }

/-- Draw the next random number below a limit. -/
def draw (limit : Nat) : Machine σ Nat :=
  modifyGet fun state =>
    let draws := state.world.draws
    (draws.sequence draws.used % limit,
      { state with world := { state.world with draws := { draws with used := draws.used + 1 } } })

/-- Remember the result of a command that ran in this scope. -/
def remember (result : Option Value) : Machine σ Unit :=
  modify fun state => { state with scope := { state.scope with lastResult := result } }

/-- The round of the innermost repetition of this scope. -/
def round : Machine σ (Option Nat) := do
  return (← get).scope.round

/-- Begin a round. -/
def setRound (round : Option Nat) : Machine σ Unit :=
  modify fun state => { state with scope := { state.scope with round } }

/-- Act, and put the round back however the action ends. -/
def keepingRound {α : Type} (action : Machine σ α) : Machine σ α := do
  let outer ← round
  let result ← tryCatch action fun exit => do
    setRound outer
    throw exit
  setRound outer
  return result

/--
Act in a scope of its own.  The result tells how the action ended and what
became of its scope; the scope outside is as before.
-/
def inScope {α : Type} (inner : Scope) (action : Machine σ α) :
    Machine σ (Except Exit α × Scope) := fun state =>
  match state with
  | ⟨world, outer⟩ =>
      match action.run ⟨world, inner⟩ with
      | (result, ⟨world, inner⟩) => (.ok (result, inner), ⟨world, outer⟩)

end Machine

end Logo
