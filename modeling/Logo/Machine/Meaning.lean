import Logo.Machine.Action
import Logo.Program

/-!
# What programs mean

Every value means an input that can be resolved, and every command means an
action of the machine.  The meaning of a tree is put together from the
meanings of its parts; only a procedure call leaves the tree, for the body of
the procedure.  So the meaning of trees takes the meaning of bodies as given,
with the room that is left for them, and `enter` ties the knot, counting how
many calls may still be inside each other.
-/

namespace Logo

variable {σ : Type}

/--
What is left of the stack: room for so many calls, and what the body of a
procedure does there.
-/
structure Depth (σ : Type) where
  room : Nat
  run : List Command → Machine σ (Option Value)

/-- The infix operations.  Comparisons give one or zero. -/
def operate (glyph : String) (left right : Float) : Except Mishap Float :=
  let truth (holds : Bool) : Except Mishap Float := .ok (if holds then 1 else 0)
  match glyph with
  | "+" => .ok (left + right)
  | "-" => .ok (left - right)
  | "*" => .ok (left * right)
  | "/" => if right == 0 then .error (.error .divisionByZero) else .ok (left / right)
  | "<" => truth (left < right)
  | ">" => truth (right < left)
  | "<=" => truth (left ≤ right)
  | ">=" => truth (right ≤ left)
  | "==" => truth (left == right)
  | "!=" => truth (left != right)
  | _ => .error (.fault (.unknownOperator glyph))

/-- An operation on two inputs. -/
def operation (glyph : String) (left right : Input σ) : Machine σ Value := do
  let first ← left.number glyph
  let second ← right.number glyph
  let result ← Machine.orMishap (operate glyph first second)
  return .number (← Machine.orFail (Value.finite glyph result))

/-- The value of a command, which must have one. -/
def valueOf (command : Command) (result : Option Value) : Machine σ Value :=
  match result with
  | some value => pure value
  | none => Machine.fail (.noValue command.render)

/-- The input of something that is resolved first and may then turn out to be a block. -/
def Input.of (deeper : Depth σ) (value : Machine σ Value) :
    Input σ where
  value := value
  block who := do return deeper.run (← Machine.orFail ((← value).asBlock who))

/-- The scope in which a procedure starts: its inputs and nothing else. -/
def Scope.ofInputs (parameters : List String) (values : List Value) : Scope :=
  let inputs := Bindings.ofList (parameters.zip values)
  { Scope.empty with
    bindings := .ofList (inputs.entries.map fun (name, value) => (Text.fold name, value)) }

/-- Warn that a procedure got too few inputs. -/
def warnMissing (procedure : Procedure) (missing : List String) : Machine σ Unit :=
  if missing.isEmpty then
    pure ()
  else
    Machine.print ("Warning: " ++ procedure.name ++ " got no value for " ++
      ", ".intercalate (missing.map (":" ++ ·)) ++ "\n")

/--
Call a procedure.  Its body runs in a scope of its own.  A call for a value
needs an output; any other call gives the output, or what the body gave last.
-/
def invoke (deeper : Depth σ) (procedure : Procedure)
    (values : List Value) (asExpression : Bool) : Machine σ (Option Value) := do
  warnMissing procedure (procedure.parameters.drop values.length)
  match ← Machine.inScope (.ofInputs procedure.parameters values) (deeper.run procedure.body) with
  | (.error (.signal (.output value)), _) => return some value
  | (.error (.signal .stop), inner) =>
      if asExpression then Machine.fail (.noOutput procedure.name)
      else return inner.lastResult
  | (.error exit, _) => throw exit
  | (.ok result, _) =>
      if asExpression then Machine.fail (.noOutput procedure.name)
      else return result

/-- Resolve inputs from left to right. -/
def resolveInputs : List (Input σ) → Machine σ (List Value)
  | [] => return []
  | input :: rest => do
      let value ← input.value
      return value :: (← resolveInputs rest)

mutual

/-- What a value means as an input. -/
def Value.input [Platform] [Stage σ] (deeper : Depth σ) :
    Value → Input σ
  | .block commands =>
      { value := pure (.block commands)
        block := fun _ => pure (runFrom deeper none commands) }
  | .reference name => .of deeper (Machine.lookup name)
  | .operation glyph left right =>
      .of deeper (operation glyph (left.input deeper) (right.input deeper))
  | .reporter command => .of deeper do valueOf command (← command.execute deeper)
  | .number value => .of deeper (pure (.number value))
  | .word text => .of deeper (pure (.word text))
  | .truth value => .of deeper (pure (.truth value))
  | .list items => .of deeper (pure (.list items))
  | .procedure name parameters body => .of deeper (pure (.procedure name parameters body))

/-- What values mean as inputs. -/
def inputsOf [Platform] [Stage σ] (deeper : Depth σ) :
    List Value → List (Input σ)
  | [] => []
  | value :: rest => value.input deeper :: inputsOf deeper rest

/-- What a command does. -/
def Command.execute [Platform] [Stage σ] (deeper : Depth σ) :
    Command → Machine σ (Option Value)
  | .primitive primitive inputs _ => Action.perform deeper.room primitive (inputsOf deeper inputs)
  | .define name parameters body _ => do
      Machine.define ⟨name, parameters, body⟩
      return none
  | .call name inputs asExpression _ => do
      let procedure ← Machine.findProcedure name
      let values ← resolveInputs (inputsOf deeper inputs)
      invoke deeper procedure values asExpression

/--
What commands in a row do.  The result is that of the last one, or the result
of what ran before if there are none.
-/
def runFrom [Platform] [Stage σ] (deeper : Depth σ)
    (previous : Option Value) : List Command → Machine σ (Option Value)
  | [] => return previous
  | command :: rest => do
      let result ← command.execute deeper
      Machine.remember result
      runFrom deeper result rest

end

/-- Run the body of a procedure when `calls` more calls may be inside each other. -/
def enter [Platform] [Stage σ] : Nat → List Command → Machine σ (Option Value)
  | 0, _ => Machine.crash .tooManyCalls
  | calls + 1, commands => runFrom ⟨calls, enter calls⟩ none commands

/-- Where `calls` more calls may be inside each other. -/
def Depth.within [Platform] [Stage σ] (calls : Nat) : Depth σ :=
  ⟨calls, enter calls⟩

/-- Run a command of a program. -/
def Command.run [Platform] [Stage σ] (command : Command) : Machine σ (Option Value) :=
  command.execute (.within Platform.calls)

/-- Resolve a value. -/
def Value.resolve [Platform] [Stage σ] (value : Value) : Machine σ Value :=
  (value.input (.within Platform.calls)).value

/-- Turn an output that no procedure takes into an error. -/
def refuseOutput : Exit → Exit
  | .signal (.output _) => .mishap (.error .strayOutput)
  | exit => exit

/-- Run a whole program without pause. -/
def Program.run [Platform] [Stage σ] (program : Program) : Machine σ (Option Value) :=
  tryCatch (runFrom (.within Platform.calls) none program.commands) fun exit =>
    throw (refuseOutput exit)

end Logo
