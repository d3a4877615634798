import Logo.Program
import Logo.Text.CaseFold

/-!
# Calls and definitions

Running a program is forgiving: a call is looked at only when it happens, and
inputs that are too many are ignored.  This module looks at every call in a
program, also where it may never run, and holds it against the definitions.
A call is bad if no procedure of its name is defined anywhere, or if the last
definition takes another number of inputs.
-/

namespace Logo

/-- A call of a procedure: the name as written, how many inputs it is given, and where. -/
structure Call where
  name : String
  inputs : Nat
  origin : Origin
deriving DecidableEq, Repr

/-- A definition: the folded name and how many inputs the procedure takes. -/
structure Definition where
  key : String
  inputs : Nat
deriving DecidableEq, Repr

mutual

/-- The calls in a value, in the order in which they are written.  Plain data holds none. -/
def Value.calls : Value → List Call
  | .block commands => callsOf commands
  | .operation _ left right => left.calls ++ right.calls
  | .reporter command => command.calls
  | .number _ | .word _ | .truth _ | .list _ | .reference _ | .procedure _ _ _ => []

/-- The calls in some values. -/
def callsIn : List Value → List Call
  | [] => []
  | value :: rest => value.calls ++ callsIn rest

/-- The calls in a command: itself first, if it is one, and then those in its inputs. -/
def Command.calls : Command → List Call
  | .primitive _ inputs _ => callsIn inputs
  | .define _ _ body _ => callsOf body
  | .call name inputs _ origin => ⟨name, inputs.length, origin⟩ :: callsIn inputs

/-- The calls in some commands. -/
def callsOf : List Command → List Call
  | [] => []
  | command :: rest => command.calls ++ callsOf rest

end

mutual

/-- The definitions in a value. -/
def Value.definitions : Value → List Definition
  | .block commands => definitionsOf commands
  | .operation _ left right => left.definitions ++ right.definitions
  | .reporter command => command.definitions
  | .number _ | .word _ | .truth _ | .list _ | .reference _ | .procedure _ _ _ => []

/-- The definitions in some values. -/
def definitionsIn : List Value → List Definition
  | [] => []
  | value :: rest => value.definitions ++ definitionsIn rest

/-- The definitions in a command: itself first, if it is one. -/
def Command.definitions : Command → List Definition
  | .primitive _ inputs _ => definitionsIn inputs
  | .define name parameters body _ =>
      ⟨Text.fold name, parameters.length⟩ :: definitionsOf body
  | .call _ inputs _ _ => definitionsIn inputs

/-- The definitions in some commands. -/
def definitionsOf : List Command → List Definition
  | [] => []
  | command :: rest => command.definitions ++ definitionsOf rest

end

/-- What is wrong with a call. -/
inductive CallFlaw where
  | undefined
  | takes (inputs : Nat)
deriving DecidableEq, Repr

/-- The last definition of a name. -/
def lastDefinition? (definitions : List Definition) (name : String) : Option Definition :=
  definitions.reverse.find? fun definition => definition.key == Text.fold name

/-- What is wrong with a call in the light of some definitions. -/
def Call.flaw? (definitions : List Definition) (call : Call) : Option CallFlaw :=
  match lastDefinition? definitions call.name with
  | none => some .undefined
  | some definition =>
      if call.inputs == definition.inputs then none else some (.takes definition.inputs)

/-- The bad calls of a program, in the order in which they are written. -/
def Program.badCalls (program : Program) : List (Call × CallFlaw) :=
  let definitions := definitionsOf program.commands
  (callsOf program.commands).filterMap fun call =>
    (call.flaw? definitions).map fun flaw => (call, flaw)

end Logo
