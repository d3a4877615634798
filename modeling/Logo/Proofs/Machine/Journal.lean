import Logo.Proofs.Machine.Independence

/-!
# The journal of a run

Which commands a program comes to, and in which state, cannot be told from how
the program ends.  So a journal is kept of a run.  Every command is entered
before it does anything, whether it stands as a statement or as an input, with
the state that it finds and the scopes of the calls that wait outside.

A tracker says what happens beside the run: when a command begins, and around
the body of a procedure.  Running under a tracker is defined like running
without one.  The tracker that does nothing leaves the meaning of a program as
it is, and a program that is run with a journal does exactly what it does
without.
-/

namespace Logo

variable {σ : Type}

/-- What happens beside a run: before each command, and around the body of each procedure. -/
structure Tracker (σ : Type) where
  note : Command → Machine σ Unit
  within : Scope → Machine σ (Option Value) → Machine σ (Except Exit (Option Value) × Scope)

namespace Tracker

/-- Call a procedure under a tracker. -/
def invoke (tracker : Tracker σ) (deeper : Depth σ) (procedure : Procedure)
    (values : List Value) (asExpression : Bool) : Machine σ (Option Value) := do
  warnMissing procedure (procedure.parameters.drop values.length)
  settle procedure asExpression
    (← tracker.within (.ofInputs procedure.parameters values) (deeper.run procedure.body))

variable [Platform] [Stage σ]

mutual

/-- What a value means as an input, under a tracker. -/
def input (tracker : Tracker σ) (deeper : Depth σ) : Value → Input σ
  | .block commands =>
      { value := pure (.block commands)
        block := fun _ => pure (tracker.runFrom deeper none commands) }
  | .reference name => .of deeper (Machine.lookup name)
  | .operation glyph left right =>
      .of deeper (operation glyph (tracker.input deeper left) (tracker.input deeper right))
  | .reporter command => .of deeper do valueOf command (← tracker.execute deeper command)
  | .number value => .of deeper (pure (.number value))
  | .word text => .of deeper (pure (.word text))
  | .truth value => .of deeper (pure (.truth value))
  | .list items => .of deeper (pure (.list items))
  | .procedure name parameters body => .of deeper (pure (.procedure name parameters body))

/-- What values mean as inputs, under a tracker. -/
def inputs (tracker : Tracker σ) (deeper : Depth σ) : List Value → List (Input σ)
  | [] => []
  | value :: rest => tracker.input deeper value :: tracker.inputs deeper rest

/-- What a command does, under a tracker. -/
def execute (tracker : Tracker σ) (deeper : Depth σ) : Command → Machine σ (Option Value)
  | .primitive primitive inputs origin => do
      tracker.note (.primitive primitive inputs origin)
      Action.perform deeper.room primitive (tracker.inputs deeper inputs)
  | .define name parameters body origin => do
      tracker.note (.define name parameters body origin)
      Machine.define ⟨name, parameters, body⟩
      return none
  | .call name inputs asExpression origin => do
      tracker.note (.call name inputs asExpression origin)
      let procedure ← Machine.findProcedure name
      let values ← resolveInputs (tracker.inputs deeper inputs)
      tracker.invoke deeper procedure values asExpression

/-- What commands in a row do, under a tracker. -/
def runFrom (tracker : Tracker σ) (deeper : Depth σ) (previous : Option Value) :
    List Command → Machine σ (Option Value)
  | [] => return previous
  | command :: rest => do
      let result ← tracker.execute deeper command
      Machine.remember result
      tracker.runFrom deeper result rest

end

/-- Run the body of a procedure under a tracker. -/
def enter (tracker : Tracker σ) : Nat → List Command → Machine σ (Option Value)
  | 0, _ => Machine.crash .tooManyCalls
  | calls + 1, commands => tracker.runFrom ⟨calls, tracker.enter calls⟩ none commands

/-- Where `calls` more calls may be inside each other under a tracker. -/
def depth (tracker : Tracker σ) (calls : Nat) : Depth σ :=
  ⟨calls, tracker.enter calls⟩

/-- Run a whole program under a tracker. -/
def run (tracker : Tracker σ) (program : Program) : Machine σ (Option Value) :=
  tryCatch (tracker.runFrom (tracker.depth Platform.calls) none program.commands) fun exit =>
    throw (refuseOutput exit)

/-! ## The tracker that does nothing -/

/-- Nothing happens beside the run. -/
def idle : Tracker σ where
  note _ := pure ()
  within := Machine.inScope

mutual

/-- A tracker that notes nothing gives values their plain meaning. -/
theorem idle_input (deeper : Depth σ) :
    ∀ value : Value, idle.input deeper value = value.input deeper
  | .block commands => by
      rw [input, Value.input]
      simp only [idle_runFrom deeper none commands]
  | .operation glyph left right => by
      rw [input, Value.input, idle_input deeper left, idle_input deeper right]
  | .reporter command => by rw [input, Value.input, idle_execute deeper command]
  | .reference _ | .number _ | .word _ | .truth _ | .list _ | .procedure _ _ _ => by
      rw [input, Value.input]

theorem idle_inputs (deeper : Depth σ) :
    ∀ values : List Value, idle.inputs deeper values = inputsOf deeper values
  | [] => by rw [inputs, inputsOf]
  | value :: rest => by
      rw [inputs, inputsOf, idle_input deeper value, idle_inputs deeper rest]

/-- Under the tracker that does nothing, a command does what it does. -/
theorem idle_execute (deeper : Depth σ) :
    ∀ command : Command, idle.execute deeper command = command.execute deeper
  | .primitive primitive inputs origin => by
      rw [execute, Command.execute, idle_inputs deeper inputs]
      exact pure_bind _ _
  | .define name parameters body origin => by
      rw [execute, Command.execute]
      exact pure_bind _ _
  | .call name inputs asExpression origin => by
      rw [execute, Command.execute, idle_inputs deeper inputs]
      exact pure_bind _ _

/-- A tracker that notes nothing runs commands as they are. -/
theorem idle_runFrom (deeper : Depth σ) (previous : Option Value) :
    ∀ commands : List Command,
      idle.runFrom deeper previous commands = Logo.runFrom deeper previous commands
  | [] => by rw [runFrom, Logo.runFrom]
  | command :: rest => by
      rw [runFrom, Logo.runFrom, idle_execute deeper command]
      refine bind_congr fun result => bind_congr fun _ => ?_
      exact idle_runFrom deeper result rest

end

end Tracker

/-! ## The tracker that keeps a journal -/

/-- A command about to be run, the state it finds, and the scopes outside, innermost first. -/
structure Moment (σ : Type) where
  command : Command
  state : State σ
  callers : List Scope

/-- A stage with the scopes of the calls that wait, and with a journal, latest entry first. -/
structure Noted (σ : Type) where
  stage : σ
  callers : List Scope
  journal : List (Moment σ)

/-- Requests go to the stage and leave the rest alone. -/
instance [Stage σ] : Stage (Noted σ) where
  request request := fun noted =>
    match (Stage.request request).run noted.stage with
    | (result, stage) => (result, { noted with stage })
  room noted := Stage.room noted.stage

namespace State

/-- A state without its journal. -/
def bare (state : State (Noted σ)) : State σ :=
  ⟨⟨⟨state.world.studio.turtle, state.world.studio.speed, state.world.studio.stage.stage⟩,
    state.world.output, state.world.procedures, state.world.draws⟩, state.scope⟩

/-- A state with an empty journal. -/
def noted (state : State σ) : State (Noted σ) :=
  ⟨⟨⟨state.world.studio.turtle, state.world.studio.speed, ⟨state.world.studio.stage, [], []⟩⟩,
    state.world.output, state.world.procedures, state.world.draws⟩, state.scope⟩

/-- The journal of a state. -/
def journal (state : State (Noted σ)) : List (Moment σ) :=
  state.world.studio.stage.journal

/-- The scopes of the calls that wait, innermost first. -/
def callers (state : State (Noted σ)) : List Scope :=
  state.world.studio.stage.callers

/-- A state with another journal and other calls that wait. -/
def annotated (callers : List Scope) (journal : List (Moment σ)) (state : State (Noted σ)) :
    State (Noted σ) :=
  { state with
    world :=
      { state.world with
        studio :=
          { state.world.studio with
            stage := ⟨state.world.studio.stage.stage, callers, journal⟩ } } }

/-- A state with a command entered in its journal. -/
def entered (command : Command) (state : State (Noted σ)) : State (Noted σ) :=
  state.annotated state.callers (⟨command, state.bare, state.callers⟩ :: state.journal)

/-- A state from which a call is about to be made. -/
def calling (state : State (Noted σ)) : State (Noted σ) :=
  state.annotated (state.scope :: state.callers) state.journal

/-- A state to which a call has come back. -/
def returned (state : State (Noted σ)) : State (Noted σ) :=
  state.annotated state.callers.tail state.journal

end State

/-- Enter every command in the journal. -/
def Tracker.journal : Tracker (Noted σ) where
  note command := modify (State.entered command)
  within inner action := do
    modify State.calling
    let ended ← Machine.inScope inner action
    modify State.returned
    return ended

/-! ## A journal changes nothing -/

/-- A noted machine is tied to the machine without a journal: their stages are the same. -/
def Tie.unnoted : Tie (Noted σ) σ where
  backdrop speed noted speed' stage := speed = speed' ∧ noted.stage = stage
  before := ""
  excused _ := False

theorem Tie.unnoted_respected [Stage σ] : (Tie.unnoted (σ := σ)).Respected := by
  constructor
  · rintro speed speed' request noted stage ⟨rfl, rfl⟩
    exact Or.inr ⟨.of_eq _, rfl, rfl⟩
  · rintro speed speed' noted stage ⟨-, rfl⟩
    exact Or.inl rfl

/-- States that are alike are the same but for the journal. -/
theorem Tie.unnoted_iff {state : State (Noted σ)} {state' : State σ} :
    (Tie.unnoted.machines Eq).alike state state' ↔ state.bare = state' := by
  constructor
  · rintro ⟨turtle, ⟨speed, stage⟩, output, procedures, draws, bindings, round, lastResult⟩
    have studio : state.bare.world.studio = state'.world.studio := Studio.ext turtle speed stage
    exact State.ext
      (World.ext studio (output.trans String.empty_append) procedures draws)
      (Scope.ext bindings lastResult round)
  · rintro rfl
    exact ⟨rfl, ⟨rfl, rfl⟩, (String.empty_append).symm, rfl, rfl, rfl, rfl, rfl⟩

/-- What happens only beside the left program, and keeps states alike, does not matter. -/
theorem Agrees.beside {ε state state' α β : Type} {accord : Accord ε state state'}
    {values : α → β → Prop} {left : Effectful ε state α} {right : Effectful ε state' β}
    {change : state → state}
    (keeps : ∀ before before', accord.alike before before' →
      accord.alike (change before) before')
    (agrees : Agrees accord values left right) :
    Agrees accord values (do modify change; left) right := by
  intro before before' alike
  exact agrees (change before) before' (keeps before before' alike)

section

variable {results : Option Value → Option Value → Prop}

theorem Tie.unnoted_annotated {callers : State (Noted σ) → List Scope}
    {journal : State (Noted σ) → List (Moment σ)} (before : State (Noted σ)) (before' : State σ)
    (alike : (Tie.unnoted.machines results).alike before before') :
    (Tie.unnoted.machines results).alike
      (before.annotated (callers before) (journal before)) before' :=
  ⟨alike.turtle, alike.backdrop, alike.output, alike.procedures, alike.draws, alike.bindings,
    alike.round, alike.lastResult⟩

variable {deeper : Depth (Noted σ)} {deeper' : Depth σ}

/-- A call in a journal agrees with the call. -/
theorem Tracker.journal_invoke_agrees (depths : Depth.Agree Tie.unnoted deeper deeper')
    (procedure : Procedure) (values : List Value) (asExpression : Bool) :
    Agrees (Tie.unnoted.machines results) Eq
      (Tracker.journal.invoke deeper procedure values asExpression)
      (Logo.invoke deeper' procedure values asExpression) := by
  apply (warnMissing_agrees _ _).andThen
  intro _
  simp only [journal, bind_assoc, pure_bind]
  apply Agrees.beside Tie.unnoted_annotated
  apply Machine.inScope_agrees _ (depths.run Eq (fun _ => rfl) procedure.body)
  · rintro _ scope before ⟨_, never, -⟩
    exact never.elim
  · intro result scope scope' sameResult
    exact Agrees.beside Tie.unnoted_annotated
      (settle_agrees procedure asExpression result sameResult)

/-- Entering a command in the journal first changes nothing in what agrees. -/
theorem Tracker.journal_note_agrees {command : Command} {left : Machine (Noted σ) (Option Value)}
    {right : Machine σ (Option Value)}
    (agrees : Agrees (Tie.unnoted.machines results) Eq left right) :
    Agrees (Tie.unnoted.machines results) Eq
      (do Tracker.journal.note command; left) right :=
  .beside Tie.unnoted_annotated agrees

variable [Platform] [Stage σ]

namespace Tracker

mutual

theorem journal_input_agree (reflexive : ∀ result, results result result)
    (depths : Depth.Agree Tie.unnoted deeper deeper') :
    ∀ value : Value,
      Input.Agree Tie.unnoted results (journal.input deeper value) (value.input deeper')
  | .block commands =>
      { value := .value rfl
        block := fun _ => .value (journal_runFrom_agrees reflexive depths none commands) }
  | .reference name => Input.of_agree (depths.run results reflexive) (Machine.lookup_agrees name)
  | .operation glyph left right =>
      Input.of_agree (depths.run results reflexive) <|
        operation_agrees glyph (journal_input_agree reflexive depths left)
          (journal_input_agree reflexive depths right)
  | .reporter command =>
      Input.of_agree (depths.run results reflexive) <|
        (journal_execute_agrees reflexive depths command).andThen fun result =>
          valueOf_agrees command result
  | .number _ | .word _ | .truth _ | .list _ | .procedure _ _ _ =>
      Input.of_agree (depths.run results reflexive) (.value rfl)

theorem journal_inputs_agree (reflexive : ∀ result, results result result)
    (depths : Depth.Agree Tie.unnoted deeper deeper') :
    ∀ values : List Value,
      List.Forall₂ (Input.Agree Tie.unnoted results) (journal.inputs deeper values)
        (inputsOf deeper' values)
  | [] => .nil
  | value :: rest =>
      .cons (journal_input_agree reflexive depths value)
        (journal_inputs_agree reflexive depths rest)

/-- With a journal, a command does what it does without. -/
theorem journal_execute_agrees (reflexive : ∀ result, results result result)
    (depths : Depth.Agree Tie.unnoted deeper deeper') :
    ∀ command : Command,
      Agrees (Tie.unnoted.machines results) Eq (journal.execute deeper command)
        (command.execute deeper')
  | .primitive primitive inputs _ =>
      journal_note_agrees <|
        Action.perform_agrees Tie.unnoted_respected depths.room primitive
          (journal_inputs_agree reflexive depths inputs)
  | .define _ _ _ _ =>
      journal_note_agrees <| (Machine.define_agrees _).andThen fun _ => .value rfl
  | .call name inputs asExpression _ =>
      journal_note_agrees <| (Machine.findProcedure_agrees name).andThen fun procedure =>
        (resolveInputs_agrees (journal_inputs_agree reflexive depths inputs)).andThen
          fun values => journal_invoke_agrees depths procedure values asExpression

/-- Commands with a journal do what they do without one. -/
theorem journal_runFrom_agrees (reflexive : ∀ result, results result result)
    (depths : Depth.Agree Tie.unnoted deeper deeper') (previous : Option Value) :
    ∀ commands : List Command,
      Agrees (Tie.unnoted.machines results) Eq
        (journal.runFrom deeper previous commands) (Logo.runFrom deeper' previous commands)
  | [] => .value rfl
  | command :: rest =>
      (journal_execute_agrees reflexive depths command).andThen fun result =>
        (Machine.remember_agrees reflexive result).andThen fun _ =>
          journal_runFrom_agrees reflexive depths result rest

end

theorem journal_depth_agree (calls : Nat) :
    Depth.Agree (Tie.unnoted (σ := σ)) (journal.depth calls) (.within calls) := by
  refine ⟨Or.inl rfl, ?_⟩
  induction calls with
  | zero =>
      intro results reflexive body
      exact Machine.crash_agrees _
  | succ calls induction =>
      intro results reflexive body
      exact journal_runFrom_agrees reflexive ⟨Or.inl rfl, induction⟩ none body

/-- With a journal, a program does what it does without. -/
theorem journal_run_agrees (program : Program) :
    Agrees (Tie.unnoted.machines Eq) Eq (journal.run program) (program.run : Machine σ _) := by
  apply (journal_runFrom_agrees (fun _ => rfl) (journal_depth_agree Platform.calls) none _).handled
  · intro exit
    exact .exit _
  · rintro exit before ⟨_, never, -⟩
    exact never.elim

end Tracker

end

/-- What agrees on machines with and without a journal does the same, the journal apart. -/
theorem Agrees.run_bare {α : Type} {left : Machine (Noted σ) α} {right : Machine σ α}
    (agrees : Agrees (Tie.unnoted.machines Eq) Eq left right) (state : State (Noted σ)) :
    right.run state.bare = ((left.run state).1, (left.run state).2.bare) := by
  have tied := Tie.unnoted_iff.mpr (rfl : state.bare = state.bare)
  rcases agrees state state.bare tied with ⟨_, ⟨_, never, _⟩, _⟩ | ⟨same, alike⟩
  · exact never.elim
  · exact Prod.ext same.eq.symm (Tie.unnoted_iff.mp alike).symm

end Logo
