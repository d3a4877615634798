import Logo.Proofs.Machine.Alike
import Logo.Proofs.Machine.Bindings
import Logo.Proofs.Machine.Calls

/-!
# How far a recursion gets

A procedure that calls itself without end runs out of the stack.  How far it
gets by then also depends on the stage: where it takes room to ask for
something, a procedure that asks in every call cannot do so in the last ones.
So what it prints tells how much room the stage takes.
-/

namespace Logo

variable {σ : Type} [Stage σ]

/-! ## Commands one by one -/

/-- What the turtle is told is done by its studio, and nothing else changes. -/
theorem run_tell_ok {room : Nat} {deed : Deed} {state : State σ} {studio : Studio σ}
    (performed : (Studio.perform room deed).run state.world.studio = (.ok (), studio)) :
    (Machine.tell room deed).run state = (.ok (), ⟨{ state.world with studio }, state.scope⟩) := by
  simp only [Machine.tell, ExceptT.run] at performed ⊢
  rw [performed]

theorem run_tell_error {room : Nat} {deed : Deed} {state : State σ} {studio : Studio σ}
    {mishap : Mishap}
    (performed : (Studio.perform room deed).run state.world.studio = (.error mishap, studio)) :
    (Machine.tell room deed).run state =
      (.error (.mishap mishap), ⟨{ state.world with studio }, state.scope⟩) := by
  simp only [Machine.tell, ExceptT.run] at performed ⊢
  rw [performed]

variable [Platform]

/-- Typing a word adds it to the output. -/
theorem run_emit (deeper : Depth σ) (text : String) (origin : Origin) (state : State σ) :
    ((Command.primitive .emit [.word text] origin).execute deeper).run state =
      (.ok none, ⟨{ state.world with output := state.world.output ++ text }, state.scope⟩) := by
  have within : (Value.word text).isWithin deeper.room = true := by
    cases deeper.room <;> rfl
  have written : (Input.write deeper.room .printed (.word text)).run state = (.ok text, state) := by
    rw [Input.write, if_pos within]
    rfl
  have typed : (Action.quietly do
      Machine.print
        (← Input.text deeper.room .printed (.of deeper (pure (.word text))))).run state =
      (.ok none, ⟨{ state.world with output := state.world.output ++ text }, state.scope⟩) := by
    have read : (Input.text deeper.room .printed (.of deeper (pure (.word text)))).run state =
        (.ok text, state) := written
    rw [Action.quietly, bind_assoc, Effectful.run_bind_ok read]
    rfl
  rw [Command.execute, inputsOf, inputsOf, Value.input]
  exact typed

/-- A command that ends well is followed by the rest. -/
theorem run_runFrom_ok {deeper : Depth σ} {previous result : Option Value} {command : Command}
    {state after : State σ} (ran : (command.execute deeper).run state = (.ok result, after))
    (rest : List Command) :
    (runFrom deeper previous (command :: rest)).run state =
      (runFrom deeper result rest).run
        ⟨after.world, { after.scope with lastResult := result }⟩ := by
  rw [runFrom, Effectful.run_bind_ok ran]
  rfl

/-- A command that ends in an exit is the last one. -/
theorem run_runFrom_error {deeper : Depth σ} {previous : Option Value} {command : Command}
    {state after : State σ} {exit : Exit}
    (ran : (command.execute deeper).run state = (.error exit, after)) (rest : List Command) :
    (runFrom deeper previous (command :: rest)).run state = (.error exit, after) := by
  rw [runFrom, Effectful.run_bind_error ran]

/-- A mishap in the body of a procedure is one of the call. -/
theorem run_call_mishap {deeper : Depth σ} {name : String} {origin : Origin}
    {world after : World σ} {scope inner : Scope} {mishap : Mishap} {procedure : Procedure}
    (found : world.procedures.find? (Text.fold name) = some procedure)
    (plain : procedure.parameters = [])
    (ran : (deeper.run procedure.body).run ⟨world, .ofInputs [] []⟩ =
      (.error (.mishap mishap), ⟨after, inner⟩)) :
    ((Command.call name [] false origin).execute deeper).run ⟨world, scope⟩ =
      (.error (.mishap mishap), ⟨after, scope⟩) := by
  have finds : (Machine.findProcedure name).run ⟨world, scope⟩ =
      (.ok procedure, ⟨world, scope⟩) := by
    rw [run_findProcedure, found]
  have inside : (Machine.inScope (.ofInputs [] []) (deeper.run procedure.body)).run
      ⟨world, scope⟩ = (.ok (.error (.mishap mishap), inner), ⟨after, scope⟩) := by
    simp only [Machine.inScope, ExceptT.run] at ran ⊢
    rw [ran]
  rw [Command.execute, Effectful.run_bind_ok finds]
  have called : (invoke deeper procedure [] false).run ⟨world, scope⟩ =
      (.error (.mishap mishap), ⟨after, scope⟩) := by
    rw [invoke, plain]
    have unwarned : (warnMissing procedure ([] : List String)).run ⟨world, scope⟩ =
        (.ok (), ⟨world, scope⟩) := rfl
    rw [List.drop_nil, Effectful.run_bind_ok unwarned, Effectful.run_bind_ok inside]
    rfl
  exact called

/-! ## A procedure that draws in every call -/

/-- Clean the picture, print a letter and begin again. -/
def spin : Procedure :=
  ⟨"SPIN", [], [.primitive .clean [] ⟨0, 8, 13⟩, .primitive .emit [.word "x"] ⟨0, 14, 18⟩,
    .call "SPIN" [] false ⟨0, 22, 26⟩]⟩

/-- Begin to spin while a pause of one second is on. -/
def pauseAndSpin : Procedure :=
  ⟨"GO", [], [.primitive .wait [.number 60] ⟨0, 37, 41⟩, .call "SPIN" [] false ⟨0, 45, 49⟩]⟩

/-- Stages of a kind: they take so much room, and let a turtle at home pause and clean. -/
structure Stage.LetsClean (kind : σ → Prop) (needed : Nat) : Prop where
  room {stage : σ} (member : kind stage) : Stage.room stage = needed
  repaint {stage : σ} (member : kind stage) :
    ∃ after, (Stage.request (.repaint .initial)).run stage = (.ok (), after) ∧ kind after
  wait {stage : σ} (member : kind stage) :
    ∃ after, (Stage.request (.wait (60 * 1000 / 60))).run stage = (.ok (), after) ∧ kind after

/-- A state from which to spin, on a stage of a kind. -/
structure State.Spins (kind : σ → Prop) (state : State σ) : Prop where
  turtle : state.world.studio.turtle = .initial
  stage : kind state.world.studio.stage
  known : state.world.procedures.find? (Text.fold "SPIN") = some spin

variable {kind : σ → Prop} {needed : Nat} {state : State σ}

/-- With enough room the picture is cleaned, and nothing but the stage changes. -/
theorem State.Spins.run_clean (spins : state.Spins kind) (stages : Stage.LetsClean kind needed)
    {deeper : Depth σ} (enough : needed ≤ deeper.room) (origin : Origin) :
    ∃ after, ((Command.primitive .clean [] origin).execute deeper).run state =
        (.ok none, after) ∧
      after.Spins kind ∧ after.world.output = state.world.output := by
  obtain ⟨⟨⟨turtle, speed, stage⟩, output, procedures, draws⟩, scope⟩ := state
  obtain ⟨rfl, member, known⟩ := spins
  obtain ⟨after, asked, memberAfter⟩ := stages.repaint member
  have cleaned : (Studio.perform deeper.room .clean).run ⟨.initial, speed, stage⟩ =
      (.ok (), ⟨.initial, speed, after⟩) := by
    have room : Stage.room (⟨.initial, speed, stage⟩ : Studio σ).stage ≤ deeper.room :=
      (stages.room member).symm ▸ enough
    rw [Studio.perform, Studio.clean, Effectful.run_bind, Effectful.run_get]
    dsimp only
    rw [Studio.run_ask _ room, asked]
  exact ⟨_, Effectful.run_bind_ok (run_tell_ok cleaned), ⟨rfl, memberAfter, known⟩, rfl⟩

/-- With enough room a pause can be asked for, and nothing is printed. -/
theorem State.Spins.run_wait (spins : state.Spins kind) (stages : Stage.LetsClean kind needed)
    {deeper : Depth σ} (enough : needed ≤ deeper.room) (origin : Origin) :
    ∃ after, ((Command.primitive .wait [.number 60] origin).execute deeper).run state =
        (.ok none, after) ∧
      after.Spins kind ∧ after.world.output = state.world.output := by
  obtain ⟨⟨⟨turtle, speed, stage⟩, output, procedures, draws⟩, scope⟩ := state
  obtain ⟨rfl, member, known⟩ := spins
  obtain ⟨after, asked, memberAfter⟩ := stages.wait member
  have waits : (Studio.perform deeper.room (.wait (60 * 1000 / 60))).run
      ⟨.initial, speed, stage⟩ = (.ok (), ⟨.initial, speed, after⟩) := by
    have room : Stage.room (⟨.initial, speed, stage⟩ : Studio σ).stage ≤ deeper.room :=
      (stages.room member).symm ▸ enough
    rw [Studio.perform, Studio.run_ask _ room, asked]
  rw [Command.execute, inputsOf, inputsOf, Value.input]
  exact ⟨_, Effectful.run_bind_ok (run_tell_ok waits), ⟨rfl, memberAfter, known⟩, rfl⟩

/-- Without enough room the picture cannot be cleaned, and nothing changes. -/
theorem State.Spins.run_clean_short (spins : state.Spins kind)
    (stages : Stage.LetsClean kind needed) {deeper : Depth σ} (short : ¬needed ≤ deeper.room)
    (origin : Origin) :
    ((Command.primitive .clean [] origin).execute deeper).run state =
      (.error (.mishap (.fault .tooManyCalls)), state) := by
  obtain ⟨⟨⟨turtle, speed, stage⟩, output, procedures, draws⟩, scope⟩ := state
  obtain ⟨rfl, member, known⟩ := spins
  have refused : (Studio.perform deeper.room .clean).run ⟨.initial, speed, stage⟩ =
      (.error (.fault .tooManyCalls), ⟨.initial, speed, stage⟩) := by
    have room : ¬Stage.room (⟨.initial, speed, stage⟩ : Studio σ).stage ≤ deeper.room :=
      (stages.room member).symm ▸ short
    rw [Studio.perform, Studio.clean, Effectful.run_bind, Effectful.run_get]
    dsimp only
    rw [Studio.run_ask_short _ room]
  exact Effectful.run_bind_error (run_tell_error refused)

/--
Every call cleans the picture and prints a letter before the next one, except
for the last ones, which have no room to clean it.
-/
theorem State.Spins.run_enter (spins : state.Spins kind) (stages : Stage.LetsClean kind needed)
    (calls : Nat) :
    ∃ after, (enter calls spin.body).run state =
        (.error (.mishap (.fault .tooManyCalls)), after) ∧
      kind after.world.studio.stage ∧
      after.world.output =
        state.world.output ++ String.ofList (List.replicate (calls - needed) 'x') := by
  induction calls generalizing state with
  | zero => exact ⟨state, rfl, spins.stage, by simp⟩
  | succ calls hypothesis =>
      by_cases enough : needed ≤ calls
      case neg =>
        have none : calls + 1 - needed = 0 := by omega
        rw [none]
        exact ⟨state, run_runFrom_error (spins.run_clean_short stages enough _) _, spins.stage,
          by simp⟩
      have room : needed ≤ (⟨calls, enter calls⟩ : Depth σ).room := enough
      obtain ⟨cleaned, ran, spinsOn, silent⟩ := spins.run_clean stages room ⟨0, 8, 13⟩
      let printed : World σ := { cleaned.world with output := cleaned.world.output ++ "x" }
      have again : State.Spins kind ⟨printed, .ofInputs [] []⟩ :=
        ⟨spinsOn.turtle, spinsOn.stage, spinsOn.known⟩
      obtain ⟨⟨final, inner⟩, entered, stage, text⟩ := hypothesis again
      have spun : ((⟨calls, enter calls⟩ : Depth σ).run spin.body).run ⟨printed, .ofInputs [] []⟩ =
          (.error (.mishap (.fault .tooManyCalls)), ⟨final, inner⟩) := entered
      obtain ⟨scope, ended⟩ : ∃ scope, (enter (calls + 1) spin.body).run state =
          (.error (.mishap (.fault .tooManyCalls)), ⟨final, scope⟩) := by
        have body : spin.body = [.primitive .clean [] ⟨0, 8, 13⟩,
            .primitive .emit [.word "x"] ⟨0, 14, 18⟩, .call "SPIN" [] false ⟨0, 22, 26⟩] := rfl
        rw [enter, body, run_runFrom_ok ran, run_runFrom_ok (run_emit _ "x" _ _)]
        exact ⟨_, run_runFrom_error (run_call_mishap again.known rfl spun) _⟩
      refine ⟨_, ended, stage, ?_⟩
      have more : calls + 1 - needed = calls - needed + 1 := by omega
      have begun : printed.output = state.world.output ++ "x" := congrArg (· ++ "x") silent
      rw [text, begun, more, List.replicate_succ]
      exact String.toList_injective (by simp)

/-- The same with a call around it, which pauses first. -/
theorem State.Spins.run_pauseAndSpin (spins : state.Spins kind)
    (stages : Stage.LetsClean kind needed)
    (known : state.world.procedures.find? (Text.fold "GO") = some pauseAndSpin) {calls : Nat}
    (enough : needed ≤ calls) (origin : Origin) :
    ∃ after, ((Command.call "GO" [] false origin).execute (.within (calls + 1))).run state =
        (.error (.mishap (.fault .tooManyCalls)), after) ∧
      kind after.world.studio.stage ∧
      after.world.output =
        state.world.output ++ String.ofList (List.replicate (calls - needed) 'x') := by
  obtain ⟨world, scope⟩ := state
  have room : needed ≤ (⟨calls, enter calls⟩ : Depth σ).room := enough
  have fresh : State.Spins kind ⟨world, .ofInputs [] []⟩ := ⟨spins.turtle, spins.stage, spins.known⟩
  obtain ⟨waiting, waits, spinsOn, silent⟩ := fresh.run_wait stages room ⟨0, 37, 41⟩
  have again : State.Spins kind ⟨waiting.world, .ofInputs [] []⟩ :=
    ⟨spinsOn.turtle, spinsOn.stage, spinsOn.known⟩
  obtain ⟨⟨final, inner⟩, entered, stage, text⟩ := again.run_enter stages calls
  have spun : ((⟨calls, enter calls⟩ : Depth σ).run spin.body).run
      ⟨waiting.world, .ofInputs [] []⟩ =
        (.error (.mishap (.fault .tooManyCalls)), ⟨final, inner⟩) := entered
  obtain ⟨last, ended⟩ : ∃ last, ((Depth.within (calls + 1)).run pauseAndSpin.body).run
      ⟨world, .ofInputs [] []⟩ = (.error (.mishap (.fault .tooManyCalls)), ⟨final, last⟩) := by
    have body : (Depth.within (calls + 1) : Depth σ).run pauseAndSpin.body =
        runFrom ⟨calls, enter calls⟩ none
          [.primitive .wait [.number 60] ⟨0, 37, 41⟩, .call "SPIN" [] false ⟨0, 45, 49⟩] := rfl
    rw [body, run_runFrom_ok waits]
    exact ⟨_, run_runFrom_error (run_call_mishap again.known rfl spun) _⟩
  refine ⟨_, run_call_mishap known rfl ended, stage, ?_⟩
  rw [text, silent]

end Logo
