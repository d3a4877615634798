import Logo.Calls
import Logo.Proofs.Machine.Correspondence
import Logo.Proofs.Machine.Signals

/-!
# What calls see and touch

A procedure runs in a scope of its own, and the scope of the caller is out of
its reach in both directions.  What a call does depends on the world and on
its inputs, and on nothing in the scope from which it is made.  And however a
call ends, or however resolving an expression ends, the scope outside is as it
was: its variables, its round and its last result.

The first of these holds of all calls.  The second needs the trees that can be
read, in which only reporters stand in value position.  A tree made by hand
could have an assignment there.
-/

namespace Logo

variable {σ : Type}

/-- Looking for a procedure changes nothing. -/
theorem run_findProcedure (name : String) (state : State σ) :
    (Machine.findProcedure name).run state =
      (match state.world.procedures.find? (Text.fold name) with
        | some procedure => .ok procedure
        | none => .error (.mishap (.error (.undefinedProcedure name))), state) := by
  simp only [Machine.findProcedure, Effectful.run_bind, Effectful.run_get]
  cases state.world.procedures.find? (Text.fold name) <;> rfl

/-- Looking up a variable changes nothing. -/
theorem run_lookup (name : String) (state : State σ) :
    (Machine.lookup name).run state =
      (match state.scope.bindings.find? (Text.fold name) with
        | some value => .ok value
        | none => .error (.mishap (.error (.undefinedVariable name))), state) := by
  simp only [Machine.lookup, Effectful.run_bind, Effectful.run_get]
  cases state.scope.bindings.find? (Text.fold name) <;> rfl

/-! ## Actions that have nothing to do with the scope -/

/-- An action that depends on the world alone, and leaves the scope as it is. -/
def Machine.IsWorldly {α : Type} (action : Machine σ α) : Prop :=
  ∀ world, ∃ result after, ∀ scope, action.run ⟨world, scope⟩ = (result, ⟨after, scope⟩)

namespace Machine.IsWorldly

variable {α β : Type}

theorem value (result : α) : IsWorldly (pure result : Machine σ α) :=
  fun world => ⟨.ok result, world, fun _ => rfl⟩

theorem exit (exit : Exit) : IsWorldly (throw exit : Machine σ α) :=
  fun world => ⟨.error exit, world, fun _ => rfl⟩

theorem sequence {first : Machine σ α} {rest : α → Machine σ β} (worldly : IsWorldly first)
    (others : ∀ value, IsWorldly (rest value)) : IsWorldly (first >>= rest) := by
  intro world
  obtain ⟨result, after, runs⟩ := worldly world
  cases result with
  | error exit => exact ⟨.error exit, after, fun scope => Effectful.run_bind_error (runs scope)⟩
  | ok value =>
      obtain ⟨result, final, goesOn⟩ := others value after
      exact ⟨result, final, fun scope => (Effectful.run_bind_ok (runs scope)).trans (goesOn scope)⟩

/-- An action that depends on the world alone leaves the scope as it is. -/
theorem scope {action : Machine σ α} (worldly : IsWorldly action) (state : State σ) :
    (action.run state).2.scope = state.scope := by
  obtain ⟨result, after, runs⟩ := worldly state.world
  rw [runs]

theorem turtle : IsWorldly (Machine.turtle : Machine σ Turtle) :=
  fun world => ⟨.ok world.studio.turtle, world, fun _ => rfl⟩

theorem draw (limit : Nat) : IsWorldly (Machine.draw limit : Machine σ Nat) :=
  fun world => ⟨.ok (world.draws.sequence world.draws.used % limit),
    { world with draws := { world.draws with used := world.draws.used + 1 } }, fun _ => rfl⟩

theorem print (text : String) : IsWorldly (Machine.print text : Machine σ Unit) :=
  fun world => ⟨.ok (), { world with output := world.output ++ text }, fun _ => rfl⟩

theorem tell [Stage σ] (room : Nat) (deed : Deed) :
    IsWorldly (Machine.tell room deed : Machine σ Unit) := by
  rintro ⟨studio, output, procedures, draws⟩
  rcases performed : (Studio.perform room deed).run studio with ⟨mishap | _, after⟩
  · refine ⟨.error (.mishap mishap), ⟨after, output, procedures, draws⟩, fun scope => ?_⟩
    simp only [Machine.tell, ExceptT.run] at performed ⊢
    rw [performed]
  · refine ⟨.ok (), ⟨after, output, procedures, draws⟩, fun scope => ?_⟩
    simp only [Machine.tell, ExceptT.run] at performed ⊢
    rw [performed]

theorem findProcedure (name : String) :
    IsWorldly (Machine.findProcedure name : Machine σ Procedure) := by
  intro world
  refine ⟨((Machine.findProcedure name).run ⟨world, .empty⟩).1, world, fun scope => ?_⟩
  rw [run_findProcedure, run_findProcedure]

theorem warnMissing (procedure : Procedure) (missing : List String) :
    IsWorldly (Logo.warnMissing procedure missing : Machine σ Unit) := by
  unfold Logo.warnMissing
  split
  · exact .value ()
  · exact .print _

/-- What happens in a scope of its own does not reach the scope outside. -/
theorem inScope (inner : Scope) (action : Machine σ α) :
    IsWorldly (Machine.inScope inner action) := by
  intro world
  rcases ran : action.run ⟨world, inner⟩ with ⟨result, ⟨after, left⟩⟩
  refine ⟨.ok (result, left), after, fun outer => ?_⟩
  simp only [Machine.inScope, ExceptT.run] at ran ⊢
  rw [ran]

theorem settle (procedure : Procedure) (asExpression : Bool) :
    ∀ ended : Except Exit (Option Value) × Scope,
      IsWorldly (Logo.settle procedure asExpression ended : Machine σ (Option Value))
  | (.ok result, _) => by
      cases asExpression with
      | true => exact .exit _
      | false => exact .value _
  | (.error (.signal .stop), _) => by
      cases asExpression with
      | true => exact .exit _
      | false => exact .value _
  | (.error (.signal (.output _)), _) => .value _
  | (.error (.signal .bye), _) | (.error (.mishap _), _) => .exit _

/-- A call depends on the world and on its inputs alone. -/
theorem invoke (deeper : Depth σ) (procedure : Procedure) (values : List Value)
    (asExpression : Bool) : IsWorldly (Logo.invoke deeper procedure values asExpression) := by
  rw [invoke_eq]
  exact (warnMissing procedure _).sequence fun _ =>
    (inScope _ _).sequence fun ended => settle procedure asExpression ended

end Machine.IsWorldly

/-! ## A procedure sees nothing of its caller but its inputs -/

/--
Two scopes in one world, with whatever variables, rounds and last results: if the inputs of a call
resolve in both to the same values with the same effects on the world, then the call ends in the
same way from both and leads to the same world.
-/
theorem Command.call_sees_only_inputs [Platform] [Stage σ] (deeper : Depth σ) (name : String)
    (inputs : List Value) (asExpression : Bool) (origin : Origin) (world : World σ)
    (left right : Scope)
    {after : World σ} {left' right' : Scope} {values : Except Exit (List Value)}
    (resolved : (resolveInputs (inputsOf deeper inputs)).run ⟨world, left⟩ =
      (values, ⟨after, left'⟩))
    (resolved' : (resolveInputs (inputsOf deeper inputs)).run ⟨world, right⟩ =
      (values, ⟨after, right'⟩)) :
    ∃ result final leftAfter rightAfter,
      ((Command.call name inputs asExpression origin).execute deeper).run ⟨world, left⟩ =
        (result, ⟨final, leftAfter⟩) ∧
      ((Command.call name inputs asExpression origin).execute deeper).run ⟨world, right⟩ =
        (result, ⟨final, rightAfter⟩) := by
  simp only [Command.execute, Effectful.run_bind, run_findProcedure]
  cases world.procedures.find? (Text.fold name) with
  | none => exact ⟨_, _, _, _, rfl, rfl⟩
  | some procedure =>
      dsimp only
      rw [resolved, resolved']
      cases values with
      | error exit => exact ⟨_, _, _, _, rfl, rfl⟩
      | ok values =>
          obtain ⟨answer, final, runs⟩ :=
            Machine.IsWorldly.invoke deeper procedure values asExpression after
          exact ⟨answer, final, left', right', runs left', runs right'⟩

/-- The world in which a text leaves its procedures. -/
def World.ofText [Platform] (text : String) : World Unit :=
  ((Program.ofText text).run.run (State.initial () fun _ => 0)).2.world

/-- A variable of the caller has no value inside, whether or not the caller has it. -/
theorem Command.call_hides_variable :
    letI := Platform.standard
    ∃ result final leftAfter rightAfter,
      ((Command.call "F" [.number 3] false default).execute (.within 5)).run
        ⟨.ofText "TO F :N PRINT :N PRINT :X END", ⟨.ofList [("x", .number 8)], none, some 2⟩⟩ =
          (result, ⟨final, leftAfter⟩) ∧
      ((Command.call "F" [.number 3] false default).execute (.within 5)).run
        ⟨.ofText "TO F :N PRINT :N PRINT :X END", .empty⟩ = (result, ⟨final, rightAfter⟩) ∧
      final.output = "3\n" ∧
      (match result with
        | .error (.mishap (.error error)) => some error
        | _ => none) = some (.undefinedVariable "X") := by
  let _ := Platform.standard
  obtain ⟨result, final, leftAfter, rightAfter, ran, ran'⟩ :=
    Command.call_sees_only_inputs (.within 5) "F" [.number 3] false default
      (.ofText "TO F :N PRINT :N PRINT :X END") ⟨.ofList [("x", .number 8)], none, some 2⟩ .empty
      rfl rfl
  have printed : (((Command.call "F" [.number 3] false default).execute (.within 5)).run
      ⟨.ofText "TO F :N PRINT :N PRINT :X END", .empty⟩).2.world.output = "3\n" := by
    decide +kernel
  have failed : (match (((Command.call "F" [.number 3] false default).execute (.within 5)).run
      ⟨.ofText "TO F :N PRINT :N PRINT :X END", .empty⟩).1 with
        | .error (.mishap (.error error)) => some error
        | _ => none) = some (.undefinedVariable "X") := by
    decide +kernel
  rw [ran'] at printed failed
  exact ⟨result, final, leftAfter, rightAfter, ran, ran', printed, failed⟩

/-- A call passes on no signal but the end of the program, and gives a value if one is needed. -/
theorem Conduct.endsNoProcedure.invoke (deeper : Depth σ)
    (procedure : Procedure) (values : List Value) (asExpression : Bool) :
    endsNoProcedure.Gives (fun result => asExpression = true → result.isSome = true)
      (Logo.invoke deeper procedure values asExpression) := by
  rw [invoke_eq]
  exact (permits.warnMissing procedure _).andThen fun _ => settled procedure asExpression _ _

/-! ## Expressions and calls leave the scope alone -/

/-- Anything may happen but in the scope, which stays as it is. -/
def Conduct.framed : Conduct Exit (State σ) where
  holds _ := True
  moves before after := after.scope = before.scope
  leaves _ _ := True
  refl _ := rfl
  trans first second := second.trans first

namespace Conduct.framed

theorem tolerates : Comparison.Tolerates (framed (σ := σ)) where
  error _ _ := trivial
  limit _ _ := trivial

/-- Actions on the left that leave the scope alone. -/
def comparison : Comparison σ σ :=
  .ofConduct tolerates

variable {α : Type} {action other : Machine σ α}

theorem gives {good : α → Prop} (frame : ∀ state, (action.run state).2.scope = state.scope)
    (answers : Conduct.endsNoProcedure.Gives good action) : framed.Gives good action := by
  intro state _
  obtain ⟨-, ended⟩ := answers state trivial
  refine ⟨frame state, ?_⟩
  rcases ran : action.run state with ⟨exit | value, after⟩
  · trivial
  · rw [ran] at ended
    exact ⟨ended.1, trivial⟩

theorem same (frame : ∀ state, (action.run state).2.scope = state.scope) :
    comparison.relates Eq action other := by
  intro state _
  refine ⟨frame state, ?_⟩
  rcases action.run state with ⟨exit | value, after⟩
  · trivial
  · exact ⟨⟨value, rfl⟩, trivial⟩

theorem lookup (name : String) {other : Machine σ Value} :
    comparison.relates Eq (Machine.lookup name) other :=
  same fun state => by rw [run_lookup]

theorem informs : (comparison (σ := σ)).Informs fun _ => True where
  turtle := same Machine.IsWorldly.turtle.scope
  draw limit := same (Machine.IsWorldly.draw limit).scope
  round _ := same fun _ => rfl
  lookup _ name := lookup name

theorem finds (name : String) :
    comparison.relates (fun procedure procedure' => procedure = procedure' ∧ True)
      (Machine.findProcedure name : Machine σ Procedure) (Machine.findProcedure name) :=
  (same (Machine.IsWorldly.findProcedure name).scope).imp fun _ _ same => ⟨same, trivial⟩

theorem invokes (deeper : Depth σ) (procedure : Procedure)
    (values : List Value) (asExpression : Bool) {other : Machine σ (Option Value)} :
    comparison.relates (SameAnswer asExpression)
      (invoke deeper procedure values asExpression) other := by
  have invoked := gives (Machine.IsWorldly.invoke deeper procedure values asExpression).scope
    (Conduct.endsNoProcedure.invoke deeper procedure values asExpression)
  exact invoked.imp fun answer some => ⟨answer, rfl, some⟩

variable [Platform] [Stage σ]

/-- Expressions leave the scope alone, whatever procedures do; statements need not. -/
def trees (deeper : Depth σ) :
    Correspondence Tracker.idle deeper deeper .reference where
  inner := comparison
  outer := .indifferent
  allowed _ := True
  refines _ := trivial
  reference _ := lookup _
  report _ := Comparison.report informs (same fun _ => rfl) trivial
  act _ _ _ := trivial
  define _ _ := trivial
  call _ := Comparison.call (same fun _ => rfl) (finds _) fun procedure values _ =>
    invokes deeper procedure values _
  remember _ := trivial

/-- Resolving a value leaves the scope as it was. -/
theorem value (deeper : Depth σ) {value : Value}
    (wellFormed : value.WellFormed) (state : State σ) :
    ((value.input deeper).value.run state).2.scope = state.scope := by
  rcases block : value.isBlock with _ | _
  · have gives : framed.Gives _ (Tracker.idle.input deeper value).value :=
      (trees deeper).value value wellFormed block fun _ _ => trivial
    rw [Tracker.idle_input] at gives
    exact (gives state trivial).1
  · cases value with
    | block commands =>
        rw [Value.input]
        rfl
    | _ => cases block

/-- A call leaves the scope from which it is made as it was. -/
theorem call (deeper : Depth σ) {name : String} {inputs : List Value} {asExpression : Bool}
    {origin : Origin}
    (wellFormed : (Command.call name inputs asExpression origin).WellFormed) (state : State σ) :
    (((Command.call name inputs asExpression origin).execute deeper).run state).2.scope =
      state.scope := by
  have gives : framed.Gives _
      (Tracker.idle.execute deeper (.call name inputs asExpression origin)) :=
    (trees deeper).calls wellFormed fun _ _ => trivial
  rw [Tracker.idle_execute] at gives
  exact (gives state trivial).1

end Conduct.framed

/--
In a program that was read from a text, resolving an expression and calling a procedure leave the
scope as it was, its variables, its round and its last result, however they end and whatever
procedures do.
-/
theorem Program.ofText_keeps_scope [Platform] [Stage σ] (text : String) :
    (∀ value : Value, .value value ∈ nodesOf (Program.ofText text).commands →
      ∀ (deeper : Depth σ) (state : State σ),
        ((value.input deeper).value.run state).2.scope = state.scope) ∧
    ∀ (name : String) (inputs : List Value) (asExpression : Bool) (origin : Origin),
      .command (.call name inputs asExpression origin) ∈ nodesOf (Program.ofText text).commands →
      ∀ (deeper : Depth σ) (state : State σ),
        (((Command.call name inputs asExpression origin).execute deeper).run state).2.scope =
          state.scope := by
  have wellFormed : StatementsWellFormed (Program.ofText text).commands :=
    Program.ofTokens_wellFormed text (Program.genuine_scan text)
  refine ⟨fun value member deeper => ?_, fun name inputs asExpression origin member deeper => ?_⟩
  · exact Conduct.framed.value deeper (wellFormed_of_mem_nodesOf _ wellFormed _ member)
  · exact Conduct.framed.call deeper (wellFormed_of_mem_nodesOf _ wellFormed _ member)

/-- Whether a node is a value with calls in it. -/
def Node.isCallingValue : Node → Bool
  | .value tree => !tree.calls.isEmpty
  | .command _ => false

/-- An input that calls a procedure with variables and rounds of its own. -/
theorem Program.counting_keeps_scope :
    letI := Platform.standard
    ∃ value : Value,
      .value value ∈ nodesOf (Program.ofText
        "TO BUMP REPEAT 2 [MAKE \"X REPCOUNT] OUTPUT :X END MAKE \"X 1 PRINT BUMP").commands ∧
      ∀ state : State Unit, (value.resolve.run state).2.scope = state.scope := by
  let _ := Platform.standard
  have stands : ((nodesOf (Program.ofText
      "TO BUMP REPEAT 2 [MAKE \"X REPCOUNT] OUTPUT :X END MAKE \"X 1 PRINT BUMP").commands).any
        Node.isCallingValue) = true := by
    decide +kernel
  obtain ⟨node, member, reporter⟩ := List.any_eq_true.mp stands
  cases node with
  | command command => cases reporter
  | value value =>
      exact ⟨value, member, (Program.ofText_keeps_scope _).1 value member (.within Platform.calls)⟩

/-- An assignment in value position would reach the scope, if a text could have one there. -/
example :
    letI := Platform.standard
    ((Value.reporter (.primitive .make [.word "X", .number 1] default)).resolve.run
      (State.initial () fun _ => 0)).2.scope.bindings.entries.map Prod.fst = ["x"] := by
  decide +kernel

end Logo
