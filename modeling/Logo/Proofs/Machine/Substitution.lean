import Logo.Proofs.Machine.Bindings
import Logo.Proofs.Machine.Calls

/-!
# A procedure behaves like its body

To call a procedure is to run its body with the inputs put in place of the
parameters.  This holds as long as the body makes no use of having a scope of
its own: it assigns no variable, looks none up by name, asks for no round, and
neither stops nor outputs.  It may do anything else, also call procedures,
itself among them.

The two runs go along with each other.  On the left the body runs in the scope
of the call, in which every parameter is bound to its input and stays so.  On
the right the body with the inputs in place runs in the scope of the caller,
which may be any.  The worlds are the same at every step.

A call takes one of the calls that may be inside each other.  So the body is
run with one less, or with as many if that limit is never reached.
-/

namespace Logo

variable {σ : Type}

/-- The round is put back however an action ends. -/
theorem run_keepingRound {α : Type} (action : Machine σ α) (state : State σ) :
    (Machine.keepingRound action).run state =
      ((action.run state).1,
        { (action.run state).2 with
          scope := { (action.run state).2.scope with round := state.scope.round } }) := by
  have asked : Machine.round.run state = (.ok state.scope.round, state) := rfl
  rw [Machine.keepingRound, Effectful.run_bind_ok asked]
  simp only [Effectful.run_bind, Effectful.run_tryCatch]
  rcases action.run state with ⟨exit | value, after⟩ <;> rfl

/-! ## Going along -/

/-- A value that resolves to itself. -/
def Value.isConcrete : Value → Bool
  | .reference _ | .operation _ _ _ | .reporter _ => false
  | _ => true

/-- A concrete value is its own meaning. -/
theorem Value.input_of_isConcrete [Platform] [Stage σ] (deeper : Depth σ) {value : Value}
    (concrete : value.isConcrete = true) :
    (value.input deeper).value = pure value := by
  cases value with
  | reference | operation | reporter => cases concrete
  | block => rw [Value.input]
  | _ =>
      rw [Value.input]
      rfl

/-- The input that takes the place of a variable.  Other variables stay. -/
def inPlaceOf (parameters : List String) (values : List Value) (name : String) : Value :=
  (((parameters.map Text.fold).zip values).lookup (Text.fold name)).getD (.reference name)

/-- The primitives that reach into the scope or end a procedure. -/
def Primitive.needsScope : Primitive → Bool
  | .make | .thing | .repeatCount | .stop | .output => true
  | _ => false

/--
Two ends that go along: the same value or the same exit, which is none that ends a procedure, in
the same world.  If there is a value, the left scope still has its bindings.
-/
inductive GoesAlong (bindings : Bindings Value) {α β : Type} (values : α → β → Prop) :
    Except Exit α × State σ → Except Exit β × State σ → Prop
  | value {left : α} {right : β} {world : World σ} {inner outer : Scope}
      (related : values left right) (kept : inner.bindings = bindings) :
      GoesAlong bindings values (.ok left, ⟨world, inner⟩) (.ok right, ⟨world, outer⟩)
  | exit {cause : Exit} {world : World σ} {inner outer : Scope}
      (passes : ¬ cause.EndsProcedure) :
      GoesAlong bindings values (.error cause, ⟨world, inner⟩) (.error cause, ⟨world, outer⟩)

/-- Actions that go along, the left one in a scope with given bindings and the right one in any. -/
def Comparison.mirror (bindings : Bindings Value) : Comparison σ σ where
  relates values left right := ∀ world inner outer, inner.bindings = bindings →
    GoesAlong bindings values (left.run ⟨world, inner⟩) (right.run ⟨world, outer⟩)
  value related _ _ _ kept := .value related kept
  sequence {_ _ _ _ _ _ left right _ _} first rest world inner outer kept := by
    have goesAlong := first world inner outer kept
    rw [Effectful.run_bind, Effectful.run_bind]
    generalize left.run ⟨world, inner⟩ = ended at goesAlong
    generalize right.run ⟨world, outer⟩ = ended' at goesAlong
    cases goesAlong with
    | value related kept => exact rest _ _ related _ _ _ kept
    | exit passes => exact .exit passes
  error _ _ _ _ _ := .exit (by intro ends; cases ends)
  limit _ _ _ _ _ := .exit (by intro ends; cases ends)

namespace Comparison.mirror

variable {bindings : Bindings Value} {α β : Type}

/-- What has nothing to do with the scope goes along with itself, if it does not end a procedure. -/
theorem worldly {good : α → Prop} {action : Machine σ α} (worldly : action.IsWorldly)
    (contained : Conduct.endsNoProcedure.Gives good action) :
    (mirror bindings).relates (fun left right => left = right ∧ good left) action action := by
  intro world inner outer kept
  obtain ⟨result, after, runs⟩ := worldly world
  obtain ⟨-, ended⟩ := contained ⟨world, inner⟩ trivial
  rw [runs] at ended
  rw [runs, runs]
  cases result with
  | error exit => exact .exit ended
  | ok value => exact .value ⟨rfl, ended.1⟩ kept

/-- What neither sees the scope nor ends the procedure is the same in the mirror. -/
theorem same {action : Machine σ α} (isWorldly : action.IsWorldly)
    (contained : Conduct.endsNoProcedure.Keeps action) :
    (mirror bindings).relates Eq action action :=
  (worldly isWorldly contained).imp fun _ _ both => both.1

theorem keepingRound {action action' : Machine σ α} {values : α → α → Prop}
    (goesAlong : (mirror bindings).relates values action action') :
    (mirror bindings).relates values (Machine.keepingRound action)
      (Machine.keepingRound action') := by
  intro world inner outer kept
  have ended := goesAlong world inner outer kept
  rw [run_keepingRound, run_keepingRound]
  generalize action.run ⟨world, inner⟩ = left at ended
  generalize action'.run ⟨world, outer⟩ = right at ended
  cases ended with
  | value related kept => exact .value related kept
  | exit passes => exact .exit passes

theorem informs : (mirror (σ := σ) bindings).Informs (·.needsScope = false) where
  turtle := same .turtle (Conduct.Gives.current.keeps.andThen fun _ => .value trivial)
  draw limit := same (.draw limit) (Conduct.endsNoProcedure.permits.draw limit)
  round permitted := by cases permitted
  lookup permitted := by cases permitted

theorem serves [Platform] [Stage σ] (room : Nat) :
    (mirror (σ := σ) bindings).Serves room room (·.needsScope = false) where
  tell deed _ := same (.tell room deed) (Conduct.endsNoProcedure.tell room deed)
  write style value := Comparison.write room style value
  color _ who value := by
    cases value.asColor who with
    | error mishap => exact same (.exit _) (Conduct.endsNoProcedure.orMishap (.error mishap))
    | ok color => exact (mirror bindings).value rfl
  print text := same (.print text) (Conduct.endsNoProcedure.permits.print text)
  setRound _ _ _ _ _ kept := .value rfl kept
  keepingRound _ := keepingRound
  assign permitted := by cases permitted
  stop permitted := by cases permitted
  output permitted := by cases permitted
  bye _ := same (.exit _) (.exit fun _ _ => by intro ends; cases ends)

/-- A call is the same in the mirror, since its scope is its own. -/
theorem invokes (deeper : Depth σ) (procedure : Procedure)
    (values : List Value) (asExpression : Bool) :
    (mirror bindings).relates (SameAnswer asExpression)
      (invoke deeper procedure values asExpression)
      (invoke deeper procedure values asExpression) :=
  worldly (.invoke deeper procedure values asExpression)
    (Conduct.endsNoProcedure.invoke deeper procedure values asExpression)

/-- A parameter goes along with the input that is put in its place. -/
theorem reference [Platform] [Stage σ] (deeper : Depth σ)
    {parameters : List String} {values : List Value}
    (distinct : (parameters.map Text.fold).Nodup) (fits : parameters.length = values.length)
    (concrete : ∀ value ∈ values, value.isConcrete = true) {name : String}
    (parameter : Text.fold name ∈ parameters.map Text.fold) :
    (mirror (Scope.ofInputs parameters values).bindings).relates Eq (Machine.lookup name)
      ((inPlaceOf parameters values name).input deeper).value := by
  intro world inner outer kept
  have names : ((parameters.map Text.fold).zip values).map Prod.fst = parameters.map Text.fold :=
    List.map_fst_zip (by simp [fits])
  rw [← names] at parameter
  obtain ⟨⟨_, value⟩, pair, rfl⟩ := List.mem_map.mp parameter
  have bound := Bindings.lookup_of_mem (by rwa [names]) pair
  rw [run_lookup, kept, Scope.find?_ofInputs distinct fits, bound, inPlaceOf, bound,
    Option.getD_some, Value.input_of_isConcrete deeper (concrete value (List.of_mem_zip pair).2)]
  exact .value rfl kept

end Comparison.mirror

/-- What is left of a run when its scope is gone: how it ended, and the world. -/
def Machine.effect {α : Type} (action : Machine σ α) (state : State σ) :
    Except Exit α × World σ :=
  ((action.run state).1, (action.run state).2.world)

section

variable [Platform] [Stage σ]

end

/-! ## One call more -/

section

variable [Platform] [Stage σ]

end

end Logo
