import Logo.Proofs.Machine.Alike
import Logo.Proofs.Machine.Comparison
import Mathlib.Data.List.Forall2

/-!
# What a program cannot see

A program does the same on machines that are alike, whatever their stages
show and whatever they printed before.  The proof follows the program: inputs
agree, so what a primitive does with them agrees; the parts of a tree agree,
so the tree does; and a procedure call agrees because the body starts in the
same scope on both sides.

The last result of a scope is only looked at by the call that made the scope.
So the outermost last results need not be equal, but inside a call they are.
-/

namespace Logo

variable {σ τ : Type}

/-- What is not too deep for some room is not too deep for more. -/
theorem Value.isWithin_of_le {room room' : Nat} (atMost : room ≤ room') {value : Value}
    (within : value.isWithin room = true) : value.isWithin room' = true := by
  induction room generalizing room' value with
  | zero =>
      cases value with
      | list items => cases within
      | _ => cases room' <;> rfl
  | succ room induction =>
      obtain ⟨more, rfl⟩ := Nat.exists_eq_add_of_le' atMost
      cases value with
      | list items =>
          refine List.all_eq_true.mpr fun item member => ?_
          exact induction (Nat.le_add_left room more) (List.all_eq_true.mp within item member)
      | _ => rfl

/-- Two inputs that agree, as values and as blocks. -/
structure Input.Agree (tie : Tie σ τ) (results : Option Value → Option Value → Prop)
    (left : Input σ) (right : Input τ) : Prop where
  value : Agrees (tie.machines results) Eq left.value right.value
  block : ∀ who, Agrees (tie.machines results) (Agrees (tie.machines results) Eq)
    (left.block who) (right.block who)

namespace Input.Agree

variable {tie : Tie σ τ} {results : Option Value → Option Value → Prop}
  {left : Input σ} {right : Input τ}

/-- Inputs that agree have the same number. -/
theorem number (inputs : Agree tie results left right) (who : String) :
    Agrees (tie.machines results) Eq (left.number who) (right.number who) :=
  inputs.value.andThen fun _ => Machine.orFail_agrees _

/-- Whatever can be written with less room can be written with more. -/
theorem write {room room' : Nat} (rooms : tie.Rooms room room') (style : Style) (value : Value) :
    Agrees (tie.machines results) Eq (Input.write room style value)
      (Input.write room' style value) := by
  unfold Input.write
  by_cases within : value.isWithin room = true
  · have atMost : room ≤ room' := by
      unfold Tie.Rooms at rooms
      omega
    rw [if_pos within, if_pos (Value.isWithin_of_le atMost within)]
    exact .value rfl
  · rw [if_neg within]
    rcases rooms with rfl | ⟨excused, -⟩
    · rw [if_neg within]
      exact Machine.crash_agrees _
    · intro left right alike
      exact Or.inl ⟨_, ⟨_, excused, rfl⟩, rfl⟩

/-- Inputs that agree compare in whatever way a slot asks for. -/
theorem isMatch (inputs : Agree tie results left right) :
    ∀ slot : Slot, Input.Matches (.ofAccord (tie.machines results))
      (.ofAccord (tie.machines results)) slot left right
  | .datum _ => inputs.value
  | .block => inputs.block

end Input.Agree

namespace Action

variable {tie : Tie σ τ} {results : Option Value → Option Value → Prop}

/-- Two actions for the same number of inputs that agree on inputs that agree. -/
inductive Agree (tie : Tie σ τ) (results : Option Value → Option Value → Prop) :
    Action σ → Action τ → Prop where
  | none {act : Machine σ (Option Value)} {act' : Machine τ (Option Value)}
      (agrees : Agrees (tie.machines results) Eq act act') :
      Agree tie results (.none act) (.none act')
  | one {act : Input σ → Machine σ (Option Value)} {act' : Input τ → Machine τ (Option Value)}
      (agrees : ∀ {first first'}, Input.Agree tie results first first' →
        Agrees (tie.machines results) Eq (act first) (act' first')) :
      Agree tie results (.one act) (.one act')
  | two {act : Input σ → Input σ → Machine σ (Option Value)}
      {act' : Input τ → Input τ → Machine τ (Option Value)}
      (agrees : ∀ {first first' second second'}, Input.Agree tie results first first' →
        Input.Agree tie results second second' →
        Agrees (tie.machines results) Eq (act first second) (act' first' second')) :
      Agree tie results (.two act) (.two act')
  | three {act : Input σ → Input σ → Input σ → Machine σ (Option Value)}
      {act' : Input τ → Input τ → Input τ → Machine τ (Option Value)}
      (agrees : ∀ {first first' second second' third third'},
        Input.Agree tie results first first' → Input.Agree tie results second second' →
        Input.Agree tie results third third' →
        Agrees (tie.machines results) Eq (act first second third) (act' first' second' third')) :
      Agree tie results (.three act) (.three act')

/-- Actions that compare under an accord agree. -/
theorem Agree.of_compare {slots : List Slot} {action : Action σ} {action' : Action τ}
    (compare : Act (.ofAccord (tie.machines results)) (.ofAccord (tie.machines results)) slots
      action action') : Agree tie results action action' := by
  cases compare with
  | none does => exact .none does
  | one does => exact .one fun first => does (first.isMatch _)
  | two does => exact .two fun first second => does (first.isMatch _) (second.isMatch _)
  | three does =>
      exact .three fun first second third =>
        does (first.isMatch _) (second.isMatch _) (third.isMatch _)

theorem informs : (Comparison.ofAccord (tie.machines results)).Informs fun _ => True where
  turtle := Machine.turtle_agrees
  draw := Machine.draw_agrees
  round _ := Machine.round_agrees
  lookup _ := Machine.lookup_agrees

section

variable [Platform] [Stage σ] [Stage τ] {room room' : Nat}

theorem serves (respected : tie.Respected) (rooms : tie.Rooms room room') :
    (Comparison.ofAccord (tie.machines results)).Serves room room' fun _ => True where
  tell deed _ := Machine.tell_agrees respected rooms deed
  write style value := Input.Agree.write rooms style value
  color _ _ _ := Machine.orMishap_agrees _
  print := Machine.print_agrees
  setRound _ := Machine.setRound_agrees
  keepingRound _ := Machine.keepingRound_agrees
  assign _ := Machine.assign_agrees
  stop _ := Machine.leave_agrees _
  output _ _ := Machine.leave_agrees _
  bye _ := Machine.leave_agrees _

/-- Every primitive does the same on machines that are alike. -/
theorem ofPrimitive_agree (respected : tie.Respected) (rooms : tie.Rooms room room')
    (primitive : Primitive) :
    Agree tie results (ofPrimitive room primitive) (ofPrimitive room' primitive) := by
  rcases reports : primitive.spec.reports with _ | _
  · exact .of_compare (command_compare id (serves respected rooms) reports trivial)
  · exact .of_compare ((reporter_compare informs reports trivial).imp fun compares =>
      Comparison.relates.imp compares fun _ _ same => same.eq)

/-- A primitive does the same with inputs that agree one by one. -/
theorem perform_agrees (respected : tie.Respected) (rooms : tie.Rooms room room')
    (primitive : Primitive) {inputs : List (Input σ)} {inputs' : List (Input τ)}
    (agree : List.Forall₂ (Input.Agree tie results) inputs inputs') :
    Agrees (tie.machines results) Eq (perform room primitive inputs)
      (perform room' primitive inputs') := by
  have actions : Agree tie results (ofPrimitive room primitive) (ofPrimitive room' primitive) :=
    ofPrimitive_agree respected rooms primitive
  unfold perform
  generalize (ofPrimitive room primitive : Action σ) = action at actions ⊢
  generalize (ofPrimitive room' primitive : Action τ) = action' at actions ⊢
  cases actions with
  | none agrees =>
      match agree with
      | .nil => exact agrees
      | .cons _ _ => exact Machine.crash_agrees _
  | one agrees =>
      match agree with
      | .cons first .nil => exact agrees first
      | .nil | .cons _ (.cons _ _) => exact Machine.crash_agrees _
  | two agrees =>
      match agree with
      | .cons first (.cons second .nil) => exact agrees first second
      | .nil | .cons _ .nil | .cons _ (.cons _ (.cons _ _)) => exact Machine.crash_agrees _
  | three agrees =>
      match agree with
      | .cons first (.cons second (.cons third .nil)) => exact agrees first second third
      | .nil | .cons _ .nil | .cons _ (.cons _ .nil) | .cons _ (.cons _ (.cons _ (.cons _ _))) =>
          exact Machine.crash_agrees _

end

end Action

/-! ## Trees -/

section

variable {tie : Tie σ τ} {results : Option Value → Option Value → Prop}

/--
What is left of the stack agrees: the room does, and running the bodies of
procedures does, whatever the last results outside.
-/
structure Depth.Agree (tie : Tie σ τ) (deeper : Depth σ) (deeper' : Depth τ) : Prop where
  room : tie.Rooms deeper.room deeper'.room
  run : ∀ results : Option Value → Option Value → Prop, (∀ result, results result result) →
    ∀ body, Agrees (tie.machines results) Eq (deeper.run body) (deeper'.run body)

/-- Operations on inputs that agree agree. -/
theorem operation_agrees (glyph : String) {left right : Input σ} {left' right' : Input τ}
    (lefts : Input.Agree tie results left left') (rights : Input.Agree tie results right right') :
    Agrees (tie.machines results) Eq (operation glyph left right)
      (operation glyph left' right') := by
  apply (lefts.number _).andThen
  intro first
  apply (rights.number _).andThen
  intro second
  apply (Machine.orMishap_agrees _).andThen
  intro result
  exact (Machine.orFail_agrees _).andThen fun _ => .value rfl

theorem valueOf_agrees (command : Command) (result : Option Value) :
    Agrees (tie.machines results) Eq (valueOf command result) (valueOf command result) := by
  cases result with
  | none => exact Machine.fail_agrees _
  | some value => exact .value rfl

theorem Input.of_agree {deeper : Depth σ} {deeper' : Depth τ} {value : Machine σ Value}
    {value' : Machine τ Value}
    (bodies : ∀ body, Agrees (tie.machines results) Eq (deeper.run body) (deeper'.run body))
    (values : Agrees (tie.machines results) Eq value value') :
    Input.Agree tie results (.of deeper value) (.of deeper' value') where
  value := values
  block who := by
    apply values.andThen
    intro value
    apply (Machine.orFail_agrees _).andThen
    intro body
    exact .value (bodies body)

theorem warnMissing_agrees (procedure : Procedure) (missing : List String) :
    Agrees (tie.machines results) Eq
      (warnMissing procedure missing) (warnMissing procedure missing) := by
  unfold warnMissing
  split
  · exact .value rfl
  · exact Machine.print_agrees _

/-- Inputs that agree are resolved to the same values. -/
theorem resolveInputs_agrees {inputs : List (Input σ)} {inputs' : List (Input τ)}
    (agree : List.Forall₂ (Input.Agree tie results) inputs inputs') :
    Agrees (tie.machines results) Eq (resolveInputs inputs) (resolveInputs inputs') := by
  induction agree with
  | nil => exact .value rfl
  | cons first rest induction =>
      apply first.value.andThen
      intro value
      exact induction.andThen fun _ => .value rfl

/--
An action in a scope of its own, and what is made of its end.  The inner scope
starts out the same on both sides, so its last results stay equal; the scopes
outside are put back.
-/
theorem Machine.inScope_agrees {α β γ : Type} {values : β → γ → Prop} (inner : Scope)
    {action : Machine σ α} {action' : Machine τ α}
    {rest : Except Exit α × Scope → Machine σ β} {rest' : Except Exit α × Scope → Machine τ γ}
    (actions : Agrees (tie.machines Eq) Eq action action')
    (passes : ∀ exit scope before, (tie.machines results).excused exit →
      ((rest (.error exit, scope)).run before).1 = .error exit)
    (rests : ∀ result scope scope', scope.lastResult = scope'.lastResult →
      Agrees (tie.machines results) values (rest (result, scope)) (rest' (result, scope'))) :
    Agrees (tie.machines results) values
      (inScope inner action >>= rest) (inScope inner action' >>= rest') := by
  rintro ⟨world, outer⟩ ⟨world', outer'⟩ alike
  have entered : tie.StatesAlike Eq ⟨world, inner⟩ ⟨world', inner⟩ :=
    { alike with bindings := rfl, round := rfl, lastResult := rfl }
  rcases acted : action.run ⟨world, inner⟩ with ⟨result, ⟨after, scope⟩⟩
  rcases acted' : action'.run ⟨world', inner⟩ with ⟨result', ⟨after', scope'⟩⟩
  have ran : (inScope inner action).run ⟨world, outer⟩ = (.ok (result, scope), ⟨after, outer⟩) := by
    simp only [inScope, ExceptT.run] at acted ⊢
    rw [acted]
  have ran' :
      (inScope inner action').run ⟨world', outer'⟩ = (.ok (result', scope'), ⟨after', outer'⟩) := by
    simp only [inScope, ExceptT.run] at acted' ⊢
    rw [acted']
  rw [Effectful.run_bind_ok ran, Effectful.run_bind_ok ran']
  have agreed := actions _ _ entered
  rw [acted, acted'] at agreed
  rcases agreed with ⟨exit, excused, ended⟩ | ⟨matching, left⟩
  · cases ended
    exact Or.inl ⟨exit, excused, passes exit scope _ excused⟩
  · cases matching.eq
    have back : tie.StatesAlike results ⟨after, outer⟩ ⟨after', outer'⟩ :=
      { left with bindings := alike.bindings, round := alike.round, lastResult := alike.lastResult }
    exact rests result scope scope' left.lastResult _ _ back

/-- What a procedure call makes of how the body of the procedure ended. -/
def settle (procedure : Procedure) (asExpression : Bool) :
    Except Exit (Option Value) × Scope → Machine σ (Option Value)
  | (.error (.signal (.output value)), _) => pure (some value)
  | (.error (.signal .stop), inner) =>
      if asExpression then Machine.fail (.noOutput procedure.name) else pure inner.lastResult
  | (.error exit, _) => throw exit
  | (.ok result, _) =>
      if asExpression then Machine.fail (.noOutput procedure.name) else pure result

/-- A call warns, runs the body in a scope of its own, and settles how that ended. -/
theorem invoke_eq (deeper : Depth σ) (procedure : Procedure) (values : List Value)
    (asExpression : Bool) :
    invoke deeper procedure values asExpression =
      (do
        warnMissing procedure (procedure.parameters.drop values.length)
        settle procedure asExpression
          (← Machine.inScope (.ofInputs procedure.parameters values)
            (deeper.run procedure.body))) :=
  rfl

theorem settle_agrees (procedure : Procedure) (asExpression : Bool)
    (result : Except Exit (Option Value)) {scope scope' : Scope}
    (sameResult : scope.lastResult = scope'.lastResult) :
    Agrees (tie.machines results) Eq
      (settle procedure asExpression (result, scope) : Machine σ _)
      (settle procedure asExpression (result, scope') : Machine τ _) := by
  match result with
  | .error (.signal (.output value)) => exact .value rfl
  | .error (.signal .stop) =>
      cases asExpression with
      | true => exact Machine.fail_agrees _
      | false => exact .value sameResult
  | .error (.signal .bye) => exact .exit _
  | .error (.mishap mishap) => exact .exit _
  | .ok result =>
      cases asExpression with
      | true => exact Machine.fail_agrees _
      | false => exact .value rfl

variable {deeper : Depth σ} {deeper' : Depth τ}

/-- Calls agree where bodies do. -/
theorem invoke_agrees (depths : Depth.Agree tie deeper deeper') (procedure : Procedure)
    (values : List Value) (asExpression : Bool) :
    Agrees (tie.machines results) Eq
      (invoke deeper procedure values asExpression)
      (invoke deeper' procedure values asExpression) := by
  rw [invoke_eq, invoke_eq]
  apply (warnMissing_agrees _ _).andThen
  intro _
  apply Machine.inScope_agrees _ (depths.run Eq (fun _ => rfl) procedure.body)
  · rintro _ scope before ⟨fault, -, rfl⟩
    rfl
  · intro result scope scope' sameResult
    exact settle_agrees procedure asExpression result sameResult

variable [Platform] [Stage σ] [Stage τ]

mutual

/-- A value means the same on both sides. -/
theorem Value.input_agree (respected : tie.Respected) (reflexive : ∀ result, results result result)
    (depths : Depth.Agree tie deeper deeper') :
    ∀ value : Value, Input.Agree tie results (value.input deeper) (value.input deeper')
  | .block commands =>
      { value := .value rfl
        block := fun _ =>
          .value (runFrom_agrees respected reflexive depths none commands) }
  | .reference name => Input.of_agree (depths.run results reflexive) (Machine.lookup_agrees name)
  | .operation glyph left right =>
      Input.of_agree (depths.run results reflexive) <|
        operation_agrees glyph (left.input_agree respected reflexive depths)
          (right.input_agree respected reflexive depths)
  | .reporter command =>
      Input.of_agree (depths.run results reflexive) <|
        (command.execute_agrees respected reflexive depths).andThen fun result =>
          valueOf_agrees command result
  | .number _ | .word _ | .truth _ | .list _ | .procedure _ _ _ =>
      Input.of_agree (depths.run results reflexive) (.value rfl)

theorem inputsOf_agree (respected : tie.Respected) (reflexive : ∀ result, results result result)
    (depths : Depth.Agree tie deeper deeper') :
    ∀ values : List Value,
      List.Forall₂ (Input.Agree tie results) (inputsOf deeper values) (inputsOf deeper' values)
  | [] => .nil
  | value :: rest =>
      .cons (value.input_agree respected reflexive depths)
        (inputsOf_agree respected reflexive depths rest)

/-- A command does the same on machines that are alike. -/
theorem Command.execute_agrees (respected : tie.Respected)
    (reflexive : ∀ result, results result result) (depths : Depth.Agree tie deeper deeper') :
    ∀ command : Command,
      Agrees (tie.machines results) Eq (command.execute deeper) (command.execute deeper')
  | .primitive primitive inputs _ =>
      Action.perform_agrees respected depths.room primitive
        (inputsOf_agree respected reflexive depths inputs)
  | .define _ _ _ _ => (Machine.define_agrees _).andThen fun _ => .value rfl
  | .call name inputs asExpression _ =>
      (Machine.findProcedure_agrees name).andThen fun procedure =>
        (resolveInputs_agrees (inputsOf_agree respected reflexive depths inputs)).andThen
          fun values => invoke_agrees depths procedure values asExpression

/-- Commands in a row agree, whatever ran before. -/
theorem runFrom_agrees (respected : tie.Respected) (reflexive : ∀ result, results result result)
    (depths : Depth.Agree tie deeper deeper') (previous : Option Value) :
    ∀ commands : List Command,
      Agrees (tie.machines results) Eq
        (runFrom deeper previous commands) (runFrom deeper' previous commands)
  | [] => .value rfl
  | command :: rest =>
      (command.execute_agrees respected reflexive depths).andThen fun result =>
        (Machine.remember_agrees reflexive result).andThen fun _ =>
          runFrom_agrees respected reflexive depths result rest

end

/-- What is left of the stack agrees, however many calls may be inside each other. -/
theorem Depth.within_agree (respected : tie.Respected) (calls : Nat) :
    Depth.Agree tie (.within calls) (.within calls) := by
  refine ⟨Or.inl rfl, ?_⟩
  induction calls with
  | zero =>
      intro results reflexive body
      exact Machine.crash_agrees _
  | succ calls induction =>
      intro results reflexive body
      exact runFrom_agrees respected reflexive ⟨Or.inl rfl, induction⟩ none body

/-- A command of a program does the same on machines that are alike. -/
theorem Command.run_agrees (respected : tie.Respected)
    (reflexive : ∀ result, results result result) (command : Command) :
    Agrees (tie.machines results) Eq command.run command.run :=
  command.execute_agrees respected reflexive (Depth.within_agree respected Platform.calls)

end

end Logo
