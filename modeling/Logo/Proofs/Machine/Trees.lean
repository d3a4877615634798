import Logo.Proofs.Machine.Correspondence
import Logo.Proofs.Machine.Primitives

/-!
# The conduct of well-formed trees

Whatever is read from a text is well formed, and this is what it is good for.
If a conduct permits what any command may do, if the tracker beside the run
keeps to it, and if procedures that are called keep to it, then every
well-formed tree does.  Values keep to the conduct when they are resolved,
commands in value position report a value, and statements keep to the conduct
of statements.

A tree that keeps to a conduct corresponds to itself, so the walk through the
tree is the one of all correspondences.  The bodies of procedures are no part
of the tree, so they are among the assumptions; they are discharged by
induction on how many calls may be inside each other.
-/

namespace Logo

variable {σ : Type}

/-- A call settles how its body ended, in the state to which it comes back. -/
theorem settle_gives {conduct : Conduct Exit (State σ)} (permits : conduct.Permits)
    (contained : ∀ {exit : Exit} {state : State σ}, exit.EndsProcedure →
      ¬ conduct.leaves exit state)
    (procedure : Procedure) (asExpression : Bool) {result : Except Exit (Option Value)}
    {inner : Scope} {outside : State σ}
    (ended : conduct.statements.Ends (fun _ => True) (result, outside)) :
    conduct.GivesAt (fun result => asExpression = true → result.isSome = true)
      (settle procedure asExpression (result, inner)) outside := by
  have unanswered {result : Option Value} (holds : conduct.holds outside) :
      conduct.GivesAt (fun result => asExpression = true → result.isSome = true)
        (if asExpression then Machine.fail (.noOutput procedure.name) else pure result)
        outside := by
    cases asExpression with
    | true =>
        have refused : conduct.Gives (fun result : Option Value => true = true → result.isSome)
            (Machine.fail (.noOutput procedure.name)) := permits.fail trivial
        exact refused outside holds
    | false => exact Conduct.Gives.value (fun asked => absurd asked Bool.false_ne_true) _ holds
  rcases result with exit | result
  · rcases ended with leaves | ⟨ends, holds⟩
    · cases exit with
      | mishap mishap => exact ⟨conduct.refl outside, leaves⟩
      | signal signal =>
          cases signal with
          | stop => exact absurd leaves (contained .stop)
          | output value => exact absurd leaves (contained (.output value))
          | bye => exact ⟨conduct.refl outside, leaves⟩
    · cases ends with
      | stop => exact unanswered holds
      | output value => exact Conduct.Gives.value (fun _ => rfl) _ holds
  · exact unanswered ended.2

/--
A call with a journal keeps to a conduct if its body does, provided that the conduct has nothing
against going into the scope of the call and coming back from it.
-/
theorem Tracker.journal_settled {conduct : Conduct Exit (State (Noted σ))}
    (permits : conduct.Permits)
    (contained : ∀ {exit : Exit} {state : State (Noted σ)}, exit.EndsProcedure →
      ¬ conduct.leaves exit state)
    (procedure : Procedure) (asExpression : Bool) (inner : Scope)
    {body : Machine (Noted σ) (Option Value)} (keeps : conduct.statements.Keeps body)
    (enters : ∀ {before : State (Noted σ)}, conduct.holds before →
      conduct.holds { before.calling with scope := inner })
    (returns : ∀ {before inside : State (Noted σ)} {result : Except Exit (Option Value)},
      conduct.moves { before.calling with scope := inner } inside →
      conduct.statements.Ends (fun _ => True) (result, inside) →
      conduct.moves before (.returned { inside with scope := before.scope }) ∧
        conduct.statements.Ends (fun _ => True)
          (result, .returned { inside with scope := before.scope })) :
    conduct.Gives (fun result => asExpression = true → result.isSome = true) (do
      settle procedure asExpression (← Tracker.journal.within inner body)) := by
  intro before holds
  obtain ⟨moved, ended⟩ := keeps { before.calling with scope := inner } (enters holds)
  have ran : (Tracker.journal.within inner body).run before =
      (.ok ((body.run { before.calling with scope := inner }).1,
          (body.run { before.calling with scope := inner }).2.scope),
        .returned
          { (body.run { before.calling with scope := inner }).2 with scope := before.scope }) :=
    rfl
  rw [Conduct.GivesAt, Effectful.run_bind_ok ran]
  rcases left : body.run { before.calling with scope := inner } with ⟨result, inside⟩
  rw [left] at moved ended
  obtain ⟨cameBack, endedBack⟩ := returns moved ended
  obtain ⟨movedOn, settled⟩ := settle_gives permits contained procedure asExpression endedBack
  exact ⟨conduct.trans cameBack movedOn, settled⟩

variable [Platform] [Stage σ]

/-- Whether a command runs one of the perilous primitives. -/
def Command.isPerilous : Command → Bool
  | .primitive known _ _ => known.isPerilous
  | _ => false

/--
What it takes that all well-formed trees keep to a conduct when they run under a tracker, as far
as their nodes are allowed.
-/
structure Tracker.Upholds (tracker : Tracker σ) (conduct : Conduct Exit (State σ))
    (deeper : Depth σ) (allowed : Node → Prop) : Prop where
  permits : conduct.Permits
  tell : ∀ deed : Deed, deed.isWalk = false → conduct.Keeps (Machine.tell deeper.room deed)
  note : ∀ {command : Command}, allowed (.command command) → command.isPerilous = false →
    conduct.Keeps (tracker.note command)
  define : ∀ {name : String} {parameters : List String} {body : List Command} {origin : Origin},
    allowed (.command (.define name parameters body origin)) → StatementsWellFormed body →
      conduct.Keeps (Machine.define ⟨name, parameters, body⟩)
  undefined : ∀ {name : String} {inputs : List Value} {asExpression : Bool} {origin : Origin}
    {state : State σ}, allowed (.command (.call name inputs asExpression origin)) →
    conduct.holds state → state.world.procedures.find? (Text.fold name) = none →
      conduct.leaves (.mishap (.error (.undefinedProcedure name))) state
  settled : ∀ {procedure : Procedure}, conduct.Knows procedure →
    ∀ (asExpression : Bool) (inner : Scope),
      conduct.Gives (fun result => asExpression = true → result.isSome = true) (do
        settle procedure asExpression (← tracker.within inner (deeper.run procedure.body)))
  perilous : ∀ {primitive : Primitive} {inputs : List Value} {inputs' : List (Input σ)}
    {origin : Origin}, allowed (.command (.primitive primitive inputs origin)) →
    primitive.isPerilous = true →
    InputsMatch (Input.Matches permits.comparison permits.statements.comparison)
      primitive.spec.slots (tracker.inputs deeper inputs) inputs' →
      conduct.statements.Keeps (tracker.execute deeper (.primitive primitive inputs origin))

namespace Tracker.Upholds

variable {tracker : Tracker σ} {conduct : Conduct Exit (State σ)}
  {deeper : Depth σ} {allowed : Node → Prop}

/-- A procedure call keeps to the conduct of expressions, wherever it stands. -/
theorem call (upholds : tracker.Upholds conduct deeper allowed) {name : String}
    {inputs inputs' : List Value} {asExpression : Bool} {origin : Origin}
    (here : allowed (.command (.call name inputs asExpression origin)))
    (resolved : upholds.permits.comparison.relates Eq (resolveInputs (tracker.inputs deeper inputs))
      (resolveInputs (inputsOf deeper inputs'))) :
    upholds.permits.comparison.relates (SameAnswer asExpression)
      (tracker.execute deeper (.call name inputs asExpression origin))
      ((Command.call name inputs' asExpression origin).execute deeper) := by
  have found : conduct.Gives conduct.Knows (Machine.findProcedure name) :=
    .findProcedure fun holds missing => upholds.undefined here holds missing
  have finds : upholds.permits.comparison.relates
      (fun procedure procedure' => procedure = procedure' ∧ conduct.Knows procedure)
      (Machine.findProcedure name) (Machine.findProcedure name : Machine σ Procedure) :=
    found.imp fun procedure known => ⟨procedure, rfl, known⟩
  refine Comparison.call (Comparison.related (upholds.note here rfl)) finds ?_ resolved
  intro procedure values known
  have invoked : conduct.Gives (fun result => asExpression = true → result.isSome = true)
      (tracker.invoke deeper procedure values asExpression) :=
    (upholds.permits.warnMissing procedure _).andThen fun _ =>
      upholds.settled known asExpression _
  exact invoked.imp fun result some => ⟨result, rfl, some⟩

/--
Trees that keep to a conduct correspond to themselves.  A primitive that is not
perilous neither walks nor paints nor leaves the program, so nothing is asked
of these.
-/
def trees (upholds : tracker.Upholds conduct deeper allowed) :
    Correspondence tracker deeper deeper .reference where
  inner := upholds.permits.comparison
  outer := upholds.permits.statements.comparison
  allowed := allowed
  refines := upholds.permits.refines
  reference _ := Comparison.related (upholds.permits.lookup _)
  report {primitive _ _ _} here reports matched := by
    have safe : primitive.isPerilous = false := by
      cases primitive <;> first | rfl | cases reports
    exact Comparison.report upholds.permits.informs (Comparison.related (upholds.note here safe))
      trivial reports matched
  act {primitive _ _ _} here quiet matched := by
    rcases safe : primitive.isPerilous with _ | _
    · have serves : upholds.permits.statements.comparison.Serves (τ := σ) deeper.room deeper.room
          (·.isPerilous = false) :=
        upholds.permits.serves
          (fun deed walks => upholds.tell deed (by
            cases walk : deed.isWalk with
            | false => rfl
            | true => rcases walks walk with never | never <;> cases never))
          (fun paints => by rcases paints with never | never <;> cases never)
          (fun never => by cases never)
      exact Comparison.act upholds.permits.refines serves
        (Comparison.related ((upholds.note here safe).allowing _)) safe quiet matched
    · exact Comparison.related (upholds.perilous here safe matched)
  define here wellFormed :=
    Comparison.define (Comparison.related ((upholds.note here rfl).allowing _))
      (Comparison.related ((upholds.define here wellFormed).allowing _))
  call := upholds.call
  remember result := Comparison.related (upholds.permits.statements.remember result)

/-- A value that is well formed keeps to a conduct that is upheld. -/
theorem value (upholds : tracker.Upholds conduct deeper allowed) {value : Value}
    (wellFormed : value.WellFormed) (inside : ∀ node ∈ value.nodes, allowed node) :
    conduct.Keeps (tracker.input deeper value).value := by
  rcases block : value.isBlock with _ | _
  · exact (upholds.trees.value value wellFormed block inside).keeps
  · cases value with
    | block commands =>
        rw [input]
        exact .value trivial
    | _ => cases block

/-- So do statements in a row. -/
theorem statements (upholds : tracker.Upholds conduct deeper allowed) (previous : Option Value)
    {commands : List Command} (wellFormed : StatementsWellFormed commands)
    (inside : ∀ node ∈ nodesOf commands, allowed node) :
    conduct.statements.Keeps (tracker.runFrom deeper previous commands) :=
  (upholds.trees.statements previous commands wellFormed inside).keeps

end Tracker.Upholds

/-! ## Perilous commands -/

/--
A conduct that has nothing against walking, against colors and against the end of the program has
nothing against the perilous primitives.
-/
theorem Conduct.Permits.perilous {tracker : Tracker σ} {conduct : Conduct Exit (State σ)}
    {deeper : Depth σ} (permits : conduct.Permits)
    (tell : ∀ (room : Nat) (deed : Deed), conduct.Keeps (Machine.tell room deed))
    (color : ∀ (who : String) (value : Value),
      conduct.Keeps (Machine.orMishap (value.asColor who)))
    (bye : ∀ state, conduct.holds state → conduct.leaves (.signal .bye) state)
    {primitive : Primitive} {inputs : List Value} {inputs' : List (Input σ)} {origin : Origin}
    (noted : conduct.Keeps (tracker.note (.primitive primitive inputs origin)))
    (danger : primitive.isPerilous = true)
    (matched : InputsMatch (Input.Matches permits.comparison permits.statements.comparison)
      primitive.spec.slots (tracker.inputs deeper inputs) inputs') :
    conduct.statements.Keeps (tracker.execute deeper (.primitive primitive inputs origin)) := by
  have quiet : primitive.spec.reports = false := by
    cases primitive <;> first | rfl | cases danger
  have serves : permits.statements.comparison.Serves (τ := σ) deeper.room deeper.room
      fun _ => True :=
    permits.serves (fun deed _ => tell deeper.room deed) (fun _ => color) fun _ => bye
  have acts := Comparison.act permits.refines serves (Comparison.related (noted.allowing _))
    trivial quiet matched
  exact acts.keeps

section

variable {tracker : Tracker σ} {deeper : Depth σ}
  {accepts : Slot → Input σ → Input σ → Prop} {inputs : List Value} {inputs' : List (Input σ)}

theorem Tracker.inputs_of_none
    (matched : InputsMatch accepts [] (tracker.inputs deeper inputs) inputs') : inputs = [] := by
  cases inputs with
  | nil => rfl
  | cons value rest =>
      rw [Tracker.inputs] at matched
      cases matched

theorem Tracker.inputs_of_one {slot : Slot}
    (matched : InputsMatch accepts [slot] (tracker.inputs deeper inputs) inputs') :
    ∃ value other, inputs = [value] ∧ accepts slot (tracker.input deeper value) other := by
  cases inputs with
  | nil =>
      rw [Tracker.inputs] at matched
      cases matched
  | cons value rest =>
      rw [Tracker.inputs] at matched
      obtain _ | ⟨first, others⟩ := matched
      rw [Tracker.inputs_of_none others]
      exact ⟨value, _, rfl, first⟩

end

end Logo
