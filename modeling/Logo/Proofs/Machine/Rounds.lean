import Logo.Proofs.Machine.Substitution

/-!
# Rounds

The machine keeps the round of a repetition in its scope.  A repetition sets
it before every round and puts the one from outside back when it is left, by
whatever exit.

Here trees get a second meaning, in which no round is kept anywhere: it is
handed down the tree.  A repetition runs its block in the first round, then in
the second and so on, everything else runs its parts in the round in which it
runs itself, and what is asked for the round answers with the one that it was
handed.  So there the round can only be that of the innermost repetition
around.

The main statement is that a tree that can be read does the same with both
meanings, from every state, and leaves the round of the scope as it was.
-/

namespace Logo

variable {σ : Type}

/-! ## Rounds that are handed down -/

/-- What is reported of a round. -/
def roundValue : Option Nat → Value
  | some round => .number (Number.ofNat round)
  | none => .number (-1)

/-- Run a block in the rounds `first`, `first + 1` and so on, `rounds` of them. -/
def inRounds (first : Nat) (block : Option Nat → Machine σ (Option Value)) :
    Nat → Machine σ Unit
  | 0 => pure ()
  | rounds + 1 => do
      let _ ← block (some first)
      inRounds (first + 1) block rounds

mutual

/-- What a value means as an input in a round. -/
def Value.inputIn [Platform] [Stage σ] (deeper : Depth σ) (round : Option Nat) : Value → Input σ
  | .block commands =>
      { value := pure (.block commands)
        block := fun _ => pure (runIn deeper round none commands) }
  | .reference name => .of deeper (Machine.lookup name)
  | .operation glyph left right =>
      .of deeper (operation glyph (left.inputIn deeper round) (right.inputIn deeper round))
  | .reporter command => .of deeper do valueOf command (← command.executeIn deeper round)
  | .number value => .of deeper (pure (.number value))
  | .word text => .of deeper (pure (.word text))
  | .truth value => .of deeper (pure (.truth value))
  | .list items => .of deeper (pure (.list items))
  | .procedure name parameters body => .of deeper (pure (.procedure name parameters body))

/-- What values mean as inputs in a round. -/
def inputsIn [Platform] [Stage σ] (deeper : Depth σ) (round : Option Nat) :
    List Value → List (Input σ)
  | [] => []
  | value :: rest => value.inputIn deeper round :: inputsIn deeper round rest

/-- What a command does in a round. -/
def Command.executeIn [Platform] [Stage σ] (deeper : Depth σ) (round : Option Nat) :
    Command → Machine σ (Option Value)
  | .primitive .repeatCount [] _ => return some (roundValue round)
  | .primitive .repeatBlock [count, .block commands] _ => do
      let times ← (count.inputIn deeper round).integer "REPEAT"
      inRounds 1 (fun round => runIn deeper round none commands) times.toNat
      return none
  | .primitive primitive inputs _ =>
      Action.perform deeper.room primitive (inputsIn deeper round inputs)
  | .define name parameters body _ => do
      Machine.define ⟨name, parameters, body⟩
      return none
  | .call name inputs asExpression _ => do
      let procedure ← Machine.findProcedure name
      let values ← resolveInputs (inputsIn deeper round inputs)
      invoke deeper procedure values asExpression

/-- What commands in a row do in a round. -/
def runIn [Platform] [Stage σ] (deeper : Depth σ) (round : Option Nat)
    (previous : Option Value) : List Command → Machine σ (Option Value)
  | [] => return previous
  | command :: rest => do
      let result ← command.executeIn deeper round
      Machine.remember result
      runIn deeper round result rest

end

/-! ## Machines that differ in the round -/

/-- A state in another round. -/
def State.inRound (round : Option Nat) (state : State σ) : State σ :=
  { state with scope := { state.scope with round } }

/--
The left machine is in one of the given rounds.  The right one is the same but for the round,
which stays what it was.
-/
def Accord.rounds (given : Option Nat → Prop) (kept : Option Nat) :
    Accord Exit (State σ) (State σ) where
  alike left right := right.scope.round = kept ∧ ∃ round, given round ∧ left = right.inRound round
  excused _ := False

section

variable {α : Type} {round kept : Option Nat}

/-- What has nothing to do with the scope does the same in every round. -/
theorem Machine.IsWorldly.agrees_rounds {action : Machine σ α} (worldly : action.IsWorldly) :
    Agrees (.rounds (· = round) kept) Eq action action := by
  rintro _ ⟨world, scope⟩ ⟨same, _, rfl, rfl⟩
  obtain ⟨result, after, runs⟩ := worldly world
  refine Or.inr ?_
  rw [State.inRound, runs, runs]
  exact ⟨.of_eq result, same, _, rfl, rfl⟩

/-- Variables are found in every round alike. -/
theorem Machine.lookup_agrees_rounds (name : String) :
    Agrees (.rounds (· = round) kept) Eq (Machine.lookup name)
      (Machine.lookup name : Machine σ Value) := by
  rintro _ ⟨world, scope⟩ ⟨same, _, rfl, rfl⟩
  refine Or.inr ?_
  rw [run_lookup, run_lookup]
  exact ⟨.of_eq _, same, _, rfl, rfl⟩

/-- What agrees in its values agrees in values that are known to be good. -/
theorem Agrees.giving {accord : Accord Exit (State σ) (State σ)} {good : α → Prop}
    {left right : Machine σ α} (agrees : Agrees accord Eq left right)
    (gives : Conduct.endsNoProcedure.Gives good left) :
    Agrees accord (fun value value' => value = value' ∧ good value) left right := by
  intro before before' alike
  obtain ⟨-, ended⟩ := gives before trivial
  refine (agrees before before' alike).imp_right ?_
  rintro ⟨matching, after⟩
  refine ⟨?_, after⟩
  rcases ran : left.run before with ⟨result, _⟩
  rw [ran] at ended matching
  generalize (right.run before').1 = result' at matching
  cases matching with
  | value same => exact .value ⟨same, ended.1⟩
  | exit cause => exact .exit cause

/-- A round is begun on the left alone. -/
theorem Agrees.inAnyRound {left right : Machine σ α}
    (agrees : Agrees (.rounds (· = round) kept) Eq left right) :
    Agrees (.rounds (fun _ => True) kept) Eq (do Machine.setRound round; left) right := by
  rintro _ before ⟨same, _, -, rfl⟩
  rcases agrees (before.inRound round) before ⟨same, round, rfl, rfl⟩ with
    ⟨_, never, -⟩ | ⟨matching, rounds, after, -, moved⟩
  · exact never.elim
  · exact Or.inr ⟨matching, rounds, after, trivial, moved⟩

/-- The round is put back on the left alone, however the left action ends. -/
theorem Agrees.keepingRound {left right : Machine σ α}
    (agrees : Agrees (.rounds (fun _ => True) kept) Eq left right) :
    Agrees (.rounds (· = round) kept) Eq (Machine.keepingRound left) right := by
  rintro _ before ⟨same, _, rfl, rfl⟩
  rcases agrees _ before ⟨same, _, trivial, rfl⟩ with
    ⟨_, never, -⟩ | ⟨matching, rounds, after, -, moved⟩
  · exact never.elim
  · rw [run_keepingRound, moved]
    exact Or.inr ⟨matching, rounds, _, rfl, rfl⟩

/-- Rounds that are begun one after the other are rounds that are handed down. -/
theorem repeatRounds_agrees_inRounds {block : Machine σ (Option Value)}
    {block' : Option Nat → Machine σ (Option Value)}
    (blocks : ∀ round, Agrees (.rounds (· = round) kept) Eq block (block' round))
    (first rounds : Nat) :
    Agrees (.rounds (fun _ => True) kept) Eq (Action.repeatRounds first block rounds)
      (inRounds first block' rounds) := by
  induction rounds generalizing first with
  | zero => exact .value rfl
  | succ rounds induction =>
      have begun := (blocks (some first)).inAnyRound
      have both := begun.andThen fun _ => induction (first + 1)
      rwa [bind_assoc] at both

/-- Whether a primitive has nothing to do with the round. -/
def Primitive.IsRoundless (primitive : Primitive) : Prop :=
  primitive ≠ .repeatCount ∧ primitive ≠ .repeatBlock

namespace Comparison

/-- The left machine is in a round, and the right one keeps none. -/
def inRound (round kept : Option Nat) : Comparison σ σ :=
  .ofAccord (.rounds (· = round) kept)

/-- What asks nothing of the round is informed alike in every round. -/
theorem informs_inRound : (inRound (σ := σ) round kept).Informs Primitive.IsRoundless where
  turtle := Machine.IsWorldly.turtle.agrees_rounds
  draw limit := (Machine.IsWorldly.draw limit).agrees_rounds
  round permitted := absurd rfl permitted.1
  lookup _ := Machine.lookup_agrees_rounds

theorem change_inRound {change : State σ → State σ}
    (keeps : ∀ state, (change state).scope.round = state.scope.round)
    (commutes : ∀ state, change (state.inRound round) = (change state).inRound round) :
    (inRound round kept).relates Eq (modify change : Machine σ Unit) (modify change) := by
  refine Agrees.change ?_
  rintro _ before ⟨same, _, rfl, rfl⟩
  exact ⟨(keeps before).trans same, _, rfl, commutes before⟩

theorem serves_inRound [Platform] [Stage σ] (room : Nat) :
    (inRound (σ := σ) round kept).Serves room room Primitive.IsRoundless where
  tell deed _ := (Machine.IsWorldly.tell room deed).agrees_rounds
  write style value := Comparison.write room style value
  color _ who value := by
    cases value.asColor who with
    | error mishap => exact Agrees.exit _
    | ok color => exact Agrees.value rfl
  print text := (Machine.IsWorldly.print text).agrees_rounds
  setRound permitted := absurd rfl permitted.2
  keepingRound permitted := absurd rfl permitted.2
  assign _ name value := change_inRound (fun _ => rfl) fun _ => rfl
  stop _ := Agrees.exit _
  output _ _ := Agrees.exit _
  bye _ := Agrees.exit _

theorem invokes_inRound (deeper : Depth σ) (procedure : Procedure) (values : List Value)
    (asExpression : Bool) :
    (inRound round kept).relates (SameAnswer asExpression)
      (invoke deeper procedure values asExpression)
      (invoke deeper procedure values asExpression) :=
  (Machine.IsWorldly.invoke deeper procedure values asExpression).agrees_rounds.giving
    (Conduct.endsNoProcedure.invoke deeper procedure values asExpression)

/-- From a state in a round, what is related does the same, and stays in the round. -/
theorem run_in_round {left right : Machine σ α} {state : State σ}
    (related : (inRound state.scope.round state.scope.round).relates Eq left right) :
    (left.run state).2.scope.round = state.scope.round ∧ left.run state = right.run state := by
  rcases related state state ⟨rfl, _, rfl, rfl⟩ with ⟨_, never, -⟩ | ⟨matching, kept, _, rfl, same⟩
  · exact never.elim
  · have unmoved : (right.run state).2.inRound state.scope.round = (right.run state).2 := by
      rw [← kept]
      rfl
    rw [unmoved] at same
    exact ⟨by rw [same, kept], Prod.ext matching.eq same⟩

end Comparison

end

/-! ## Everything in a tree that can be read -/

section

variable [Platform] [Stage σ] (deeper : Depth σ) (kept : Option Nat)

open Comparison (inRound)

/-- A value does the same with both meanings in every round, in the way that its slot asks for. -/
def Slot.Relates : Slot → Value → Prop
  | .datum _, value => ∀ round,
      (inRound round kept).relates Eq (value.input deeper).value (value.inputIn deeper round).value
  | .block, value => ∃ commands, value = .block commands ∧ ∀ round,
      (inRound round kept).relates Eq (runFrom deeper none commands)
        (runIn deeper round none commands)

variable {deeper kept} {primitive : Primitive} {inputs : List Value}

/-- Inputs in a round match inputs with the round around them. -/
theorem inputsMatch_of_relates {slots : List Slot}
    (related : List.Forall₂ (Slot.Relates deeper kept) slots inputs) (round : Option Nat) :
    InputsMatch (Input.Matches (inRound round kept) (inRound round kept)) slots
      (inputsOf deeper inputs) (inputsIn deeper round inputs) := by
  induction related with
  | nil =>
      rw [inputsOf, inputsIn]
      exact .nil
  | @cons slot value _ _ first _ others =>
      rw [inputsOf, inputsIn]
      refine .cons ?_ others
      cases slot with
      | datum shape => exact first round
      | block =>
          obtain ⟨commands, rfl, blocks⟩ := first
          rw [Value.input, Value.inputIn]
          exact fun _ => (inRound round kept).value (blocks round)

theorem Command.executeIn_primitive (roundless : primitive.IsRoundless) (inputs : List Value)
    (origin : Origin) (round : Option Nat) :
    (Command.primitive primitive inputs origin).executeIn deeper round =
      Action.perform deeper.room primitive (inputsIn deeper round inputs) := by
  rw [Command.executeIn]
  · rintro rfl
    exact absurd rfl roundless.1
  · rintro _ _ rfl
    exact absurd rfl roundless.2

/-- A repetition counts its rounds and keeps the round outside. -/
theorem Command.execute_repeatBlock (count : Value) (commands : List Command) (origin : Origin) :
    (Command.primitive .repeatBlock [count, .block commands] origin).execute deeper = do
      let times ← (count.input deeper).integer "REPEAT"
      Machine.keepingRound (Action.repeatRounds 1 (runFrom deeper none commands) times.toNat)
      return none := by
  rw [Command.execute, inputsOf, inputsOf, inputsOf]
  simp only [Action.perform, Action.ofPrimitive, Action.quietly, Value.input, pure_bind, bind_assoc]

/-- The round is read on the left and handed down on the right. -/
theorem Command.repeatCount_in_round (origin : Origin) (round : Option Nat) :
    (inRound round kept).relates SameReport
      ((Command.primitive .repeatCount [] origin).execute deeper)
      ((Command.primitive .repeatCount [] origin).executeIn deeper round) := by
  rw [Command.execute, inputsOf, Command.executeIn]
  rintro _ before ⟨same, current, rfl, rfl⟩
  refine Or.inr ?_
  cases current with
  | none => exact ⟨.value (.value _), same, _, rfl, rfl⟩
  | some number => exact ⟨.value (.value _), same, _, rfl, rfl⟩

/-- A repetition begins its rounds on the left, and hands them down on the right. -/
theorem Command.repeatBlock_in_round {count : Value} {commands : List Command} {round : Option Nat}
    (counts : (inRound round kept).relates Eq (count.input deeper).value
      (count.inputIn deeper round).value)
    (blocks : ∀ round, (inRound round kept).relates Eq (runFrom deeper none commands)
      (runIn deeper round none commands))
    (origin : Origin) :
    (inRound round kept).relates Eq
      ((Command.primitive .repeatBlock [count, .block commands] origin).execute deeper)
      ((Command.primitive .repeatBlock [count, .block commands] origin).executeIn deeper
        round) := by
  rw [Command.execute_repeatBlock, Command.executeIn]
  apply (Comparison.relates.integer counts _).andThen
  intro times
  have rounds : (inRound round kept).relates Eq
      (Machine.keepingRound (Action.repeatRounds 1 (runFrom deeper none commands) times.toNat))
      (inRounds 1 (fun round => runIn deeper round none commands) times.toNat) :=
    (repeatRounds_agrees_inRounds blocks 1 times.toNat).keepingRound
  exact rounds.andThen fun _ => (inRound round kept).value rfl

theorem Command.reporter_in_round (reports : primitive.spec.reports = true)
    (related : List.Forall₂ (Slot.Relates deeper kept) primitive.spec.slots inputs)
    (origin : Origin) (round : Option Nat) :
    (inRound round kept).relates SameReport
      ((Command.primitive primitive inputs origin).execute deeper)
      ((Command.primitive primitive inputs origin).executeIn deeper round) := by
  by_cases counts : primitive = .repeatCount
  · subst counts
    cases related
    exact Command.repeatCount_in_round origin round
  · have roundless : primitive.IsRoundless := by
      refine ⟨counts, ?_⟩
      rintro rfl
      cases reports
    rw [Command.execute, Command.executeIn_primitive roundless]
    exact (Action.reporter_compare Comparison.informs_inRound reports roundless).perform
      (inputsMatch_of_relates related round)

theorem Command.act_in_round (quiet : primitive.spec.reports = false)
    (related : List.Forall₂ (Slot.Relates deeper kept) primitive.spec.slots inputs)
    (origin : Origin) (round : Option Nat) :
    (inRound round kept).relates Eq ((Command.primitive primitive inputs origin).execute deeper)
      ((Command.primitive primitive inputs origin).executeIn deeper round) := by
  by_cases repeats : primitive = .repeatBlock
  · subst repeats
    obtain _ | ⟨counts, _ | ⟨⟨commands, rfl, blocks⟩, _ | _⟩⟩ := related
    exact Command.repeatBlock_in_round (counts round) blocks origin
  · have roundless : primitive.IsRoundless := by
      refine ⟨?_, repeats⟩
      rintro rfl
      cases quiet
    rw [Command.execute, Command.executeIn_primitive roundless]
    exact (Action.command_compare id (Comparison.serves_inRound _) quiet roundless).perform
      (inputsMatch_of_relates related round)

/-- A call does not see the round in which it is made. -/
theorem Command.call_in_round (name : String) {round : Option Nat}
    (resolved : (inRound round kept).relates Eq (resolveInputs (inputsOf deeper inputs))
      (resolveInputs (inputsIn deeper round inputs)))
    (asExpression : Bool) (origin : Origin) :
    (inRound round kept).relates (SameAnswer asExpression)
      ((Command.call name inputs asExpression origin).execute deeper)
      ((Command.call name inputs asExpression origin).executeIn deeper round) := by
  rw [Command.execute, Command.executeIn]
  have finds : (inRound round kept).relates Eq (Machine.findProcedure name)
      (Machine.findProcedure name : Machine σ Procedure) :=
    (Machine.IsWorldly.findProcedure name).agrees_rounds
  exact finds.andThen fun procedure => resolved.andThen fun values =>
    Comparison.invokes_inRound deeper procedure values asExpression

mutual

/--
A value in a round is resolved as with the round around it.  The induction
follows the tree, and holds in every round at once, since a repetition runs its
block in rounds of its own.
-/
theorem Value.inputIn_relates :
    ∀ value : Value, value.WellFormed → value.isBlock = false →
      ∀ round, (inRound round kept).relates Eq (value.input deeper).value
        (value.inputIn deeper round).value
  | .reference name, _, _ => by
      intro round
      rw [Value.input, Value.inputIn]
      exact Machine.lookup_agrees_rounds name
  | .operation glyph left right, wellFormed, _ => by
      intro round
      rw [Value.WellFormed] at wellFormed
      obtain ⟨known, first, second, below, beyond⟩ := wellFormed
      rw [Value.input, Value.inputIn]
      exact Comparison.operation known (Value.inputIn_relates left below first.noBlock round)
        (Value.inputIn_relates right beyond second.noBlock round)
  | .reporter command, wellFormed, _ => by
      intro round
      rw [Value.WellFormed] at wellFormed
      rw [Value.input, Value.inputIn]
      have reported := Command.executeIn_reports command wellFormed.1 wellFormed.2 round
      exact (inRound round kept).sequence reported fun _ _ same => Comparison.valueOf same
  | .number _, _, _ | .word _, _, _ | .truth _, _, _ | .list _, _, _
  | .procedure _ _ _, _, _ => by
      intro round
      rw [Value.input, Value.inputIn]
      exact (inRound round kept).value rfl

theorem inputsIn_relates :
    ∀ (slots : List Slot) (values : List Value), List.Forall₂ Slot.Holds slots values →
      ValuesWellFormed values → List.Forall₂ (Slot.Relates deeper kept) slots values
  | [], [], _, _ => .nil
  | .datum shape :: slots, value :: rest, .cons held others, wellFormed => by
      rw [ValuesWellFormed] at wellFormed
      exact .cons (Value.inputIn_relates value wellFormed.1 held.1)
        (inputsIn_relates slots rest others wellFormed.2)
  | .block :: slots, .block commands :: rest, .cons _ others, wellFormed => by
      rw [ValuesWellFormed, Value.WellFormed] at wellFormed
      exact .cons ⟨commands, rfl, runIn_relates none commands wellFormed.1⟩
        (inputsIn_relates slots rest others wellFormed.2)

theorem valuesIn_relate :
    ∀ values : List Value, ValuesWellFormed values → (∀ value ∈ values, value.isBlock = false) →
      ∀ round, (inRound round kept).relates Eq (resolveInputs (inputsOf deeper values))
        (resolveInputs (inputsIn deeper round values))
  | [], _, _ => by
      intro round
      rw [inputsOf, inputsIn]
      exact (inRound round kept).value rfl
  | value :: rest, wellFormed, noBlocks => by
      intro round
      rw [ValuesWellFormed] at wellFormed
      obtain ⟨noBlock, others⟩ := List.forall_mem_cons.mp noBlocks
      rw [inputsOf, inputsIn]
      have first := Value.inputIn_relates value wellFormed.1 noBlock round
      have second := valuesIn_relate rest wellFormed.2 others round
      exact first.andThen fun _ => second.reported _

/-- A command in value position reports the same value. -/
theorem Command.executeIn_reports :
    ∀ command : Command, command.IsReporter → command.WellFormed → ∀ round,
      (inRound round kept).relates SameReport (command.execute deeper)
        (command.executeIn deeper round)
  | .primitive primitive inputs origin, reports, wellFormed => by
      rw [Command.WellFormed] at wellFormed
      obtain ⟨-, held, below⟩ := wellFormed
      exact Command.reporter_in_round reports
        (inputsIn_relates primitive.spec.slots inputs held below) origin
  | .call name inputs asExpression origin, stands, wellFormed => by
      intro round
      rw [Command.WellFormed] at wellFormed
      obtain rfl : asExpression = true := stands
      have resolved := valuesIn_relate inputs wellFormed.2 wellFormed.1 round
      exact (Command.call_in_round name resolved true origin).imp fun _ _ same => same.sameReport

/--
A command in a round does what it does with the round around it.  A reporter
may stand as a statement too; then its value is dropped.
-/
theorem Command.executeIn_relates :
    ∀ command : Command, command.WellFormed → ∀ round,
      (inRound round kept).relates Eq (command.execute deeper) (command.executeIn deeper round)
  | .primitive primitive inputs origin, wellFormed => by
      intro round
      rw [Command.WellFormed] at wellFormed
      obtain ⟨-, held, below⟩ := wellFormed
      have related := inputsIn_relates primitive.spec.slots inputs held below
      rcases reports : primitive.spec.reports with _ | _
      · exact Command.act_in_round reports related origin round
      · exact (Command.reporter_in_round reports related origin round).imp fun _ _ same => same.eq
  | .define name parameters body origin, _ => by
      intro round
      rw [Command.execute, Command.executeIn]
      have defines : (inRound round kept).relates Eq (Machine.define ⟨name, parameters, body⟩)
          (Machine.define ⟨name, parameters, body⟩ : Machine σ Unit) :=
        Comparison.change_inRound (fun _ => rfl) fun _ => rfl
      exact defines.andThen fun _ => (inRound round kept).value rfl
  | .call name inputs asExpression origin, wellFormed => by
      intro round
      rw [Command.WellFormed] at wellFormed
      have resolved := valuesIn_relate inputs wellFormed.2 wellFormed.1 round
      exact (Command.call_in_round name resolved asExpression origin).imp fun _ _ same => same.1

/-- So do commands in a row. -/
theorem runIn_relates :
    ∀ (previous : Option Value) (commands : List Command), StatementsWellFormed commands →
      ∀ round, (inRound round kept).relates Eq (runFrom deeper previous commands)
        (runIn deeper round previous commands)
  | previous, [], _ => by
      intro round
      rw [runFrom, runIn]
      exact (inRound round kept).value rfl
  | previous, command :: rest, wellFormed => by
      intro round
      rw [StatementsWellFormed] at wellFormed
      obtain ⟨-, first, others⟩ := wellFormed
      rw [runFrom, runIn]
      have executed := Command.executeIn_relates command first round
      have remembers (result : Option Value) : (inRound round kept).relates Eq
          (Machine.remember result) (Machine.remember result : Machine σ Unit) :=
        Comparison.change_inRound (fun _ => rfl) fun _ => rfl
      exact executed.andThen fun result => (remembers result).andThen fun _ =>
        runIn_relates result rest others round

end

end

/--
Whatever a command of a program that was read from a text does, and however it ends, it leaves the
round as it was.  And it does what it does if the round is handed down instead, so that in every
round of a repetition, wherever one asks for it outside of the repetitions inside, the round is
the one of this repetition.
-/
theorem Program.ofText_round_of_innermost [Platform] [Stage σ] (text : String) {command : Command}
    (parsed : .command command ∈ nodesOf (Program.ofText text).commands)
    (deeper : Depth σ) (state : State σ) :
    ((command.execute deeper).run state).2.scope.round = state.scope.round ∧
      (command.execute deeper).run state =
        (command.executeIn deeper state.scope.round).run state := by
  have wellFormed : command.WellFormed := wellFormed_of_mem_nodesOf _
    (Program.ofTokens_wellFormed text (Program.genuine_scan text)) _ parsed
  exact Comparison.run_in_round (Command.executeIn_relates command wellFormed state.scope.round)

/-- What a node prints as a command in the seventh round, in the world of a text. -/
def Node.printedInSeventh [Platform] (text : String) : Node → String
  | .command tree =>
      ((tree.execute (.within 3)).run
        ⟨{ World.ofText text with output := "" }, ⟨.empty, none, some 7⟩⟩).2.world.output
  | .value _ => ""

/-- A round with a repetition and a call inside, which have rounds of their own. -/
theorem Program.nested_round_of_innermost :
    letI := Platform.standard
    ∃ command : Command,
      .command command ∈ nodesOf (Program.ofText
        "TO C REPEAT 3 [PRINT REPCOUNT] END REPEAT 2 [REPEAT 1 [C] PRINT REPCOUNT]").commands ∧
      (Node.command command).printedInSeventh "TO C REPEAT 3 [PRINT REPCOUNT] END" =
        "1\n2\n3\n1\n1\n2\n3\n2\n" ∧
      ∀ state : State Unit,
        ((command.execute (.within 3)).run state).2.scope.round = state.scope.round ∧
          (command.execute (.within 3)).run state =
            (command.executeIn (.within 3) state.scope.round).run state := by
  let _ := Platform.standard
  have stands : ((nodesOf (Program.ofText
      "TO C REPEAT 3 [PRINT REPCOUNT] END REPEAT 2 [REPEAT 1 [C] PRINT REPCOUNT]").commands).any
        fun node => node.printedInSeventh "TO C REPEAT 3 [PRINT REPCOUNT] END" =
          "1\n2\n3\n1\n1\n2\n3\n2\n") = true := by
    decide +kernel
  obtain ⟨node, member, printed⟩ := List.any_eq_true.mp stands
  cases node with
  | value value => exact absurd (of_decide_eq_true printed) (by simp [Node.printedInSeventh])
  | command command =>
      exact ⟨command, member, of_decide_eq_true printed,
        Program.ofText_round_of_innermost _ member (.within 3)⟩

end Logo
