import Logo.Proofs.Machine.Comparison
import Logo.Proofs.Machine.Journal
import Logo.Proofs.Program.Nodes

/-!
# Trees that correspond

A well-formed tree is compared with the same tree in which every variable has
been replaced.  On the left it runs under a tracker.  What has to be compared
first is what a tree does to the machine by itself: look up a variable, run a
primitive, define a procedure and call one.  Then everything in the tree
compares: values when they are resolved, commands in value position, and
statements.

The comparison may be restricted to trees whose nodes are all allowed, so that
nothing has to be known about commands that do not occur.
-/

namespace Logo

variable {σ τ : Type}

/-! ## Replacing variables -/

mutual

/-- A value in which every variable is replaced. -/
def Value.fill (literal : String → Value) : Value → Value
  | .reference name => literal name
  | .block commands => .block (fillCommands literal commands)
  | .operation glyph left right => .operation glyph (left.fill literal) (right.fill literal)
  | .reporter command => .reporter (command.fill literal)
  | .number value => .number value
  | .word text => .word text
  | .truth value => .truth value
  | .list items => .list items
  | .procedure name parameters body => .procedure name parameters body

/-- Values in which every variable is replaced. -/
def fillValues (literal : String → Value) : List Value → List Value
  | [] => []
  | value :: rest => value.fill literal :: fillValues literal rest

/--
A command in which every variable is replaced.  The body of a definition has variables of its own.
-/
def Command.fill (literal : String → Value) : Command → Command
  | .primitive primitive inputs origin => .primitive primitive (fillValues literal inputs) origin
  | .define name parameters body origin => .define name parameters body origin
  | .call name inputs asExpression origin =>
      .call name (fillValues literal inputs) asExpression origin

/-- Commands in which every variable is replaced. -/
def fillCommands (literal : String → Value) : List Command → List Command
  | [] => []
  | command :: rest => command.fill literal :: fillCommands literal rest

end

/-! ## What has to correspond -/

/-- The same result, which must be a value where one is needed. -/
def SameAnswer (needed : Bool) (left right : Option Value) : Prop :=
  left = right ∧ (needed = true → left.isSome = true)

theorem SameAnswer.sameReport {left right : Option Value} (same : SameAnswer true left right) :
    SameReport left right := by
  obtain ⟨rfl, some⟩ := same
  obtain ⟨value, rfl⟩ := Option.isSome_iff_exists.mp (some rfl)
  exact .value value

/--
How trees under a tracker compare with trees in which variables are replaced: expressions in one
way and statements in another, as far as their nodes are allowed.
-/
structure Correspondence [Platform] [Stage σ] [Stage τ] (tracker : Tracker σ) (deeper : Depth σ)
    (deeper' : Depth τ) (literal : String → Value) where
  inner : Comparison σ τ
  outer : Comparison σ τ
  allowed : Node → Prop
  refines : inner.Refines outer
  reference : ∀ {name : String}, allowed (.value (.reference name)) →
    inner.relates Eq (Machine.lookup name) ((literal name).input deeper').value
  report : ∀ {primitive : Primitive} {inputs : List Value} {inputs' : List (Input τ)}
    {origin : Origin}, allowed (.command (.primitive primitive inputs origin)) →
    primitive.spec.reports = true →
    InputsMatch (Input.Matches inner outer) primitive.spec.slots (tracker.inputs deeper inputs)
      inputs' →
    inner.relates SameReport (tracker.execute deeper (.primitive primitive inputs origin))
      (Action.perform deeper'.room primitive inputs')
  act : ∀ {primitive : Primitive} {inputs : List Value} {inputs' : List (Input τ)}
    {origin : Origin}, allowed (.command (.primitive primitive inputs origin)) →
    primitive.spec.reports = false →
    InputsMatch (Input.Matches inner outer) primitive.spec.slots (tracker.inputs deeper inputs)
      inputs' →
    outer.relates Eq (tracker.execute deeper (.primitive primitive inputs origin))
      (Action.perform deeper'.room primitive inputs')
  define : ∀ {name : String} {parameters : List String} {body : List Command} {origin : Origin},
    allowed (.command (.define name parameters body origin)) → StatementsWellFormed body →
    outer.relates Eq (tracker.execute deeper (.define name parameters body origin))
      ((Command.define name parameters body origin).execute deeper')
  call : ∀ {name : String} {inputs inputs' : List Value} {asExpression : Bool} {origin : Origin},
    allowed (.command (.call name inputs asExpression origin)) →
    inner.relates Eq (resolveInputs (tracker.inputs deeper inputs))
      (resolveInputs (inputsOf deeper' inputs')) →
    inner.relates (SameAnswer asExpression)
      (tracker.execute deeper (.call name inputs asExpression origin))
      ((Command.call name inputs' asExpression origin).execute deeper')
  remember : ∀ result, outer.relates Eq (Machine.remember result) (Machine.remember result)

namespace Comparison

variable {inner outer : Comparison σ τ}

/-- An operation with a known operator compares if its operands do. -/
theorem operation {glyph : String} (known : glyph ∈ Kind.operators) {left right : Input σ}
    {left' right' : Input τ} (first : inner.relates Eq left.value left'.value)
    (second : inner.relates Eq right.value right'.value) :
    inner.relates Eq (Logo.operation glyph left right) (Logo.operation glyph left' right') := by
  apply (relates.number first glyph).andThen
  intro left
  apply (relates.number second glyph).andThen
  intro right
  have operates :
      inner.relates Eq (Machine.orMishap (operate glyph left right))
        (Machine.orMishap (operate glyph left right)) := by
    rcases operated : operate glyph left right with mishap | number
    · obtain rfl := operate_error known operated
      exact inner.error trivial
    · exact inner.value rfl
  apply operates.andThen
  intro number
  exact (orFail (Value.finite_expected glyph number)).reported _

/-- Commands that report the same have the same value. -/
theorem valueOf {command command' : Command} {result result' : Option Value}
    (same : SameReport result result') :
    inner.relates Eq (Logo.valueOf command result) (Logo.valueOf command' result') := by
  cases same with
  | value value => exact inner.value rfl

variable [Platform] [Stage σ] [Stage τ] {tracker : Tracker σ} {deeper : Depth σ}
  {deeper' : Depth τ}

/-- A reporter under a tracker compares if what the tracker notes compares with nothing. -/
theorem report {allowed : Primitive → Prop} (informs : inner.Informs allowed)
    {primitive : Primitive} {inputs : List Value} {inputs' : List (Input τ)} {origin : Origin}
    (noted : inner.relates Eq (tracker.note (.primitive primitive inputs origin)) (pure ()))
    (permitted : allowed primitive) (reports : primitive.spec.reports = true)
    (matched : InputsMatch (Input.Matches inner outer) primitive.spec.slots
      (tracker.inputs deeper inputs) inputs') :
    inner.relates SameReport (tracker.execute deeper (.primitive primitive inputs origin))
      (Action.perform deeper'.room primitive inputs') := by
  rw [Tracker.execute]
  exact noted.beside ((Action.reporter_compare informs reports permitted).perform matched)

/-- A command under a tracker compares if what the tracker notes compares with nothing. -/
theorem act {allowed : Primitive → Prop} (refines : inner.Refines outer)
    (serves : outer.Serves deeper.room deeper'.room allowed) {primitive : Primitive}
    {inputs : List Value} {inputs' : List (Input τ)} {origin : Origin}
    (noted : outer.relates Eq (tracker.note (.primitive primitive inputs origin)) (pure ()))
    (permitted : allowed primitive) (quiet : primitive.spec.reports = false)
    (matched : InputsMatch (Input.Matches inner outer) primitive.spec.slots
      (tracker.inputs deeper inputs) inputs') :
    outer.relates Eq (tracker.execute deeper (.primitive primitive inputs origin))
      (Action.perform deeper'.room primitive inputs') := by
  rw [Tracker.execute]
  exact noted.beside ((Action.command_compare refines serves quiet permitted).perform matched)

/-- A definition under a tracker compares if making the procedure known does. -/
theorem define {name : String} {parameters : List String} {body : List Command}
    {origin : Origin}
    (noted : outer.relates Eq (tracker.note (.define name parameters body origin)) (pure ()))
    (defines : outer.relates Eq (Machine.define ⟨name, parameters, body⟩)
      (Machine.define ⟨name, parameters, body⟩)) :
    outer.relates Eq (tracker.execute deeper (.define name parameters body origin))
      ((Command.define name parameters body origin).execute deeper') := by
  rw [Tracker.execute, Command.execute]
  exact noted.beside (defines.andThen fun _ => outer.value rfl)

/--
A call under a tracker compares if its inputs do, and if every procedure that is known does
whatever it is given.
-/
theorem call {known : Procedure → Prop} {name : String} {inputs inputs' : List Value}
    {asExpression : Bool} {origin : Origin}
    (noted : inner.relates Eq (tracker.note (.call name inputs asExpression origin)) (pure ()))
    (finds : inner.relates (fun procedure procedure' => procedure = procedure' ∧ known procedure)
      (Machine.findProcedure name) (Machine.findProcedure name))
    (invokes : ∀ procedure values, known procedure → inner.relates (SameAnswer asExpression)
      (tracker.invoke deeper procedure values asExpression)
      (Logo.invoke deeper' procedure values asExpression))
    (resolved : inner.relates Eq (resolveInputs (tracker.inputs deeper inputs))
      (resolveInputs (inputsOf deeper' inputs'))) :
    inner.relates (SameAnswer asExpression)
      (tracker.execute deeper (.call name inputs asExpression origin))
      ((Command.call name inputs' asExpression origin).execute deeper') := by
  rw [Tracker.execute, Command.execute]
  refine noted.beside (inner.sequence finds ?_)
  rintro procedure _ ⟨rfl, familiar⟩
  exact resolved.andThen fun values => invokes procedure values familiar

end Comparison

/-! ## Everything corresponds -/

namespace Correspondence

variable [Platform] [Stage σ] [Stage τ] {tracker : Tracker σ} {deeper : Depth σ}
  {deeper' : Depth τ} {literal : String → Value}

mutual

/--
Values that correspond resolve alike.  The induction follows the tree.  A block
is met only where a primitive takes one, so values have no block to resolve.
-/
theorem value (trees : Correspondence tracker deeper deeper' literal) :
    ∀ value : Value, value.WellFormed → value.isBlock = false →
      (∀ node ∈ value.nodes, trees.allowed node) →
      trees.inner.relates Eq (tracker.input deeper value).value
        ((value.fill literal).input deeper').value
  | .reference name, _, _, allowed => by
      rw [Tracker.input, Value.fill]
      exact trees.reference (allowed _ (Value.mem_nodes_self _))
  | .operation glyph left right, wellFormed, _, allowed => by
      rw [Value.WellFormed] at wellFormed
      obtain ⟨known, first, second, below, beyond⟩ := wellFormed
      simp only [Value.nodes, List.mem_cons, List.mem_append] at allowed
      rw [Tracker.input, Value.fill, Value.input]
      exact Comparison.operation known
        (trees.value left below first.noBlock fun node member =>
          allowed node (Or.inr (Or.inl member)))
        (trees.value right beyond second.noBlock fun node member =>
          allowed node (Or.inr (Or.inr member)))
  | .reporter command, wellFormed, _, allowed => by
      rw [Value.WellFormed] at wellFormed
      obtain ⟨stands, below⟩ := wellFormed
      simp only [Value.nodes, List.mem_cons] at allowed
      rw [Tracker.input, Value.fill, Value.input]
      have reported := trees.reporter command stands below fun node member =>
        allowed node (Or.inr member)
      exact trees.inner.sequence reported fun _ _ same => Comparison.valueOf same
  | .number _, _, _, _ | .word _, _, _, _ | .truth _, _, _, _ | .list _, _, _, _
  | .procedure _ _ _, _, _, _ => by
      rw [Tracker.input, Value.fill, Value.input]
      exact trees.inner.value rfl

/-- Inputs correspond along the slots of their primitive, which say what is a block. -/
theorem inputs (trees : Correspondence tracker deeper deeper' literal) :
    ∀ (slots : List Slot) (values : List Value), List.Forall₂ Slot.Holds slots values →
      ValuesWellFormed values → (∀ node ∈ nodesOfValues values, trees.allowed node) →
      InputsMatch (Input.Matches trees.inner trees.outer) slots (tracker.inputs deeper values)
        (inputsOf deeper' (fillValues literal values))
  | [], [], _, _, _ => by
      rw [Tracker.inputs, fillValues, inputsOf]
      exact .nil
  | .datum shape :: slots, value :: rest, .cons held others, wellFormed, allowed => by
      rw [ValuesWellFormed] at wellFormed
      simp only [nodesOfValues, List.mem_append] at allowed
      rw [Tracker.inputs, fillValues, inputsOf]
      refine .cons ?_ ?_
      · exact trees.value value wellFormed.1 held.1 fun node member =>
          allowed node (Or.inl member)
      · exact trees.inputs slots rest others wellFormed.2 fun node member =>
          allowed node (Or.inr member)
  | .block :: slots, .block commands :: rest, .cons _ others, wellFormed, allowed => by
      rw [ValuesWellFormed, Value.WellFormed] at wellFormed
      simp only [nodesOfValues, Value.nodes, List.mem_append, List.mem_cons] at allowed
      rw [Tracker.inputs, fillValues, inputsOf, Tracker.input, Value.fill, Value.input]
      refine .cons (fun _ => trees.outer.value ?_) ?_
      · exact trees.statements none commands wellFormed.1 fun node member =>
          allowed node (Or.inl (Or.inr member))
      · exact trees.inputs slots rest others wellFormed.2 fun node member =>
          allowed node (Or.inr member)

/-- Values in a row resolve alike. -/
theorem values (trees : Correspondence tracker deeper deeper' literal) :
    ∀ values : List Value, ValuesWellFormed values → (∀ value ∈ values, value.isBlock = false) →
      (∀ node ∈ nodesOfValues values, trees.allowed node) →
      trees.inner.relates Eq (resolveInputs (tracker.inputs deeper values))
        (resolveInputs (inputsOf deeper' (fillValues literal values)))
  | [], _, _, _ => by
      rw [Tracker.inputs, fillValues, inputsOf]
      exact trees.inner.value rfl
  | value :: rest, wellFormed, noBlocks, allowed => by
      rw [ValuesWellFormed] at wellFormed
      obtain ⟨noBlock, others⟩ := List.forall_mem_cons.mp noBlocks
      simp only [nodesOfValues, List.mem_append] at allowed
      rw [Tracker.inputs, fillValues, inputsOf]
      have first := trees.value value wellFormed.1 noBlock fun node member =>
        allowed node (Or.inl member)
      have second := trees.values rest wellFormed.2 others fun node member =>
        allowed node (Or.inr member)
      exact first.andThen fun _ => second.reported _

/-- A command in value position reports the same value. -/
theorem reporter (trees : Correspondence tracker deeper deeper' literal) :
    ∀ command : Command, command.IsReporter → command.WellFormed →
      (∀ node ∈ command.nodes, trees.allowed node) →
      trees.inner.relates SameReport (tracker.execute deeper command)
        ((command.fill literal).execute deeper')
  | .primitive primitive inputs origin, reports, wellFormed, allowed => by
      rw [Command.WellFormed] at wellFormed
      obtain ⟨-, held, below⟩ := wellFormed
      have here := allowed _ (Command.mem_nodes_self _)
      simp only [Command.nodes, List.mem_cons] at allowed
      rw [Command.fill, Command.execute]
      refine trees.report here reports ?_
      exact trees.inputs primitive.spec.slots inputs held below fun node member =>
        allowed node (Or.inr member)
  | .call name inputs asExpression origin, stands, wellFormed, allowed => by
      rw [Command.WellFormed] at wellFormed
      obtain rfl : asExpression = true := stands
      have here := allowed _ (Command.mem_nodes_self _)
      simp only [Command.nodes, List.mem_cons] at allowed
      rw [Command.fill]
      have resolved := trees.values inputs wellFormed.2 wellFormed.1 fun node member =>
        allowed node (Or.inr member)
      exact (trees.call here resolved).imp fun _ _ same => same.sameReport

/--
Statements that correspond do the same.  A reporter may stand as a statement
too; then its value is dropped.
-/
theorem statement (trees : Correspondence tracker deeper deeper' literal) :
    ∀ command : Command, command.WellFormed → (∀ node ∈ command.nodes, trees.allowed node) →
      trees.outer.relates Eq (tracker.execute deeper command)
        ((command.fill literal).execute deeper')
  | .primitive primitive inputs origin, wellFormed, allowed => by
      rw [Command.WellFormed] at wellFormed
      obtain ⟨-, held, below⟩ := wellFormed
      have here := allowed _ (Command.mem_nodes_self _)
      simp only [Command.nodes, List.mem_cons] at allowed
      rw [Command.fill, Command.execute]
      have matched := trees.inputs primitive.spec.slots inputs held below fun node member =>
        allowed node (Or.inr member)
      rcases reports : primitive.spec.reports with _ | _
      · exact trees.act here reports matched
      · exact trees.refines ((trees.report here reports matched).imp fun _ _ same => same.eq)
  | .define name parameters body origin, wellFormed, allowed => by
      rw [Command.WellFormed] at wellFormed
      rw [Command.fill]
      exact trees.define (allowed _ (Command.mem_nodes_self _)) wellFormed
  | .call name inputs asExpression origin, wellFormed, allowed => by
      rw [Command.WellFormed] at wellFormed
      have here := allowed _ (Command.mem_nodes_self _)
      simp only [Command.nodes, List.mem_cons] at allowed
      rw [Command.fill]
      have resolved := trees.values inputs wellFormed.2 wellFormed.1 fun node member =>
        allowed node (Or.inr member)
      exact trees.refines ((trees.call here resolved).imp fun _ _ same => same.1)

/-- Commands in a row do the same. -/
theorem statements (trees : Correspondence tracker deeper deeper' literal)
    (previous : Option Value) :
    ∀ commands : List Command, StatementsWellFormed commands →
      (∀ node ∈ nodesOf commands, trees.allowed node) →
      trees.outer.relates Eq (tracker.runFrom deeper previous commands)
        (runFrom deeper' previous (fillCommands literal commands))
  | [], _, _ => by
      rw [Tracker.runFrom, fillCommands, runFrom]
      exact trees.outer.value rfl
  | command :: rest, wellFormed, allowed => by
      rw [StatementsWellFormed] at wellFormed
      obtain ⟨-, first, others⟩ := wellFormed
      simp only [nodesOf, List.mem_append] at allowed
      rw [Tracker.runFrom, fillCommands, runFrom]
      have executed := trees.statement command first fun node member =>
        allowed node (Or.inl member)
      exact executed.andThen fun result => (trees.remember result).andThen fun _ =>
        trees.statements result rest others fun node member => allowed node (Or.inr member)

end

/-- A call corresponds in the way of expressions, wherever it stands. -/
theorem calls (trees : Correspondence tracker deeper deeper' literal) {name : String}
    {inputs : List Value} {asExpression : Bool} {origin : Origin}
    (wellFormed : (Command.call name inputs asExpression origin).WellFormed)
    (allowed : ∀ node ∈ (Command.call name inputs asExpression origin).nodes, trees.allowed node) :
    trees.inner.relates (SameAnswer asExpression)
      (tracker.execute deeper (.call name inputs asExpression origin))
      (((Command.call name inputs asExpression origin).fill literal).execute deeper') := by
  rw [Command.WellFormed] at wellFormed
  have here := allowed _ (Command.mem_nodes_self _)
  simp only [Command.nodes, List.mem_cons] at allowed
  rw [Command.fill]
  refine trees.call here ?_
  exact trees.values inputs wellFormed.2 wellFormed.1 fun node member =>
    allowed node (Or.inr member)

end Correspondence

end Logo
