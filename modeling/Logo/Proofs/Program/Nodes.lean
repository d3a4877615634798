import Logo.Proofs.Program.WellFormed

/-!
# The nodes of a tree

Statements about every place in a program are statements about the nodes of
its tree.  A node is a value or a command with all that is below it.  What
holds of a node, and passes from any node on to the nodes right below, holds of
all nodes below; so a fact about nodes is shown by looking at one step down.
-/

namespace Logo

/-- A node of a tree. -/
inductive Node where
  | value (value : Value)
  | command (command : Command)

/-- The tree below a node is well formed. -/
def Node.WellFormed : Node → Prop
  | .value tree => tree.WellFormed
  | .command tree => tree.WellFormed

/-- The procedure that a node defines, if it defines one. -/
def Node.procedure? : Node → Option Procedure
  | .command (.define name parameters body _) => some ⟨name, parameters, body⟩
  | _ => none

/-- The nodes right below a node.  What a list is made of is data and has no nodes. -/
def Node.children : Node → List Node
  | .value (.block commands) => commands.map .command
  | .value (.operation _ left right) => [.value left, .value right]
  | .value (.reporter reported) => [.command reported]
  | .value _ => []
  | .command (.primitive _ inputs _) => inputs.map .value
  | .command (.define _ _ body _) => body.map .command
  | .command (.call _ inputs _ _) => inputs.map .value

mutual

/-- A value and all nodes below it.  What a list is made of is data and has no nodes. -/
def Value.nodes : Value → List Node
  | .block commands => .value (.block commands) :: nodesOf commands
  | .operation glyph left right =>
      .value (.operation glyph left right) :: (left.nodes ++ right.nodes)
  | .reporter command => .value (.reporter command) :: command.nodes
  | .reference name => [.value (.reference name)]
  | .number value => [.value (.number value)]
  | .word text => [.value (.word text)]
  | .truth value => [.value (.truth value)]
  | .list items => [.value (.list items)]
  | .procedure name parameters body => [.value (.procedure name parameters body)]

/-- The nodes of values in a row. -/
def nodesOfValues : List Value → List Node
  | [] => []
  | value :: rest => value.nodes ++ nodesOfValues rest

/-- A command and all nodes below it. -/
def Command.nodes : Command → List Node
  | .primitive known inputs origin =>
      .command (.primitive known inputs origin) :: nodesOfValues inputs
  | .define name parameters body origin =>
      .command (.define name parameters body origin) :: nodesOf body
  | .call name inputs asExpression origin =>
      .command (.call name inputs asExpression origin) :: nodesOfValues inputs

/-- The nodes of commands in a row. -/
def nodesOf : List Command → List Node
  | [] => []
  | command :: rest => command.nodes ++ nodesOf rest

end

/-- A node and all nodes below it. -/
def Node.nodes : Node → List Node
  | .value tree => tree.nodes
  | .command tree => tree.nodes

theorem Value.mem_nodes_self (value : Value) : .value value ∈ value.nodes := by
  cases value <;> simp [Value.nodes]

theorem Command.mem_nodes_self (command : Command) : .command command ∈ command.nodes := by
  cases command <;> simp [Command.nodes]

theorem mem_nodesOfValues {node : Node} {values : List Value} :
    node ∈ nodesOfValues values ↔ ∃ value ∈ values, node ∈ value.nodes := by
  induction values with
  | nil => simp [nodesOfValues]
  | cons value rest induction => simp [nodesOfValues, induction]

/-- The nodes of commands are those of each of them. -/
theorem mem_nodesOf {node : Node} {commands : List Command} :
    node ∈ nodesOf commands ↔ ∃ command ∈ commands, node ∈ command.nodes := by
  induction commands with
  | nil => simp [nodesOf]
  | cons command rest induction => simp [nodesOf, induction]

/-- Something about nodes that passes from each node on to the nodes right below it. -/
def Node.PassesDown (holds : Node → Prop) : Prop :=
  ∀ node, holds node → ∀ child ∈ node.children, holds child

namespace Node.PassesDown

variable {holds : Node → Prop}

mutual

/-- What passes down from node to node holds of all nodes of a value. -/
theorem value (passes : PassesDown holds) :
    ∀ value : Value, holds (.value value) → ∀ node ∈ value.nodes, holds node
  | .block commands, here, node, member => by
      rw [Value.nodes] at member
      rcases List.mem_cons.mp member with rfl | below
      · exact here
      · refine passes.commands commands (fun command inside => ?_) node below
        exact passes _ here _ (List.mem_map_of_mem inside)
  | .operation _ left right, here, node, member => by
      rw [Value.nodes] at member
      rcases List.mem_cons.mp member with rfl | below
      · exact here
      · rcases List.mem_append.mp below with inLeft | inRight
        · exact passes.value left (passes _ here _ (by simp [Node.children])) node inLeft
        · exact passes.value right (passes _ here _ (by simp [Node.children])) node inRight
  | .reporter command, here, node, member => by
      rw [Value.nodes] at member
      rcases List.mem_cons.mp member with rfl | below
      · exact here
      · exact passes.command command (passes _ here _ (by simp [Node.children])) node below
  | .reference _, here, node, member | .number _, here, node, member
  | .word _, here, node, member | .truth _, here, node, member
  | .list _, here, node, member | .procedure _ _ _, here, node, member => by
      rw [Value.nodes] at member
      obtain rfl := List.mem_singleton.mp member
      exact here

theorem values (passes : PassesDown holds) :
    ∀ values : List Value, (∀ value ∈ values, holds (.value value)) →
      ∀ node ∈ nodesOfValues values, holds node
  | [], _, node, member => by
      rw [nodesOfValues] at member
      cases member
  | value :: rest, here, node, member => by
      rw [nodesOfValues] at member
      obtain ⟨first, others⟩ := List.forall_mem_cons.mp here
      rcases List.mem_append.mp member with inFirst | inRest
      · exact passes.value value first node inFirst
      · exact passes.values rest others node inRest

/-- It holds of all nodes of a command. -/
theorem command (passes : PassesDown holds) :
    ∀ command : Command, holds (.command command) → ∀ node ∈ command.nodes, holds node
  | .primitive _ inputs _, here, node, member | .call _ inputs _ _, here, node, member => by
      rw [Command.nodes] at member
      rcases List.mem_cons.mp member with rfl | below
      · exact here
      · refine passes.values inputs (fun value inside => ?_) node below
        exact passes _ here _ (List.mem_map_of_mem inside)
  | .define _ _ body _, here, node, member => by
      rw [Command.nodes] at member
      rcases List.mem_cons.mp member with rfl | below
      · exact here
      · refine passes.commands body (fun command inside => ?_) node below
        exact passes _ here _ (List.mem_map_of_mem inside)

theorem commands (passes : PassesDown holds) :
    ∀ commands : List Command, (∀ command ∈ commands, holds (.command command)) →
      ∀ node ∈ nodesOf commands, holds node
  | [], _, node, member => by
      rw [nodesOf] at member
      cases member
  | command :: rest, here, node, member => by
      rw [nodesOf] at member
      obtain ⟨first, others⟩ := List.forall_mem_cons.mp here
      rcases List.mem_append.mp member with inFirst | inRest
      · exact passes.command command first node inFirst
      · exact passes.commands rest others node inRest

end

end Node.PassesDown

/-! ## Nodes of nodes -/

/-- The nodes of a part are nodes of the whole. -/
theorem Node.nodes_subset_of_mem_children {node child : Node} (member : child ∈ node.children) :
    child.nodes ⊆ node.nodes := by
  intro below inside
  unfold Node.children at member
  split at member
  · obtain ⟨command, inBlock, rfl⟩ := List.mem_map.mp member
    rw [Node.nodes, Value.nodes]
    exact List.mem_cons_of_mem _ (mem_nodesOf.mpr ⟨command, inBlock, inside⟩)
  · rw [Node.nodes, Value.nodes]
    refine List.mem_cons_of_mem _ (List.mem_append.mpr ?_)
    rcases List.mem_pair.mp member with rfl | rfl
    · exact Or.inl inside
    · exact Or.inr inside
  · rw [Node.nodes, Value.nodes]
    obtain rfl := List.mem_singleton.mp member
    exact List.mem_cons_of_mem _ inside
  · cases member
  · obtain ⟨value, input, rfl⟩ := List.mem_map.mp member
    rw [Node.nodes, Command.nodes]
    exact List.mem_cons_of_mem _ (mem_nodesOfValues.mpr ⟨value, input, inside⟩)
  · obtain ⟨command, inBody, rfl⟩ := List.mem_map.mp member
    rw [Node.nodes, Command.nodes]
    exact List.mem_cons_of_mem _ (mem_nodesOf.mpr ⟨command, inBody, inside⟩)
  · obtain ⟨value, input, rfl⟩ := List.mem_map.mp member
    rw [Node.nodes, Command.nodes]
    exact List.mem_cons_of_mem _ (mem_nodesOfValues.mpr ⟨value, input, inside⟩)

/-- The nodes of a node of a tree are nodes of the tree. -/
theorem nodes_subset_of_mem_nodesOf {node : Node} {commands : List Command}
    (member : node ∈ nodesOf commands) : node.nodes ⊆ nodesOf commands := by
  have passes : Node.PassesDown fun node => node.nodes ⊆ nodesOf commands :=
    fun node inside child below =>
      List.Subset.trans (Node.nodes_subset_of_mem_children below) inside
  refine passes.commands commands (fun command inside below found => ?_) node member
  exact mem_nodesOf.mpr ⟨command, inside, found⟩

/-! ## Well-formed nodes -/

theorem valuesWellFormed_iff {values : List Value} :
    ValuesWellFormed values ↔ ∀ value ∈ values, value.WellFormed := by
  induction values with
  | nil => simp [ValuesWellFormed]
  | cons value rest induction => simp [ValuesWellFormed, induction]

theorem StatementsWellFormed.wellFormed {commands : List Command}
    (wellFormed : StatementsWellFormed commands) : ∀ command ∈ commands, command.WellFormed := by
  induction commands with
  | nil => simp
  | cons command rest induction =>
      rw [StatementsWellFormed] at wellFormed
      exact List.forall_mem_cons.mpr ⟨wellFormed.2.1, induction wellFormed.2.2⟩

/-- To be well formed passes down. -/
theorem Node.passesDown_wellFormed : Node.PassesDown Node.WellFormed := by
  intro node wellFormed child member
  unfold Node.children at member
  split at member
  · rw [Node.WellFormed, Value.WellFormed] at wellFormed
    obtain ⟨command, inside, rfl⟩ := List.mem_map.mp member
    exact wellFormed.wellFormed command inside
  · rw [Node.WellFormed, Value.WellFormed] at wellFormed
    rcases List.mem_pair.mp member with rfl | rfl
    · exact wellFormed.2.2.2.1
    · exact wellFormed.2.2.2.2
  · rw [Node.WellFormed, Value.WellFormed] at wellFormed
    obtain rfl := List.mem_singleton.mp member
    exact wellFormed.2
  · cases member
  · rw [Node.WellFormed, Command.WellFormed] at wellFormed
    obtain ⟨value, inside, rfl⟩ := List.mem_map.mp member
    exact valuesWellFormed_iff.mp wellFormed.2.2 value inside
  · rw [Node.WellFormed, Command.WellFormed] at wellFormed
    obtain ⟨command, inside, rfl⟩ := List.mem_map.mp member
    exact wellFormed.wellFormed command inside
  · rw [Node.WellFormed, Command.WellFormed] at wellFormed
    obtain ⟨value, inside, rfl⟩ := List.mem_map.mp member
    exact valuesWellFormed_iff.mp wellFormed.2 value inside

/-- Every node of a well-formed tree is well formed. -/
theorem wellFormed_of_mem_nodesOf (commands : List Command)
    (wellFormed : StatementsWellFormed commands) :
    ∀ node ∈ nodesOf commands, node.WellFormed :=
  Node.passesDown_wellFormed.commands commands wellFormed.wellFormed

end Logo
