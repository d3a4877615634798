import Logo.Proofs.Program.Nodes

/-!
# Paths through a tree

A path leads from a node of a tree to another one below it; each step of the
path is the index of the part where it goes on.  Parts are all that a node is
made of, the items of lists as well, so nothing in a tree is out of reach.

A walk through a tree comes to every place once, to a node before its parts and
to the parts in the order in which they are written.  On paths this is the order
of words in a dictionary: a path comes before its continuations, and otherwise
the first step in which two paths differ decides.
-/

namespace Logo

namespace Node

/-! ## Parts -/

/-- Everything right below a node, also what lists and procedures are made of. -/
def parts : Node → List Node
  | .value (.list items) => items.map .value
  | .value (.procedure _ _ body) => body.map .command
  | node => node.children

theorem sizeOf_le_of_mem_values {node : Node} {values : List Value}
    (member : node ∈ values.map .value) : sizeOf node ≤ sizeOf values := by
  obtain ⟨tree, inside, rfl⟩ := List.mem_map.mp member
  have smaller := List.sizeOf_lt_of_mem inside
  rw [value.sizeOf_spec]
  omega

theorem sizeOf_le_of_mem_commands {node : Node} {commands : List Command}
    (member : node ∈ commands.map .command) : sizeOf node ≤ sizeOf commands := by
  obtain ⟨tree, inside, rfl⟩ := List.mem_map.mp member
  have smaller := List.sizeOf_lt_of_mem inside
  rw [command.sizeOf_spec]
  omega

/-- A child is smaller than its parent. -/
theorem sizeOf_lt_of_mem_children {node child : Node} (member : child ∈ node.children) :
    sizeOf child < sizeOf node := by
  unfold children at member
  split at member
  · have small := sizeOf_le_of_mem_commands member
    simp only [value.sizeOf_spec, Value.block.sizeOf_spec]
    omega
  · rcases List.mem_pair.mp member with rfl | rfl <;>
      simp only [value.sizeOf_spec, Value.operation.sizeOf_spec] <;> omega
  · obtain rfl := List.mem_singleton.mp member
    simp only [value.sizeOf_spec, command.sizeOf_spec, Value.reporter.sizeOf_spec]
    omega
  · cases member
  · have small := sizeOf_le_of_mem_values member
    simp only [command.sizeOf_spec, Command.primitive.sizeOf_spec]
    omega
  · have small := sizeOf_le_of_mem_commands member
    simp only [command.sizeOf_spec, Command.define.sizeOf_spec]
    omega
  · have small := sizeOf_le_of_mem_values member
    simp only [command.sizeOf_spec, Command.call.sizeOf_spec]
    omega

theorem sizeOf_lt_of_mem_parts {node part : Node} (member : part ∈ node.parts) :
    sizeOf part < sizeOf node := by
  unfold parts at member
  split at member
  · have small := sizeOf_le_of_mem_values member
    simp only [value.sizeOf_spec, Value.list.sizeOf_spec]
    omega
  · have small := sizeOf_le_of_mem_commands member
    simp only [value.sizeOf_spec, Value.procedure.sizeOf_spec]
    omega
  · exact sizeOf_lt_of_mem_children member

/-- What holds of a node as soon as it holds of its parts holds of every node. -/
theorem of_parts {holds : Node → Prop}
    (step : ∀ node, (∀ part ∈ node.parts, holds part) → holds node) (node : Node) : holds node :=
  step node fun part _ => of_parts step part
termination_by sizeOf node
decreasing_by exact sizeOf_lt_of_mem_parts ‹_›

/-! ## Walks -/

/-- The node at the end of a path. -/
def at? : Node → List Nat → Option Node
  | node, [] => some node
  | node, index :: path => node.parts[index]?.bind fun part => part.at? path

end Node

/-- A node of a tree, and the path that leads there. -/
structure Location where
  path : List Nat
  node : Node

/-- A location in a part of a tree, as a location in the tree. -/
def Location.within (index : Nat) (location : Location) : Location :=
  ⟨index :: location.path, location.node⟩

namespace Node

/-- All locations in a tree, in the order of a walk that comes to a node before its parts. -/
def walk (node : Node) : List Location :=
  ⟨[], node⟩ :: node.parts.attach.zipIdx.flatMap fun part => part.1.1.walk.map (.within part.2)
termination_by sizeOf node
decreasing_by exact sizeOf_lt_of_mem_parts part.1.2

/-- A walk comes to a node, and then to its parts one after the other. -/
theorem walk_eq (node : Node) :
    node.walk =
      ⟨[], node⟩ :: node.parts.zipIdx.flatMap fun part => part.1.walk.map (.within part.2) := by
  have same : node.parts.zipIdx = node.parts.attach.zipIdx.map fun part => (part.1.1, part.2) := by
    conv_lhs => rw [← List.attach_map_subtype_val node.parts, List.zipIdx_map]
    rfl
  rw [walk, same, List.flatMap_map]

theorem nil_mem_walk {node below : Node} : ⟨[], below⟩ ∈ node.walk ↔ node = below := by
  rw [walk_eq, List.mem_cons, List.mem_flatMap]
  constructor
  · rintro (here | ⟨part, -, inside⟩)
    · cases here
      rfl
    · obtain ⟨_, -, same⟩ := List.mem_map.mp inside
      cases same
  · rintro rfl
    exact .inl rfl

/-- A path begins with the index of a part, and goes on inside of that part. -/
theorem cons_mem_walk {node below : Node} {index : Nat} {path : List Nat} :
    ⟨index :: path, below⟩ ∈ node.walk ↔
      ∃ part, node.parts[index]? = some part ∧ ⟨path, below⟩ ∈ part.walk := by
  rw [walk_eq, List.mem_cons, List.mem_flatMap]
  constructor
  · rintro (here | ⟨⟨part, place⟩, member, inside⟩)
    · cases here
    · obtain ⟨_, below, same⟩ := List.mem_map.mp inside
      cases same
      exact ⟨part, List.mem_zipIdx_iff_getElem?.mp member, below⟩
  · rintro ⟨part, here, inside⟩
    refine .inr ⟨(part, index), List.mem_zipIdx_iff_getElem?.mpr here, ?_⟩
    exact List.mem_map.mpr ⟨_, inside, rfl⟩

/-- A walk comes to what paths lead to, and to nothing else. -/
theorem mem_walk_iff {node below : Node} {path : List Nat} :
    ⟨path, below⟩ ∈ node.walk ↔ node.at? path = some below := by
  induction path generalizing node with
  | nil => rw [nil_mem_walk, at?, Option.some.injEq]
  | cons index path induction =>
      rw [cons_mem_walk, at?, Option.bind_eq_some_iff]
      exact exists_congr fun part => and_congr_right fun _ => induction

/--
A walk goes along the order of paths, and so comes to no place twice.  Between
two parts the first step decides, however far the paths go on.
-/
theorem walk_ordered (node : Node) :
    node.walk.Pairwise fun earlier later => earlier.path < later.path := by
  induction node using of_parts with
  | step node induction =>
      rw [walk_eq]
      refine .cons ?_ (List.pairwise_flatMap.mpr ⟨?_, ?_⟩)
      · intro location member
        obtain ⟨part, -, inside⟩ := List.mem_flatMap.mp member
        obtain ⟨below, -, rfl⟩ := List.mem_map.mp inside
        exact List.nil_lt_cons ..
      · intro part member
        have ordered := induction part.1 (List.fst_mem_of_mem_zipIdx member)
        refine List.pairwise_map.mpr (ordered.imp fun before => ?_)
        exact List.cons_lt_cons_iff.mpr (.inr ⟨rfl, before⟩)
      · have indices : (node.parts.zipIdx.map Prod.snd).Pairwise (· < ·) := by
          rw [List.zipIdx_map_snd]
          exact List.pairwise_lt_range' 1
        refine (List.pairwise_map.mp indices).imp fun before first inFirst second inSecond => ?_
        obtain ⟨_, -, rfl⟩ := List.mem_map.mp inFirst
        obtain ⟨_, -, rfl⟩ := List.mem_map.mp inSecond
        exact List.cons_lt_cons_iff.mpr (.inl before)

/-- What comes after a location in a walk is what has a later path. -/
theorem mem_after_iff {node : Node} {before after : List Location} {location later : Location}
    (split : node.walk = before ++ location :: after) :
    later ∈ after ↔ later ∈ node.walk ∧ location.path < later.path := by
  have ordered := node.walk_ordered
  rw [split] at ordered ⊢
  obtain ⟨-, rest, earlier⟩ := List.pairwise_append.mp ordered
  constructor
  · intro member
    exact ⟨by simp [member], List.rel_of_pairwise_cons rest member⟩
  · rintro ⟨member, behind⟩
    rcases List.mem_append.mp member with first | next
    · have ahead := earlier later first location (List.mem_cons_self ..)
      exact absurd behind (List.lt_asymm ahead)
    · rcases List.mem_cons.mp next with rfl | others
      · exact absurd behind (List.lt_irrefl _)
      · exact others

end Node

/-! ## Walks through well-formed trees -/

theorem Value.IsItem.wellFormed {item : Value} (isItem : item.IsItem) : item.WellFormed := by
  cases item with
  | number | word => trivial
  | list items => exact isItem
  | truth | block | reference | operation | reporter | procedure => exact absurd isItem id

theorem Value.IsItem.nodes_eq {item : Value} (isItem : item.IsItem) :
    item.nodes = [.value item] := by
  cases item with
  | number | word | list => rw [Value.nodes]
  | truth | block | reference | operation | reporter | procedure => exact absurd isItem id

theorem itemsWellFormed_iff {items : List Value} :
    ItemsWellFormed items ↔ ∀ item ∈ items, item.IsItem := by
  induction items with
  | nil => simp [ItemsWellFormed]
  | cons item rest induction => simp [ItemsWellFormed, induction]

theorem nodesOfValues_eq_flatMap (values : List Value) :
    nodesOfValues values = (values.map .value).flatMap Node.nodes := by
  induction values with
  | nil => rfl
  | cons value rest induction =>
      rw [nodesOfValues, induction, List.map_cons, List.flatMap_cons, Node.nodes]

theorem nodesOf_eq_flatMap (commands : List Command) :
    nodesOf commands = (commands.map .command).flatMap Node.nodes := by
  induction commands with
  | nil => rfl
  | cons command rest induction =>
      rw [nodesOf, induction, List.map_cons, List.flatMap_cons, Node.nodes]

namespace Node

/-- The nodes of a node are itself and those of its children. -/
theorem nodes_eq_cons (node : Node) : node.nodes = node :: node.children.flatMap Node.nodes := by
  cases node with
  | value tree =>
      cases tree with
      | block commands => simp [Node.nodes, Value.nodes, children, nodesOf_eq_flatMap]
      | operation glyph left right => simp [Node.nodes, Value.nodes, children]
      | reporter command => simp [Node.nodes, Value.nodes, children]
      | number | word | truth | list | reference | procedure =>
          simp [Node.nodes, Value.nodes, children]
  | command tree =>
      cases tree with
      | primitive known inputs origin =>
          simp [Node.nodes, Command.nodes, children, nodesOfValues_eq_flatMap]
      | define name parameters body origin =>
          simp [Node.nodes, Command.nodes, children, nodesOf_eq_flatMap]
      | call name inputs asExpression origin =>
          simp [Node.nodes, Command.nodes, children, nodesOfValues_eq_flatMap]

theorem wellFormed_of_mem_parts {node part : Node} (wellFormed : node.WellFormed)
    (member : part ∈ node.parts) : part.WellFormed := by
  unfold parts at member
  split at member
  · obtain ⟨item, inside, rfl⟩ := List.mem_map.mp member
    exact (itemsWellFormed_iff.mp wellFormed item inside).wellFormed
  · exact absurd wellFormed id
  · exact passesDown_wellFormed node wellFormed part member

section

variable {α : Type} {own : Node → Option α} (plain : ∀ value, own (.value value) = none)
include plain

/-- Lists hold no commands, so what commands have to give is found without looking into lists. -/
theorem filterMap_nodes_eq_append {node : Node} (wellFormed : node.WellFormed) :
    node.nodes.filterMap own =
      (own node).toList ++ node.parts.flatMap fun part => part.nodes.filterMap own := by
  have children : node.nodes.filterMap own =
      (own node).toList ++ node.children.flatMap fun child => child.nodes.filterMap own := by
    rw [nodes_eq_cons, List.filterMap_cons, List.filterMap_flatMap]
    cases own node <;> rfl
  rw [children]
  unfold parts
  split
  · rename_i items
    refine congrArg _ (Eq.symm (List.flatMap_eq_nil_iff.mpr fun part member => ?_))
    obtain ⟨item, inside, rfl⟩ := List.mem_map.mp member
    rw [Node.nodes, (itemsWellFormed_iff.mp wellFormed item inside).nodes_eq]
    exact List.filterMap_cons_none (plain item)
  · exact absurd wellFormed id
  · rfl

/-- What the commands of a well-formed tree have to give, in the order of a walk. -/
theorem filterMap_walk {node : Node} (wellFormed : node.WellFormed) :
    node.walk.filterMap (fun location => own location.node) = node.nodes.filterMap own := by
  induction node using of_parts with
  | step node induction =>
      have below : ∀ part ∈ node.parts.zipIdx,
          (part.1.walk.map (Location.within part.2)).filterMap (fun location => own location.node) =
            part.1.nodes.filterMap own := by
        intro part member
        have inside := List.fst_mem_of_mem_zipIdx member
        rw [List.filterMap_map]
        exact induction part.1 inside (wellFormed_of_mem_parts wellFormed inside)
      have parts : node.parts.zipIdx.flatMap (fun part => part.1.nodes.filterMap own) =
          node.parts.flatMap fun part => part.nodes.filterMap own := by
        conv_rhs => rw [← List.zipIdx_map_fst 0 node.parts, List.flatMap_map]
      rw [walk_eq, filterMap_nodes_eq_append plain wellFormed, List.filterMap_cons,
        List.filterMap_flatMap, List.flatMap_congr below, parts]
      cases own node <;> rfl

end

end Node

end Logo
