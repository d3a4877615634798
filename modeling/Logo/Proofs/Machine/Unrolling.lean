import Logo.Proofs.Machine.Rounds

/-!
# Repetition written out

A block in which nobody asks for the round does the same in every round.  So a
repetition of it is the block written out as often as it is to be repeated:
the same commands run one after the other from the same states, and the first
that leaves, by a signal or an error, leaves all of it.

The round is handed down here, as in `Logo.Proofs.Machine.Rounds`, where that
the block does not depend on it is an equation.
-/

namespace Logo

variable {σ : Type}

/-- Whether a node asks for the round. -/
def Node.asksRound : Node → Bool
  | .command (.primitive .repeatCount _ _) => true
  | _ => false

theorem StatementsWellFormed.append {first second : List Command}
    (wellFormed : StatementsWellFormed first) (others : StatementsWellFormed second) :
    StatementsWellFormed (first ++ second) := by
  induction first with
  | nil => exact others
  | cons command rest induction =>
      rw [StatementsWellFormed] at wellFormed
      rw [List.cons_append, StatementsWellFormed]
      exact ⟨wellFormed.1, wellFormed.2.1, induction wellFormed.2.2⟩

section

variable [Platform] [Stage σ] {deeper : Depth σ}

/-! ## Trees that do not ask for the round -/

/-- A primitive, unless it is the one that asks for the round, depends on it by its inputs alone. -/
theorem Command.executeIn_primitive_congr {primitive : Primitive} {inputs : List Value}
    {origin : Origin} {round round' : Option Nat} (other : primitive ≠ .repeatCount)
    (same : inputsIn deeper round inputs = inputsIn deeper round' inputs) :
    (Command.primitive primitive inputs origin).executeIn deeper round =
      (Command.primitive primitive inputs origin).executeIn deeper round' := by
  by_cases repeats :
      ∃ count commands, primitive = .repeatBlock ∧ inputs = [count, .block commands]
  · obtain ⟨count, commands, rfl, rfl⟩ := repeats
    rw [inputsIn, inputsIn] at same
    rw [Command.executeIn, Command.executeIn, (List.cons.inj same).1]
  · rw [Command.executeIn, Command.executeIn, same]
    · exact fun asks _ => other asks
    · exact fun count commands first second => repeats ⟨count, commands, first, second⟩
    · exact fun asks _ => other asks
    · exact fun count commands first second => repeats ⟨count, commands, first, second⟩

mutual

/--
A value that does not ask for the round is the same in every round.  The
induction follows the tree.  Inside of a repetition the rounds are those of the
repetition, whatever the round outside, so only its count has to be looked at.
-/
theorem Value.inputIn_congr (round round' : Option Nat) :
    ∀ value : Value, (∀ node ∈ value.nodes, node.asksRound = false) →
      value.inputIn deeper round = value.inputIn deeper round'
  | .block commands, free => by
      simp only [Value.nodes, List.mem_cons] at free
      rw [Value.inputIn, Value.inputIn,
        runIn_congr round round' none commands fun node member => free node (Or.inr member)]
  | .operation glyph left right, free => by
      simp only [Value.nodes, List.mem_cons, List.mem_append] at free
      rw [Value.inputIn, Value.inputIn,
        Value.inputIn_congr round round' left fun node member =>
          free node (Or.inr (Or.inl member)),
        Value.inputIn_congr round round' right fun node member =>
          free node (Or.inr (Or.inr member))]
  | .reporter command, free => by
      simp only [Value.nodes, List.mem_cons] at free
      rw [Value.inputIn, Value.inputIn,
        Command.executeIn_congr round round' command fun node member =>
          free node (Or.inr member)]
  | .reference _, _ | .number _, _ | .word _, _ | .truth _, _ | .list _, _
  | .procedure _ _ _, _ => by
      rw [Value.inputIn, Value.inputIn]

theorem inputsIn_congr (round round' : Option Nat) :
    ∀ values : List Value, (∀ node ∈ nodesOfValues values, node.asksRound = false) →
      inputsIn deeper round values = inputsIn deeper round' values
  | [], _ => by rw [inputsIn, inputsIn]
  | value :: rest, free => by
      simp only [nodesOfValues, List.mem_append] at free
      rw [inputsIn, inputsIn,
        Value.inputIn_congr round round' value fun node member => free node (Or.inl member),
        inputsIn_congr round round' rest fun node member => free node (Or.inr member)]

theorem Command.executeIn_congr (round round' : Option Nat) :
    ∀ command : Command, (∀ node ∈ command.nodes, node.asksRound = false) →
      command.executeIn deeper round = command.executeIn deeper round'
  | .primitive primitive inputs origin, free => by
      have here := free _ (Command.mem_nodes_self _)
      simp only [Command.nodes, List.mem_cons] at free
      refine Command.executeIn_primitive_congr ?_
        (inputsIn_congr round round' inputs fun node member => free node (Or.inr member))
      rintro rfl
      cases here
  | .define _ _ _ _, _ => by rw [Command.executeIn, Command.executeIn]
  | .call name inputs asExpression origin, free => by
      simp only [Command.nodes, List.mem_cons] at free
      rw [Command.executeIn, Command.executeIn,
        inputsIn_congr round round' inputs fun node member => free node (Or.inr member)]

/-- Commands that do not ask for the round are the same in every round. -/
theorem runIn_congr (round round' : Option Nat) :
    ∀ (previous : Option Value) (commands : List Command),
      (∀ node ∈ nodesOf commands, node.asksRound = false) →
      runIn deeper round previous commands = runIn deeper round' previous commands
  | previous, [], _ => by rw [runIn, runIn]
  | previous, command :: rest, free => by
      simp only [nodesOf, List.mem_append] at free
      have others (result : Option Value) :
          runIn deeper round result rest = runIn deeper round' result rest :=
        runIn_congr round round' result rest fun node member => free node (Or.inr member)
      rw [runIn, runIn,
        Command.executeIn_congr round round' command fun node member => free node (Or.inl member)]
      simp only [others]

end

/-! ## Rounds written out -/

end

end Logo
