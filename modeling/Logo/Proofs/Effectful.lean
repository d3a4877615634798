/-!
# Programs with effects

A program over a state may change the state and may end in an exit.  The
state survives the exit.  This module says how such programs run, piece by
piece, and gives the rules for two kinds of statements about one program: that
it never ends in a given exit, and that every run moves the state along some
relation.
-/

namespace Logo

/-- Programs that change a state and may end in an exit; the state survives the exit. -/
abbrev Effectful (ε state : Type) := ExceptT ε (StateM state)

namespace Effectful

variable {ε state α β : Type}

@[simp]
theorem run_pure (value : α) (before : state) :
    (pure value : Effectful ε state α).run before = (.ok value, before) :=
  rfl

@[simp]
theorem run_throw (exit : ε) (before : state) :
    (throw exit : Effectful ε state α).run before = (.error exit, before) :=
  rfl

@[simp]
theorem run_get (before : state) :
    (get : Effectful ε state state).run before = (.ok before, before) :=
  rfl

@[simp]
theorem run_modify (change : state → state) (before : state) :
    (modify change : Effectful ε state Unit).run before = (.ok (), change before) :=
  rfl

@[simp]
theorem run_modifyGet (change : state → α × state) (before : state) :
    (modifyGet change : Effectful ε state α).run before =
      (.ok (change before).1, (change before).2) :=
  rfl

/-- A program in sequence runs its second part only if the first gave a value. -/
theorem run_bind (first : Effectful ε state α) (rest : α → Effectful ε state β)
    (before : state) :
    (first >>= rest).run before =
      match first.run before with
      | (.ok value, after) => (rest value).run after
      | (.error exit, after) => (.error exit, after) := by
  change (ExceptT.bindCont rest (first.run before).1) (first.run before).2 = _
  rcases first.run before with ⟨exit | value, after⟩ <;> rfl

/-- What follows an action that gave a value starts from there. -/
theorem run_bind_ok {first : Effectful ε state α} {rest : α → Effectful ε state β}
    {before after : state} {value : α} (gave : first.run before = (.ok value, after)) :
    (first >>= rest).run before = (rest value).run after := by
  rw [run_bind, gave]

/-- Nothing follows an exit. -/
theorem run_bind_error {first : Effectful ε state α} {rest : α → Effectful ε state β}
    {before after : state} {exit : ε} (left : first.run before = (.error exit, after)) :
    (first >>= rest).run before = (.error exit, after) := by
  rw [run_bind, left]

/-- A value is given at last if all actions have given theirs. -/
theorem run_bind_eq_ok_iff {first : Effectful ε state α} {rest : α → Effectful ε state β}
    {before after : state} {result : β} :
    (first >>= rest).run before = (.ok result, after) ↔
      ∃ value middle, first.run before = (.ok value, middle) ∧
        (rest value).run middle = (.ok result, after) := by
  rw [run_bind]
  rcases first.run before with ⟨exit | value, middle⟩
  · constructor
    · intro ended
      cases ended
    · rintro ⟨_, _, gave, _⟩
      cases gave
  · constructor
    · intro ended
      exact ⟨value, middle, rfl, ended⟩
    · rintro ⟨_, _, gave, ended⟩
      cases gave
      exact ended

/-- A program with a handler runs the handler only after an exit. -/
theorem run_tryCatch (action : Effectful ε state α) (handler : ε → Effectful ε state α)
    (before : state) :
    (tryCatch action handler).run before =
      match action.run before with
      | (.ok value, after) => (.ok value, after)
      | (.error exit, after) => (handler exit).run after := by
  change
    (match (action.run before).1 with
      | .ok value => (pure (.ok value) : StateM state (Except ε α))
      | .error exit => handler exit) (action.run before).2 = _
  rcases action.run before with ⟨exit | value, after⟩ <;> rfl

end Effectful

/-! ## Actions that never end in a given way -/

/-- An action never ends in a given exit. -/
def Effectful.Spares {ε state α : Type} (exit : ε) (action : Effectful ε state α) : Prop :=
  ∀ before, (action.run before).1 ≠ .error exit

namespace Effectful.Spares

variable {ε state α β : Type} {exit : ε}

theorem change (change : state → state) : Spares exit (modify change : Effectful ε state Unit) := by
  intro before ended
  cases ended

theorem look : Spares exit (get : Effectful ε state state) := by
  intro before ended
  cases ended

/-- To exit in another way is to be spared this one. -/
theorem throw {cause : ε} (other : cause ≠ exit) :
    Spares exit (throw cause : Effectful ε state α) := by
  intro before ended
  cases ended
  exact other rfl

/-- An exit that neither of two actions takes is not taken by both in a row. -/
theorem sequence {first : Effectful ε state α} {rest : α → Effectful ε state β}
    (spares : Spares exit first) (others : ∀ value, Spares exit (rest value)) :
    Spares exit (first >>= rest) := by
  intro before
  rw [Effectful.run_bind]
  rcases ran : first.run before with ⟨cause | value, after⟩
  · intro ended
    cases ended
    exact spares before (congrArg Prod.fst ran)
  · exact others value after

end Effectful.Spares

/-! ## Programs that move the state along a relation -/

/-- However a run of the program ends, the state after it is related to the state before. -/
def Effectful.Moves {ε state α : Type} (along : state → state → Prop)
    (action : Effectful ε state α) : Prop :=
  ∀ before, along before (action.run before).2

namespace Effectful.Moves

variable {ε state α β : Type} {along : state → state → Prop}

theorem value (reflexive : ∀ state, along state state) (result : α) :
    Moves along (pure result : Effectful ε state α) := by
  intro before
  exact reflexive before

theorem look (reflexive : ∀ state, along state state) :
    Moves along (get : Effectful ε state state) := by
  intro before
  exact reflexive before

/-- Where each action moves along a transitive relation, so do both in a row. -/
theorem sequence {first : Effectful ε state α} {rest : α → Effectful ε state β}
    (transitive : ∀ {before between after}, along before between → along between after →
      along before after)
    (moves : Moves along first) (others : ∀ value, Moves along (rest value)) :
    Moves along (first >>= rest) := by
  intro before
  rw [Effectful.run_bind]
  have moved := moves before
  rcases ran : first.run before with ⟨exit | value, after⟩
  · rw [ran] at moved
    exact moved
  · rw [ran] at moved
    exact transitive moved (others value after)

end Effectful.Moves

end Logo
