import Logo.Proofs.Effectful

/-!
# The conduct of programs

A conduct says what is asked of programs with effects: what must hold between
actions, how the state may move, and which exits may be taken in which state.
A program keeps to a conduct if it does so from every state in which it may be
started, and it then gives a value of which something good is known.

Programs that are put together from programs that keep to a conduct keep to it
as well.  So a property of all runs is shown by naming a conduct and looking
at the places where the state is touched and at those where an exit is taken.
-/

namespace Logo

/-- What is asked of programs with effects. -/
structure Conduct (ε state : Type) where
  /-- What holds wherever a program may be started. -/
  holds : state → Prop
  /-- How the state may move, however a program ends. -/
  moves : state → state → Prop
  /-- The exits that may be taken, each with the state that it leaves behind. -/
  leaves : ε → state → Prop
  refl : ∀ state, moves state state
  trans : ∀ {first second third}, moves first second → moves second third → moves first third

namespace Conduct

variable {ε state α β : Type}

/-- Whether an end is in order: a good value in a good state, or an exit that may be taken. -/
def Ends (conduct : Conduct ε state) (good : α → Prop) : Except ε α × state → Prop
  | (.ok value, after) => good value ∧ conduct.holds after
  | (.error exit, after) => conduct.leaves exit after

/-- A program keeps to the conduct when it is started in a given state. -/
def GivesAt (conduct : Conduct ε state) (good : α → Prop) (action : Effectful ε state α)
    (before : state) : Prop :=
  conduct.moves before (action.run before).2 ∧ conduct.Ends good (action.run before)

/-- A program keeps to the conduct, and gives only good values. -/
def Gives (conduct : Conduct ε state) (good : α → Prop) (action : Effectful ε state α) : Prop :=
  ∀ before, conduct.holds before → conduct.GivesAt good action before

/-- A program keeps to the conduct, whatever it gives. -/
abbrev Keeps (conduct : Conduct ε state) (action : Effectful ε state α) : Prop :=
  conduct.Gives (fun _ => True) action

variable {conduct : Conduct ε state} {good : α → Prop} {better : β → Prop}

/-- A program in sequence starts its second part where the first gave a value. -/
theorem GivesAt.sequence {first : Effectful ε state α} {rest : α → Effectful ε state β}
    {before : state} (gives : conduct.GivesAt good first before)
    (others : ∀ value after, first.run before = (.ok value, after) → good value →
      conduct.holds after → conduct.GivesAt better (rest value) after) :
    conduct.GivesAt better (first >>= rest) before := by
  obtain ⟨moved, ended⟩ := gives
  rw [GivesAt, Effectful.run_bind]
  rcases ran : first.run before with ⟨exit | value, after⟩
  · rw [ran] at moved ended
    exact ⟨moved, ended⟩
  · rw [ran] at moved ended
    obtain ⟨movedOn, endedAfter⟩ := others value after ran ended.1 ended.2
    exact ⟨conduct.trans moved movedOn, endedAfter⟩

namespace Gives

/-- A value that is fine may be given. -/
theorem value {result : α} (fine : good result) :
    conduct.Gives good (pure result : Effectful ε state α) := by
  intro before holds
  exact ⟨conduct.refl before, fine, holds⟩

/-- An exit may be taken if it is allowed. -/
theorem exit {cause : ε} (leaves : ∀ before, conduct.holds before → conduct.leaves cause before) :
    conduct.Gives good (throw cause : Effectful ε state α) := by
  intro before holds
  exact ⟨conduct.refl before, leaves before holds⟩

/-- A conduct is kept by one action after the other. -/
theorem sequence {first : Effectful ε state α} {rest : α → Effectful ε state β}
    (gives : conduct.Gives good first)
    (others : ∀ value, good value → conduct.Gives better (rest value)) :
    conduct.Gives better (first >>= rest) :=
  fun before holds => (gives before holds).sequence fun value after _ fine holdsAfter =>
    others value fine after holdsAfter

/-- Sequencing, when nothing needs to be known of the value in between. -/
theorem andThen {first : Effectful ε state α} {rest : α → Effectful ε state β}
    (keeps : conduct.Keeps first) (others : ∀ value, conduct.Gives better (rest value)) :
    conduct.Gives better (first >>= rest) :=
  keeps.sequence fun value _ => others value

/-- What is asked of the result may be weakened. -/
theorem imp {action : Effectful ε state α} {weaker : α → Prop} (gives : conduct.Gives good action)
    (follows : ∀ value, good value → weaker value) : conduct.Gives weaker action := by
  intro before holds
  obtain ⟨moved, ended⟩ := gives before holds
  refine ⟨moved, ?_⟩
  rcases ran : action.run before with ⟨exit | value, after⟩
  · rw [ran] at ended
    exact ended
  · rw [ran] at ended
    exact ⟨follows value ended.1, ended.2⟩

theorem keeps {action : Effectful ε state α} (gives : conduct.Gives good action) :
    conduct.Keeps action :=
  gives.imp fun _ _ => trivial

/-- A change that is allowed keeps to the conduct. -/
theorem change {change : state → state}
    (allowed : ∀ before, conduct.holds before →
      conduct.moves before (change before) ∧ conduct.holds (change before)) :
    conduct.Keeps (modify change : Effectful ε state Unit) := by
  intro before holds
  obtain ⟨moved, holdsAfter⟩ := allowed before holds
  exact ⟨moved, trivial, holdsAfter⟩

/-- A program that looks at the state sees one in which the conduct holds. -/
theorem current : conduct.Gives conduct.holds (get : Effectful ε state state) := by
  intro before holds
  exact ⟨conduct.refl before, holds, holds⟩

/-- A handler may put the state in order after every exit, and must leave by one itself or go on. -/
theorem handled {action : Effectful ε state α} {handler : ε → Effectful ε state α}
    (gives : conduct.Gives good action)
    (handling : ∀ exit before, conduct.leaves exit before →
      conduct.GivesAt good (handler exit) before) :
    conduct.Gives good (tryCatch action handler) := by
  intro before holds
  obtain ⟨moved, ended⟩ := gives before holds
  rw [GivesAt, Effectful.run_tryCatch]
  rcases ran : action.run before with ⟨exit | value, after⟩
  · rw [ran] at moved ended
    obtain ⟨movedOn, endedAfter⟩ := handling exit after ended
    exact ⟨conduct.trans moved movedOn, endedAfter⟩
  · rw [ran] at moved ended
    exact ⟨moved, ended⟩

end Gives

/-- The same conduct with more exits. -/
def allowing (conduct : Conduct ε state) (more : ε → Prop) : Conduct ε state :=
  { conduct with
    leaves := fun exit after => conduct.leaves exit after ∨ more exit ∧ conduct.holds after }

/-- A program that keeps to a conduct may also be allowed more exits. -/
theorem Gives.allowing {action : Effectful ε state α} (gives : conduct.Gives good action)
    (more : ε → Prop) : (conduct.allowing more).Gives good action := by
  intro before holds
  obtain ⟨moved, ended⟩ := gives before holds
  refine ⟨moved, ?_⟩
  rcases ran : action.run before with ⟨exit | value, after⟩
  · rw [ran] at ended
    exact Or.inl ended
  · rw [ran] at ended
    exact ended

end Conduct

end Logo
