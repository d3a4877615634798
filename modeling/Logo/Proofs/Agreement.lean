import Logo.Proofs.Effectful

/-!
# Agreement of programs

Two programs over different states agree when, started in states that are
alike, they give matching results and leave states that are alike again.  The
left program may be excused from this by ending in one of certain exits; what
the right program does then does not matter.

Agreement is kept by everything that programs are put together with, so a
program that is built alike over two kinds of states needs to be looked at
only where it touches the state.
-/

namespace Logo

/-- Two results match: their values correspond, or they are the same exit. -/
inductive Matching {ε α β : Type} (values : α → β → Prop) : Except ε α → Except ε β → Prop where
  | value {left : α} {right : β} (corresponds : values left right) :
      Matching values (.ok left) (.ok right)
  | exit (cause : ε) : Matching values (.error cause) (.error cause)

/-- Results that match in value are the same. -/
theorem Matching.eq {ε α : Type} {left right : Except ε α} (matching : Matching Eq left right) :
    left = right := by
  cases matching with
  | value corresponds => rw [corresponds]
  | exit cause => rfl

theorem Matching.of_eq {ε α : Type} (result : Except ε α) : Matching Eq result result := by
  cases result with
  | error cause => exact .exit cause
  | ok value => exact .value rfl

/-- What two programs agree up to: which states are alike, and which exits are excused on the
left. -/
structure Accord (ε state state' : Type) where
  alike : state → state' → Prop
  excused : ε → Prop

/--
Two programs agree: from states that are alike, the left one ends in an
excused exit, or the results match and the states are alike again.
-/
def Agrees {ε state state' α β : Type} (accord : Accord ε state state') (values : α → β → Prop)
    (left : Effectful ε state α) (right : Effectful ε state' β) : Prop :=
  ∀ before before', accord.alike before before' →
    (∃ exit, accord.excused exit ∧ (left.run before).1 = .error exit) ∨
      (Matching values (left.run before).1 (right.run before').1 ∧
        accord.alike (left.run before).2 (right.run before').2)

namespace Agrees

variable {ε state state' α β γ δ : Type} {accord : Accord ε state state'}
  {values : α → β → Prop} {others : γ → δ → Prop}

/-- Values that correspond are given in agreement. -/
theorem value {left : α} {right : β} (corresponds : values left right) :
    Agrees accord values (pure left) (pure right) := by
  intro before before' alike
  exact Or.inr ⟨.value corresponds, alike⟩

theorem exit (cause : ε) : Agrees accord values (throw cause) (throw cause) := by
  intro before before' alike
  exact Or.inr ⟨.exit cause, alike⟩

/-- Actions that agree may be followed by actions that agree on corresponding values. -/
theorem sequence {left : Effectful ε state α} {right : Effectful ε state' β}
    {next : α → Effectful ε state γ} {next' : β → Effectful ε state' δ}
    (first : Agrees accord values left right)
    (rest : ∀ value value', values value value' →
      Agrees accord others (next value) (next' value')) :
    Agrees accord others (left >>= next) (right >>= next') := by
  intro before before' alike
  rcases first before before' alike with ⟨exit, excused, ended⟩ | ⟨matching, after⟩
  · refine Or.inl ⟨exit, excused, ?_⟩
    rw [Effectful.run_bind]
    rcases ran : left.run before with ⟨result, after⟩
    rw [ran] at ended
    cases ended
    rfl
  · rw [Effectful.run_bind, Effectful.run_bind]
    rcases ran : left.run before with ⟨result, state⟩
    rcases ran' : right.run before' with ⟨result', state'⟩
    rw [ran, ran'] at matching after
    cases matching with
    | value corresponds => exact rest _ _ corresponds _ _ after
    | exit cause => exact Or.inr ⟨.exit cause, after⟩

/-- Sequencing, when the first parts give the same value. -/
theorem andThen {left : Effectful ε state α} {right : Effectful ε state' α}
    {next : α → Effectful ε state γ} {next' : α → Effectful ε state' δ}
    (first : Agrees accord Eq left right)
    (rest : ∀ value, Agrees accord others (next value) (next' value)) :
    Agrees accord others (left >>= next) (right >>= next') := by
  apply first.sequence
  rintro value _ rfl
  exact rest value

/--
Programs with handlers agree if the handlers do.  A handler on the left may
turn an excused exit only into another excused one.
-/
theorem handled {left : Effectful ε state α} {right : Effectful ε state' β}
    {handler : ε → Effectful ε state α} {handler' : ε → Effectful ε state' β}
    (action : Agrees accord values left right)
    (handling : ∀ exit, Agrees accord values (handler exit) (handler' exit))
    (rethrows : ∀ exit before, accord.excused exit →
      ∃ other, accord.excused other ∧ ((handler exit).run before).1 = .error other) :
    Agrees accord values (tryCatch left handler) (tryCatch right handler') := by
  intro before before' alike
  rw [Effectful.run_tryCatch, Effectful.run_tryCatch]
  rcases ran : left.run before with ⟨result, state⟩
  rcases ran' : right.run before' with ⟨result', state'⟩
  have agreed := action before before' alike
  rw [ran, ran'] at agreed
  rcases agreed with ⟨exit, excused, ended⟩ | ⟨matching, after⟩
  · cases ended
    exact Or.inl (rethrows exit state excused)
  · cases matching with
    | value corresponds => exact Or.inr ⟨.value corresponds, after⟩
    | exit cause => exact handling cause state state' after

/-- Programs that only look at the state agree if they see the same. -/
theorem look {view : state → α} {view' : state' → β}
    (same : ∀ before before', accord.alike before before' →
      values (view before) (view' before')) :
    Agrees accord values (do return view (← get)) (do return view' (← get)) := by
  intro before before' alike
  exact Or.inr ⟨.value (same before before' alike), alike⟩

/-- Programs that only change the state agree if the changes keep states alike. -/
theorem change {change : state → state} {change' : state' → state'}
    (keeps : ∀ before before', accord.alike before before' →
      accord.alike (change before) (change' before')) :
    Agrees accord Eq (modify change) (modify change') := by
  intro before before' alike
  exact Or.inr ⟨.value rfl, keeps before before' alike⟩

end Agrees

end Logo
