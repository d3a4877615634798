import Logo.Proofs.Machine.Comparison

/-!
# The conduct of primitives

A conduct of machines can be read at two levels.  An expression keeps to the
conduct itself.  A statement may also end the procedure that it stands in, so
it keeps to a conduct with two more exits.

If a conduct permits what any command may do, then every reporter keeps to it
as soon as its inputs do.  So does every other primitive, if the conduct has
nothing against walking, against colors and against the end of the program.
The five primitives that walk, take a color or end the program are perilous,
because a conduct may have something to say about them.
-/

namespace Logo

variable {σ τ : Type}

/-- An exit that ends a procedure and nothing more. -/
inductive Exit.EndsProcedure : Exit → Prop
  | stop : EndsProcedure (.signal .stop)
  | output (value : Value) : EndsProcedure (.signal (.output value))

/-- Whether a primitive is one that a conduct may have something to say about. -/
def Primitive.isPerilous : Primitive → Bool
  | .forward => true
  | .back => true
  | .setPenColor => true
  | .setBackground => true
  | .bye => true
  | _ => false

/-- The turtle with its stage and the procedures are the same. -/
structure State.Unmoved (before after : State σ) : Prop where
  studio : after.world.studio = before.world.studio
  procedures : after.world.procedures = before.world.procedures

namespace Conduct

variable {conduct : Conduct Exit (State σ)} {α β : Type} {good : α → Prop} {better : β → Prop}

/-- The conduct of statements, which may also end the procedure that they stand in. -/
def statements (conduct : Conduct Exit (State σ)) : Conduct Exit (State σ) :=
  conduct.allowing Exit.EndsProcedure

/-- A procedure that can be called in some state in which the conduct holds. -/
def Knows (conduct : Conduct Exit (State σ)) (procedure : Procedure) : Prop :=
  ∃ name state, conduct.holds state ∧ state.world.procedures.find? name = some procedure

/-- A conduct permits what any command may do. -/
structure Permits (conduct : Conduct Exit (State σ)) : Prop
    extends Comparison.Tolerates conduct where
  moves : ∀ {before after : State σ}, before.Unmoved after → conduct.moves before after
  holds : ∀ {before after : State σ}, before.Unmoved after → conduct.holds before →
    conduct.holds after
  round : ∀ {exit : Exit} {state : State σ} (round : Option Nat), conduct.leaves exit state →
    conduct.leaves exit { state with scope := { state.scope with round } }

/-- A procedure is found, or the conduct has nothing against its not being there. -/
theorem Gives.findProcedure {name : String}
    (undefined : ∀ {state : State σ}, conduct.holds state →
      state.world.procedures.find? (Text.fold name) = none →
      conduct.leaves (.mishap (.error (.undefinedProcedure name))) state) :
    conduct.Gives conduct.Knows (Machine.findProcedure name) := by
  intro state holds
  rw [GivesAt, Machine.findProcedure, Effectful.run_bind, Effectful.run_get]
  dsimp only
  rcases found : state.world.procedures.find? (Text.fold name) with _ | procedure
  · exact ⟨conduct.refl state, undefined holds found⟩
  · exact ⟨conduct.refl state, ⟨Text.fold name, state, holds, found⟩, holds⟩

namespace Permits

/-- An error that is common is permitted. -/
theorem fail (permits : conduct.Permits) {error : Error} (common : error.IsCommon) :
    conduct.Gives good (Machine.fail error) :=
  .exit fun _ holds => permits.error common holds

theorem crash (permits : conduct.Permits) {fault : Fault} (limit : fault.IsLimit) :
    conduct.Gives good (Machine.crash fault) :=
  .exit fun _ holds => permits.limit limit holds

/-- Changes outside the studio and the procedures are permitted. -/
theorem change (permits : conduct.Permits) {change : State σ → State σ}
    (unmoved : ∀ before, State.Unmoved before (change before)) :
    conduct.Keeps (modify change : Machine σ Unit) :=
  .change fun before holds =>
    ⟨permits.moves (unmoved before), permits.holds (unmoved before) holds⟩

theorem print (permits : conduct.Permits) (text : String) : conduct.Keeps (Machine.print text) :=
  permits.change fun _ => ⟨rfl, rfl⟩

theorem assign (permits : conduct.Permits) (name : String) (value : Value) :
    conduct.Keeps (Machine.assign name value) :=
  permits.change fun _ => ⟨rfl, rfl⟩

theorem remember (permits : conduct.Permits) (result : Option Value) :
    conduct.Keeps (Machine.remember result) :=
  permits.change fun _ => ⟨rfl, rfl⟩

theorem setRound (permits : conduct.Permits) (round : Option Nat) :
    conduct.Keeps (Machine.setRound round) :=
  permits.change fun _ => ⟨rfl, rfl⟩

theorem draw (permits : conduct.Permits) (limit : Nat) : conduct.Keeps (Machine.draw limit) := by
  intro before holds
  have unmoved : before.Unmoved ((Machine.draw limit).run before).2 := ⟨rfl, rfl⟩
  exact ⟨permits.moves unmoved, trivial, permits.holds unmoved holds⟩

/-- A look-up finds a value or fails with an error that is common. -/
theorem lookup (permits : conduct.Permits) (name : String) :
    conduct.Keeps (Machine.lookup name) := by
  refine Gives.current.keeps.andThen fun state => ?_
  split
  · exact .value trivial
  · exact permits.fail trivial

theorem warnMissing (permits : conduct.Permits) (procedure : Procedure) (missing : List String) :
    conduct.Keeps (Logo.warnMissing procedure missing) := by
  unfold Logo.warnMissing
  split
  · exact .value trivial
  · exact permits.print _

/-- A conduct that is kept inside a repetition is kept around it. -/
theorem keepingRound (permits : conduct.Permits) {action : Machine σ α}
    (gives : conduct.Gives good action) : conduct.Gives good (Machine.keepingRound action) := by
  refine (Gives.current.keeps.andThen fun _ => .value trivial).andThen fun outer => ?_
  refine Gives.sequence (.handled gives ?_) fun result fine => ?_
  · intro exit state leaves
    have unmoved : state.Unmoved { state with scope := { state.scope with round := outer } } :=
      ⟨rfl, rfl⟩
    exact ⟨permits.moves unmoved, permits.round outer leaves⟩
  · exact (permits.setRound outer).andThen fun _ => .value fine

theorem write (permits : conduct.Permits) (room : Nat) (style : Style) (value : Value) :
    conduct.Keeps (Input.write room style value) := by
  unfold Input.write
  split
  · exact .value trivial
  · exact permits.crash trivial

/-- What permits any command for expressions permits it for statements. -/
theorem statements (permits : conduct.Permits) : conduct.statements.Permits where
  error common holds := Or.inl (permits.error common holds)
  limit limit holds := Or.inl (permits.limit limit holds)
  moves := permits.moves
  holds := permits.holds
  round := by
    rintro exit state round (leaves | ⟨ends, holds⟩)
    · exact Or.inl (permits.round round leaves)
    · have unmoved : state.Unmoved { state with scope := { state.scope with round } } := ⟨rfl, rfl⟩
      exact Or.inr ⟨ends, permits.holds unmoved holds⟩

/-! ## Primitives -/

/-- Keeping to the conduct, as a comparison. -/
abbrev comparison (permits : conduct.Permits) : Comparison σ τ :=
  .ofConduct permits.toTolerates

/-- What any expression may do is enough for reporters. -/
theorem informs (permits : conduct.Permits) :
    (permits.comparison : Comparison σ τ).Informs fun _ => True where
  turtle := Comparison.related (Gives.current.keeps.andThen fun _ => .value trivial)
  draw limit := Comparison.related (permits.draw limit)
  round _ := Comparison.related (Gives.current.keeps.andThen fun _ => .value trivial)
  lookup _ name := Comparison.related (permits.lookup name)

/-- The other primitives need to know about walking, about colors and about the end. -/
theorem serves [Platform] [Stage σ] [Stage τ] (permits : conduct.Permits) {room room' : Nat}
    {allowed : Primitive → Prop}
    (tell : ∀ deed : Deed, (deed.isWalk = true → allowed .forward ∨ allowed .back) →
      conduct.Keeps (Machine.tell room deed))
    (color : allowed .setPenColor ∨ allowed .setBackground → ∀ (who : String) (value : Value),
      conduct.Keeps (Machine.orMishap (value.asColor who)))
    (bye : allowed .bye → ∀ state, conduct.holds state → conduct.leaves (.signal .bye) state) :
    (permits.statements.comparison : Comparison σ τ).Serves room room' allowed where
  tell deed walks := Comparison.related ((tell deed walks).allowing _)
  write style value := Comparison.related (permits.statements.write room style value)
  color paints who value := Comparison.related ((color paints who value).allowing _)
  print text := Comparison.related (permits.statements.print text)
  setRound _ round := Comparison.related (permits.statements.setRound round)
  keepingRound _ keeps := permits.statements.keepingRound keeps
  assign _ name value := Comparison.related (permits.statements.assign name value)
  stop _ := .exit fun _ holds => Or.inr ⟨.stop, holds⟩
  output _ value := .exit fun _ holds => Or.inr ⟨.output value, holds⟩
  bye ends := .exit fun state holds => Or.inl (bye ends state holds)

theorem refines (permits : conduct.Permits) :
    (permits.comparison : Comparison σ τ).Refines permits.statements.comparison :=
  fun gives => gives.allowing _

end Permits

end Conduct

end Logo
