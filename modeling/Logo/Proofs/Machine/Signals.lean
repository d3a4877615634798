import Logo.Proofs.Machine.Endings
import Logo.Proofs.Program.Nodes

/-!
# Where signals go

Signals end procedures and programs.  Two of them, to stop and to output, go
no further than the procedure in which they are made: they come neither out of
an expression nor out of a procedure call.  The third ends the program and
goes all the way.  Once it has been made, no command begins any more, and
nothing is changed by those that were under way.

The first part holds wherever in a program an expression or a call stands, in
whatever state it is run, and whatever procedures do.  The second part is
about whole runs, and is told with the journal.
-/

namespace Logo

variable {σ : Type}

/-! ## Signals that end a procedure -/

/-- Anything may happen, but no signal comes out that ends a procedure. -/
def Conduct.endsNoProcedure : Conduct Exit (State σ) where
  holds _ := True
  moves _ _ := True
  leaves exit _ := ¬ exit.EndsProcedure
  refl _ := trivial
  trans _ _ := trivial

namespace Conduct.endsNoProcedure

theorem leaves_mishap (mishap : Mishap) (state : State σ) :
    endsNoProcedure.leaves (.mishap mishap) state := by
  intro ends
  cases ends

theorem leaves_bye (state : State σ) : endsNoProcedure.leaves (.signal .bye) state := by
  intro ends
  cases ends

theorem permits : (endsNoProcedure (σ := σ)).Permits where
  error _ _ := leaves_mishap _ _
  limit _ _ := leaves_mishap _ _
  moves _ := trivial
  holds _ _ := trivial
  round _ leaves := leaves

/-- A mishap ends no procedure. -/
theorem orMishap {α : Type} (attempt : Except Mishap α) :
    (endsNoProcedure (σ := σ)).Keeps (Machine.orMishap attempt) := by
  cases attempt with
  | ok result => exact .value trivial
  | error mishap => exact .exit fun before _ => leaves_mishap mishap before

theorem tell [Stage σ] (room : Nat) (deed : Deed) :
    (endsNoProcedure (σ := σ)).Keeps (Machine.tell room deed) := by
  rintro ⟨⟨studio, output, procedures, draws⟩, scope⟩ -
  simp only [GivesAt, Machine.tell, ExceptT.run]
  rcases Studio.perform room deed studio with ⟨mishap | result, after⟩
  · exact ⟨trivial, leaves_mishap mishap _⟩
  · exact ⟨trivial, trivial, trivial⟩

/-- A body of a procedure may leave by any signal. -/
theorem ends_statements {result : Except Exit (Option Value)} (state : State σ) :
    endsNoProcedure.statements.Ends (fun _ => True) (result, state) := by
  rcases result with exit | result
  · by_cases ends : exit.EndsProcedure
    · exact Or.inr ⟨ends, trivial⟩
    · exact Or.inl ends
  · exact ⟨trivial, trivial⟩

/-- A procedure call takes the signals that end a procedure, whatever the procedure does. -/
theorem settled (procedure : Procedure) (asExpression : Bool) (inner : Scope)
    (body : Machine σ (Option Value)) :
    endsNoProcedure.Gives (fun result => asExpression = true → result.isSome = true) (do
      settle procedure asExpression (← Machine.inScope inner body)) := by
  have entered : endsNoProcedure.Keeps (Machine.inScope inner body) := fun _ _ =>
    ⟨trivial, trivial, trivial⟩
  refine entered.andThen fun ended outside _ => ?_
  exact settle_gives permits (fun ends leaves => leaves ends) procedure asExpression
    (ends_statements outside)

/-- The only signal that passes is the one that ends the program. -/
theorem signal_eq_bye {α : Type} {action : Machine σ α} (keeps : endsNoProcedure.Keeps action)
    {state : State σ} {signal : Signal} (left : (action.run state).1 = .error (.signal signal)) :
    signal = .bye := by
  obtain ⟨-, ended⟩ := keeps state trivial
  rcases ran : action.run state with ⟨exit | value, after⟩
  · rw [ran] at ended left
    obtain rfl : exit = .signal signal := Except.error.inj left
    cases signal with
    | stop => exact absurd .stop ended
    | output value => exact absurd (.output value) ended
    | bye => rfl
  · rw [ran] at left
    cases left

variable [Platform] [Stage σ] {deeper : Depth σ}

/--
Every well-formed tree keeps signals to itself, whatever procedures do.  What
is perilous to others is not so here: neither walking nor colors make signals.
-/
theorem upheld (deeper : Depth σ) :
    Tracker.idle.Upholds endsNoProcedure deeper fun _ => True where
  permits := permits
  tell deed _ := tell deeper.room deed
  note _ _ := .value trivial
  define _ _ := .change fun _ _ => ⟨trivial, trivial⟩
  undefined _ _ _ := leaves_mishap _ _
  settled _ asExpression inner := settled _ asExpression inner _
  perilous _ := permits.perilous tell (fun who value => orMishap (value.asColor who))
    (fun state _ => leaves_bye state) (.value trivial)

/-- A value that is well formed ends no procedure while it is resolved. -/
theorem value {value : Value} (wellFormed : value.WellFormed) :
    endsNoProcedure.Keeps (value.input deeper).value := by
  have keeps : endsNoProcedure.Keeps (Tracker.idle.input deeper value).value :=
    (upheld deeper).value wellFormed fun _ _ => trivial
  rwa [Tracker.idle_input] at keeps

theorem call {name : String} {inputs : List Value} {asExpression : Bool} {origin : Origin}
    (wellFormed : (Command.call name inputs asExpression origin).WellFormed) :
    endsNoProcedure.Keeps ((Command.call name inputs asExpression origin).execute deeper) := by
  have keeps := Gives.keeps ((upheld deeper).trees.calls wellFormed fun _ _ => trivial)
  rwa [Tracker.idle_execute] at keeps

end Conduct.endsNoProcedure

/-! ## The signal that ends the program -/

/-- The scope of the program itself, as a moment sees it. -/
def Moment.outermost (moment : Moment σ) : Scope :=
  moment.callers.getLastD moment.state.scope

namespace State.EndedAt

variable {state : State (Noted σ)} {moment other : Moment σ}

theorem eq_of_mem (ended : state.EndedAt moment) (member : other ∈ state.journal)
    (bye : other.command.isBye = true) : other = moment := by
  obtain ⟨earlier, same, before⟩ := ended.latest
  rw [same] at member
  rcases List.mem_cons.mp member with rfl | early
  · rfl
  · rw [before other early] at bye
    cases bye

/-- Outside all calls, only the variables of the program itself are left. -/
theorem outermost_eq (ended : state.EndedAt moment) (outside : state.callers = []) :
    state.scope.bindings = moment.outermost.bindings := by
  have scopes := ended.scopes
  rw [outside] at scopes
  obtain ⟨inner, same⟩ := scopes
  have last := congrArg List.getLast? same
  simp only [List.getLast?_append, List.getLast?_map, List.getLast?_cons, List.getLast?_nil,
    Option.map_some, Option.some_or, Option.getD_none] at last
  rw [Moment.outermost, List.getLastD_eq_getLast?]
  exact Option.some.inj last

end State.EndedAt

section

variable [Platform] [Stage σ]

/-- A run has been ended by the signal to end, or it is not in its journal. -/
theorem Conduct.accounted.endedAt_or_isUnderWay {result : Except Exit (Option Value)}
    {after : State (Noted σ)}
    (ended : (accounted.allowing (· = .signal .stop)).Ends (fun _ => True) (result, after)) :
    after.bare.ProceduresWellFormed ∧
      ((result = .error (.signal .bye) ∧ ∃ moment, after.EndedAt moment) ∨
        (result ≠ .error (.signal .bye) ∧ after.IsUnderWay)) := by
  rcases result with exit | result
  · rcases ended with ⟨known, accounts⟩ | ⟨rfl, known, underWay⟩
    · refine ⟨known, ?_⟩
      cases accounts with
      | bye ended => exact Or.inl ⟨rfl, _, ended⟩
      | error _ underWay | fault _ underWay => exact Or.inr ⟨(by intro same; cases same), underWay⟩
    · exact ⟨known, Or.inr ⟨(by intro same; cases same), underWay⟩⟩
  · exact ⟨ended.2.1, Or.inr ⟨(by intro same; cases same), ended.2.2⟩⟩

/--
In a program that was read from a text, the only signal that comes out of an expression or of a
procedure call is the one that ends the program.  If a run of the program comes to `BYE`, then
that is how it ends, and it ends there: `BYE` is the last command that begins, and what the
program has printed, defined and assigned, its turtle and its draws are as `BYE` found them.
-/
theorem Program.signals_of_ofText (text : String) :
    (∀ value : Value, .value value ∈ nodesOf (Program.ofText text).commands →
      ∀ (deeper : Depth σ) (state : State σ) (signal : Signal),
        ((value.input deeper).value.run state).1 = .error (.signal signal) → signal = .bye) ∧
    (∀ (name : String) (inputs : List Value) (asExpression : Bool) (origin : Origin),
      .command (.call name inputs asExpression origin) ∈ nodesOf (Program.ofText text).commands →
      ∀ (deeper : Depth σ) (state : State σ) (signal : Signal),
        (((Command.call name inputs asExpression origin).execute deeper).run state).1 =
          .error (.signal signal) → signal = .bye) ∧
    ∀ state : State σ, state.ProceduresWellFormed →
      ∃ result after,
        (Tracker.journal.run (Program.ofText text)).run state.noted = (result, after) ∧
        (Program.ofText text).run.run state = (result, after.bare) ∧
        after.bare.ProceduresWellFormed ∧
        (result = .error (.signal .bye) ↔
          ∃ moment ∈ after.journal, moment.command.isBye = true) ∧
        ∀ moment ∈ after.journal, moment.command.isBye = true →
          after.journal.head? = some moment ∧ after.bare.world = moment.state.world ∧
            after.bare.scope.bindings = moment.outermost.bindings := by
  have wellFormed : StatementsWellFormed (Program.ofText text).commands :=
    Program.ofTokens_wellFormed text (Program.genuine_scan text)
  refine ⟨?_, ?_, ?_⟩
  · intro value member deeper state signal left
    exact Conduct.endsNoProcedure.signal_eq_bye
      (Conduct.endsNoProcedure.value (wellFormed_of_mem_nodesOf _ wellFormed _ member)) left
  · intro name inputs asExpression origin member deeper state signal left
    exact Conduct.endsNoProcedure.signal_eq_bye
      (Conduct.endsNoProcedure.call (wellFormed_of_mem_nodesOf _ wellFormed _ member)) left
  · intro state known
    have started : state.noted.IsUnderWay := fun moment member => by cases member
    obtain ⟨⟨-, outside⟩, ended⟩ := Conduct.accounted.run wellFormed state.noted ⟨known, started⟩
    have same := (Tracker.journal_run_agrees (Program.ofText text)).run_bare state.noted
    generalize (Tracker.journal.run (Program.ofText text)).run state.noted = outcome
      at outside ended same
    obtain ⟨result, after⟩ := outcome
    obtain ⟨kept, ⟨rfl, moment, endedAt⟩ | ⟨goesOn, underWay⟩⟩ :=
      Conduct.accounted.endedAt_or_isUnderWay ended
    · obtain ⟨earlier, latest, -⟩ := endedAt.latest
      have begun : moment ∈ after.journal := by
        rw [latest]
        exact List.mem_cons_self
      refine ⟨_, after, rfl, same, kept, ?_, ?_⟩
      · exact ⟨fun _ => ⟨moment, begun, endedAt.isBye⟩, fun _ => rfl⟩
      · intro other member bye
        rw [endedAt.eq_of_mem member bye, latest]
        exact ⟨rfl, endedAt.world, endedAt.outermost_eq outside⟩
    · refine ⟨result, after, rfl, same, kept, ⟨fun bye => absurd bye goesOn, ?_⟩, ?_⟩
      · rintro ⟨moment, member, bye⟩
        exact absurd bye (by simp [underWay moment member])
      · intro moment member bye
        exact absurd bye (by simp [underWay moment member])

end

/-- A farewell inside an expression, inside a procedure, inside a repetition. -/
theorem Program.signals_of_farewell :
    letI := Platform.standard
    ∃ after moment,
      (Tracker.journal.run
          (Program.ofText "TO FIN BYE END REPEAT 3 [PRINT SUM 1 FIN] PRINT 2")).run
        (State.initial () fun _ => 0).noted = (.error (.signal .bye), after) ∧
      after.journal.head? = some moment ∧ moment.command.isBye = true ∧
        after.bare.world = moment.state.world := by
  let _ := Platform.standard
  obtain ⟨result, after, ran, -, -, ends, last⟩ :=
    (Program.signals_of_ofText "TO FIN BYE END REPEAT 3 [PRINT SUM 1 FIN] PRINT 2").2.2
      (State.initial () fun _ => 0) (State.proceduresWellFormed_initial () _)
  have begun :
      (((Tracker.journal.run
          (Program.ofText "TO FIN BYE END REPEAT 3 [PRINT SUM 1 FIN] PRINT 2")).run
        (State.initial () fun _ => 0).noted).2.journal.any fun moment => moment.command.isBye) =
          true := by
    decide +kernel
  rw [ran] at begun
  obtain ⟨moment, member, isBye⟩ := List.any_eq_true.mp begun
  obtain rfl := ends.mpr ⟨moment, member, isBye⟩
  obtain ⟨latest, world, -⟩ := last moment member isBye
  exact ⟨after, moment, ran, latest, isBye, world⟩

end Logo
