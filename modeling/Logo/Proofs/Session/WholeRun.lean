import Logo.Proofs.Session.Alike

/-!
# A session runs its program as a whole

A session takes the commands of a program one at a time and looks itself at
how each of them ended.  A program that is run as a whole takes them in a row
and remembers each result on the way.  Both come to the same: nothing that a
command does depends on the result of the command before it, and the two look
at the end of a command in the same way.

The session adds one thing.  When a command fails, it prints the error.
-/

namespace Logo

/-- No scene on the left, and a stage on which nothing is seen on the right. -/
def Tie.headless : Tie (Option Scene) Unit where
  backdrop _ stage _ _ := stage = none
  before := ""
  excused _ := False

/-- A scene changes nothing for a run that has none. -/
theorem Tie.headless_respected [Platform] : Tie.headless.Respected where
  request := by
    rintro speed speed' request _ stage rfl
    exact Or.inr ⟨.value rfl, rfl⟩
  room := by
    rintro _ _ _ _ rfl
    exact Or.inl rfl

namespace Session

/-- A session and a program at the same point of the same run. -/
abbrev Tracks (session : Session) (state : State Unit) : Prop :=
  Tie.headless.StatesAlike (fun _ _ => True) session.state state

/-- The error that a session makes of how a command ended. -/
def reported : Except Exit (Option Value) → Option Error
  | .error (.signal (.output _)) => some .strayOutput
  | .error (.mishap (.error error)) => some error
  | _ => none

theorem reported_eq_some {outcome : Except Exit (Option Value)} {error : Error} :
    reported outcome = some error ↔
      outcome.mapError refuseOutput = .error (.mishap (.error error)) := by
  match outcome with
  | .ok value => exact ⟨nofun, nofun⟩
  | .error (.signal .stop) => exact ⟨nofun, nofun⟩
  | .error (.signal .bye) => exact ⟨nofun, nofun⟩
  | .error (.mishap (.fault fault)) => exact ⟨nofun, nofun⟩
  | .error (.signal (.output value)) =>
      constructor
      · rintro ⟨⟩
        rfl
      · rintro ⟨⟩
        rfl
  | .error (.mishap (.error cause)) =>
      constructor
      · rintro ⟨⟩
        rfl
      · rintro ⟨⟩
        rfl

/-- Nothing is reported of a program that comes to its end, stops or says goodbye. -/
theorem reported_eq_none {outcome : Except Exit (Option Value)}
    (faultless : ∀ fault, outcome ≠ .error (.mishap (.fault fault))) :
    reported outcome = none ↔
      (∃ value, outcome.mapError refuseOutput = .ok value) ∨
        outcome.mapError refuseOutput = .error (.signal .stop) ∨
        outcome.mapError refuseOutput = .error (.signal .bye) := by
  match outcome with
  | .ok value => exact ⟨fun _ => Or.inl ⟨value, rfl⟩, fun _ => rfl⟩
  | .error (.signal .stop) => exact ⟨fun _ => Or.inr (Or.inl rfl), fun _ => rfl⟩
  | .error (.signal .bye) => exact ⟨fun _ => Or.inr (Or.inr rfl), fun _ => rfl⟩
  | .error (.mishap (.fault fault)) => exact (faultless fault rfl).elim
  | .error (.signal (.output value)) =>
      constructor
      · nofun
      · rintro (⟨_, ⟨⟩⟩ | ⟨⟨⟩⟩ | ⟨⟨⟩⟩)
  | .error (.mishap (.error cause)) =>
      constructor
      · nofun
      · rintro (⟨_, ⟨⟩⟩ | ⟨⟨⟩⟩ | ⟨⟨⟩⟩)

/-- What a session prints about an error. -/
def complaint : Option Error → String
  | none => ""
  | some error => "Error: " ++ error.message ++ "\n"

/-- A session that has come to the end of a run, with what it makes of an error there. -/
structure Concludes (error : Option Error) (state : State Unit) (session : Session) : Prop where
  bare : session.scene = none
  turtle : session.turtle = state.world.studio.turtle
  bindings : session.state.scope.bindings = state.scope.bindings
  procedures : session.state.world.procedures = state.world.procedures
  output : session.output = state.world.output ++ complaint error
  error : session.error = error

/-- A session that has kept track to the end concludes as the run does. -/
theorem Tracks.concludes {session : Session} {state : State Unit} (tracks : Tracks session state)
    (fine : session.error = none) : Concludes none state session where
  bare := tracks.backdrop
  turtle := tracks.turtle
  bindings := tracks.bindings
  procedures := tracks.procedures
  output := tracks.output.trans (String.empty_append.trans String.append_empty.symm)
  error := fine

/-- So does one that has stopped with an error. -/
theorem Tracks.concludes_failed {session : Session} {state : State Unit}
    (tracks : Tracks session state) (command : Command) (error : Error) :
    Concludes (some error) state (session.afterFailure command error) where
  bare := tracks.backdrop
  turtle := tracks.turtle
  bindings := tracks.bindings
  procedures := tracks.procedures
  output := congrArg (· ++ complaint (some error)) (tracks.output.trans String.empty_append)
  error := rfl

variable [Platform]

/-- After a failure or a signal nothing is left to run. -/
theorem run_step_ending {session ended : Session} (stepped : step.run session = (.ok (), ended))
    (none : ended.pending = []) (count : Nat) :
    (step >>= fun _ => runPending count).run session = (.ok (), ended) := by
  rw [Effectful.run_bind_ok stepped, run_runPending_nil none]

/-- A session comes to the end that the program comes to when it is run as a whole. -/
theorem runPending_concludes {commands : List Command} {session : Session}
    {state after : State Unit}
    {previous : Option Value} {result : Except Exit (Option Value)}
    (waiting : session.pending = commands) (fine : session.error = none)
    (tracks : Tracks session state)
    (ran : (runFrom (.within Platform.calls) previous commands).run state = (result, after))
    (faultless : ∀ fault, result ≠ .error (.mishap (.fault fault))) :
    ∃ ended, (runPending commands.length).run session = (.ok (), ended) ∧
      Concludes (reported result) after ended := by
  induction commands generalizing session state previous with
  | nil =>
      cases ran
      exact ⟨session, rfl, tracks.concludes fine⟩
  | cons command rest induction =>
      rw [List.length_cons, run_runPending_cons waiting,
        Effectful.run_bind_ok (run_animate_none tracks.backdrop _)]
      have stepped := run_step waiting
      rcases command.run_agrees Tie.headless_respected (fun _ => trivial) session.state state
          tracks with
        ⟨_, ⟨_, excused, _⟩, _⟩ | ⟨matching, tracksAfter⟩
      · exact excused.elim
      have begun : Tracks (session.afterCommand command rest) (command.run.run state).2 :=
        tracksAfter
      rw [matching.eq] at stepped
      have executed : command.execute (.within Platform.calls) = (command.run : Machine Unit _) :=
        rfl
      rw [runFrom, executed, Effectful.run_bind] at ran
      rcases acted : command.run.run state with ⟨exit | value, between⟩
      · rw [acted] at ran stepped begun
        cases ran
        cases exit with
        | signal signal =>
            cases signal with
            | output _ => exact ⟨_, run_step_ending stepped rfl _, begun.concludes_failed command _⟩
            | stop | bye => exact ⟨_, run_step_ending stepped rfl _, Tracks.concludes begun fine⟩
        | mishap mishap =>
            cases mishap with
            | error error =>
                exact ⟨_, run_step_ending stepped rfl _, begun.concludes_failed command error⟩
            | fault fault => exact (faultless fault rfl).elim
      · rw [acted] at ran stepped begun
        rw [Effectful.run_bind_ok stepped]
        have remembered : Tracks (session.afterCommand command rest)
            { between with scope := { between.scope with lastResult := value } } :=
          { begun with lastResult := trivial }
        exact induction rfl fine remembered ran

/-- A program that is run as a whole ends as its commands do, but refuses an output. -/
theorem run_program {program : Program} {state after : State Unit}
    {result : Except Exit (Option Value)} (ran : program.run.run state = (result, after)) :
    ∃ outcome, (runFrom (.within Platform.calls) none program.commands).run state =
      (outcome, after) ∧
      result = outcome.mapError refuseOutput := by
  rw [Program.run, Effectful.run_tryCatch] at ran
  rcases acted : (runFrom (.within Platform.calls) none program.commands).run state with
    ⟨exit | value, between⟩
  · rw [acted] at ran
    cases ran
    exact ⟨.error exit, rfl, rfl⟩
  · rw [acted] at ran
    cases ran
    exact ⟨.ok value, rfl, rfl⟩

/--
A session without a picture does what the program does when it is run as a
whole.  It leaves the same turtle, variables and procedures; it fails with the
error with which the program fails, and only then; it prints the same, with
one more line for the error; and it says whether all went well.
-/
theorem runToEnd_eq_program_run (program : Program) (clean : program.isClean = true) (speed : Int)
    (sequence : Nat → Nat) (result : Except Exit (Option Value)) (after : State Unit)
    (ran : program.run.run (.initial () sequence) = (result, after))
    (faultless : ∀ fault, result ≠ .error (.mishap (.fault fault))) :
    ∃ fine ended, runToEnd.run (launched program none speed sequence) = (.ok fine, ended) ∧
      ended.turtle = after.world.studio.turtle ∧
      ended.state.scope.bindings = after.scope.bindings ∧
      ended.state.world.procedures = after.world.procedures ∧
      (∀ error, result = .error (.mishap (.error error)) ↔ ended.error = some error) ∧
      ended.output = after.world.output ++ complaint ended.error ∧
      (fine = true ↔ (∃ value, result = .ok value) ∨ result = .error (.signal .stop) ∨
        result = .error (.signal .bye)) := by
  obtain ⟨outcome, ranCommands, rfl⟩ := run_program ran
  have faultlessCommands : ∀ fault, outcome ≠ .error (.mishap (.fault fault)) := by
    rintro fault rfl
    exact faultless fault rfl
  have tracks : Tracks (launched program none speed sequence) (.initial () sequence) := by
    rw [launched_eq clean]
    exact ⟨rfl, rfl, String.empty_append.symm, rfl, rfl, rfl, rfl, trivial⟩
  have waiting : (launched program none speed sequence).pending = program.commands := by
    rw [launched_eq clean]
    rfl
  have fine : (launched program none speed sequence).error = none := by
    rw [launched_eq clean]
    rfl
  obtain ⟨ended, pended, concludes⟩ :=
    runPending_concludes waiting fine tracks ranCommands faultlessCommands
  rw [← waiting] at pended
  refine ⟨_, ended, run_runToEnd pended (run_animate_none concludes.bare _), concludes.turtle,
    concludes.bindings, concludes.procedures, ?_, ?_, ?_⟩
  · intro error
    rw [← reported_eq_some, ← concludes.error]
  · rw [concludes.error]
    exact concludes.output
  · rw [← reported_eq_none faultlessCommands, ← concludes.error, Option.isNone_iff_eq_none]

end Session

namespace Session

/-- A program that prints a word and then asks for a variable that was never made. -/
def mistake : Program :=
  ⟨[.primitive .print [.word "up"] ⟨0, 0, 5⟩, .primitive .print [.reference "other"] ⟨0, 10, 15⟩],
    "PRINT \"up PRINT :other", []⟩

theorem mistake_ends_both :
    letI := Platform.standard
    (mistake.run.run (State.initial () fun _ => 0)).1 =
        .error (.mishap (.error (.undefinedVariable "other"))) ∧
      ∃ fine ended, runToEnd.run (launched mistake none 50 fun _ => 0) = (.ok fine, ended) ∧
        ended.error = some (.undefinedVariable "other") := by
  let _ := Platform.standard
  have failed : (mistake.run.run (State.initial () fun _ => 0)).1 =
      .error (.mishap (.error (.undefinedVariable "other"))) := rfl
  refine ⟨failed, ?_⟩
  rcases ran : mistake.run.run (State.initial () fun _ => 0) with ⟨result, after⟩
  rw [ran] at failed
  cases failed
  obtain ⟨fine, ended, toEnd, _, _, _, sameError, _⟩ :=
    runToEnd_eq_program_run mistake rfl 50 (fun _ => 0) _ after ran nofun
  exact ⟨fine, ended, toEnd, (sameError _).mp rfl⟩

end Session

end Logo
