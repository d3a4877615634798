import Logo.Proofs.Machine.Independence
import Logo.Proofs.Scene
import Logo.Session

/-!
# Sessions that are alike

The program of a session cannot see its scene.  It only notices that asking a
scene for something takes room on the stack.  So sessions whose scenes differ
only in their clocks take the same step, and a session with a scene takes the
step of one without, unless it runs out of the stack or something goes wrong
on its canvas.  A session that goes wrong on its canvas ends in a fault that no
error of the program can be mistaken for.
-/

namespace Logo

/-! ## How scenes may differ -/

namespace Tie

/-- The same stage on both sides, and a text that only the left one has printed before. -/
def continuing (σ : Type) (text : String) : Tie σ σ where
  backdrop speed stage speed' stage' := speed = speed' ∧ stage = stage'
  before := text
  excused _ := False

theorem continuing_respected (σ : Type) [Stage σ] (text : String) :
    (continuing σ text).Respected where
  request := by
    rintro speed _ request stage _ ⟨rfl, rfl⟩
    exact Or.inr ⟨.of_eq _, rfl, rfl⟩
  room := by
    rintro _ _ _ _ ⟨-, rfl⟩
    exact Or.inl rfl

/--
Any scene on the left and a busy one on the right, or none on both sides, and
a text that only the left one has printed.
-/
def unshown (text : String) : Tie (Option Scene) (Option Scene) where
  backdrop _ stage _ stage' := Option.Rel (fun _ scene => scene.queue.busy = true) stage stage'
  before := text
  excused fault := fault ≠ .tooManyCalls

variable [Platform]

/-- A request to a scene that goes wrong does not go wrong for want of room on the stack. -/
theorem ne_tooManyCalls_of_request {request : Request} {scene after : Scene} {fault : Fault}
    (went : (Scene.request request).run scene = (.error fault, after)) :
    fault ≠ .tooManyCalls := by
  rintro rfl
  exact Scene.perform_spares _ scene (congrArg Prod.fst went)

theorem run_request_some {request : Request} {scene after : Scene} {result : Except Fault Unit}
    (went : (Scene.request request).run scene = (result, after)) :
    (Stage.request request).run (some scene) = (result, some after) := by
  simp only [Stage.request, ExceptT.run] at went ⊢
  rw [went]

/-- Scenes that are level. -/
def leveling : Tie (Option Scene) (Option Scene) where
  backdrop speed stage speed' stage' := speed = speed' ∧ Option.Rel Scene.Level stage stage'
  before := ""
  excused fault := fault ≠ .tooManyCalls

/-- Any scene on the left and none on the right. -/
def unwatched : Tie (Option Scene) (Option Scene) where
  backdrop _ _ _ stage' := stage' = none
  before := ""
  excused _ := True

/-- Scenes that are level take requests alike, unless the left one runs into a fault. -/
theorem leveling_respected : leveling.Respected where
  request := by
    rintro speed _ request _ _ ⟨rfl, related⟩
    cases related with
    | none => exact Or.inr ⟨.value rfl, rfl, .none⟩
    | @some scene scene' level =>
        rcases went : (Scene.request (request speed)).run scene with ⟨fault | ⟨⟩, after⟩
        · refine Or.inl ⟨fault, ne_tooManyCalls_of_request went, ?_⟩
          rw [run_request_some went]
        · obtain ⟨after', went', levelAfter⟩ := level.request went
          rw [run_request_some went, run_request_some went']
          exact Or.inr ⟨.value rfl, rfl, .some levelAfter⟩
  room := by
    rintro _ _ _ _ ⟨-, related⟩
    cases related <;> exact Or.inl rfl

/-- Without a scene all is taken that a scene takes. -/
theorem unwatched_respected : unwatched.Respected where
  request := by
    rintro speed speed' request stage _ rfl
    cases stage with
    | none => exact Or.inr ⟨.value rfl, rfl⟩
    | some scene =>
        rcases went : (Scene.request (request speed)).run scene with ⟨fault | ⟨⟩, after⟩
        · refine Or.inl ⟨fault, trivial, ?_⟩
          rw [run_request_some went]
        · rw [run_request_some went]
          exact Or.inr ⟨.value rfl, rfl⟩
  room := by
    rintro _ _ _ _ rfl
    exact Or.inr ⟨trivial, Nat.zero_le _⟩

/-- A scene that is busy takes all that another one takes. -/
theorem unshown_respected (text : String) : (unshown text).Respected where
  request := by
    rintro speed speed' request stage stage' related
    cases related with
    | none => exact Or.inr ⟨.value rfl, .none⟩
    | @some scene scene' busy =>
        obtain ⟨canvas, queue⟩ := scene'
        have taken : (Scene.request (request speed')).run ⟨canvas, queue⟩ =
            (.ok (), ⟨canvas, queue.enqueue (request speed').script⟩) := by
          rw [Scene.request, Scene.run_perform, Animation.Queue.perform_submit_busy busy]
        rcases went : (Scene.request (request speed)).run scene with ⟨fault | ⟨⟩, after⟩
        · refine Or.inl ⟨fault, ne_tooManyCalls_of_request went, ?_⟩
          rw [run_request_some went]
        · rw [run_request_some went, run_request_some taken]
          exact Or.inr ⟨.value rfl, .some busy⟩
  room := by
    rintro _ _ _ _ related
    cases related <;> exact Or.inl rfl

end Tie

/-- What a command prints comes behind what was printed before. -/
theorem Command.run_output {σ : Type} [Platform] [Stage σ] (command : Command) (state : State σ) :
    ∃ rest, (command.run.run state).2.world.output = state.world.output ++ rest := by
  let silent : State σ := { state with world := { state.world with output := "" } }
  have alike : (Tie.continuing σ state.world.output).StatesAlike Eq state silent :=
    ⟨rfl, ⟨rfl, rfl⟩, by simp [silent, Tie.continuing], rfl, rfl, rfl, rfl, rfl⟩
  rcases command.run_agrees (Tie.continuing_respected σ _) (fun _ => rfl) state silent alike with
    ⟨_, ⟨_, excused, _⟩, _⟩ | ⟨_, after⟩
  · exact excused.elim
  · exact ⟨_, after.output⟩

namespace Session

/-- Sessions that a program cannot tell apart, with the same part of it still to run. -/
structure Alike (tie : Tie (Option Scene) (Option Scene)) (left right : Session) : Prop where
  state : tie.StatesAlike (fun _ _ => True) left.state right.state
  pending : left.pending = right.pending
  error : left.error = right.error
  failed : left.failed = right.failed

/-- A session in which a command has failed. -/
def afterFailure (command : Command) (error : Error) (session : Session) : Session :=
  { session with
    error := some error
    failed := some command
    pending := []
    state :=
      { session.state with
        world :=
          { session.state.world with
            output := session.output ++ ("Error: " ++ error.message ++ "\n") } } }

variable {tie : Tie (Option Scene) (Option Scene)} {left right after : Session}

theorem Alike.afterFailure (alike : Alike tie left right) (command : Command) (error : Error) :
    Alike tie (left.afterFailure command error) (right.afterFailure command error) := by
  have printed (text : String) : left.output ++ text = tie.before ++ (right.output ++ text) := by
    rw [← String.append_assoc]
    exact congrArg (· ++ text) alike.state.output
  exact ⟨{ alike.state with output := printed _ }, rfl, rfl, rfl⟩

variable [Platform]

/-! ## What a step comes to -/

/-- A session in which the next command has run, whatever came of it. -/
def afterCommand (command : Command) (rest : List Command) (session : Session) : Session :=
  { session with state := (command.run.run session.state).2, pending := rest, readyAt := none }

/-- How the command ended decides what becomes of the rest of the program. -/
theorem run_step {session : Session} {command : Command} {rest : List Command}
    (waiting : session.pending = command :: rest) :
    step.run session =
      match (command.run.run session.state).1 with
      | .ok _ => (.ok (), session.afterCommand command rest)
      | .error (.signal (.output _)) =>
          (.ok (), (session.afterCommand command rest).afterFailure command .strayOutput)
      | .error (.signal _) => (.ok (), { session.afterCommand command rest with pending := [] })
      | .error (.mishap (.error error)) =>
          (.ok (), (session.afterCommand command rest).afterFailure command error)
      | .error (.mishap (.fault .tooManyCalls)) =>
          (.ok (), (session.afterCommand command rest).afterFailure command .tooDeep)
      | .error (.mishap (.fault fault)) => (.error fault, session.afterCommand command rest) := by
  obtain ⟨state, speed, now, pending, readyAt, error, failed⟩ := session
  cases waiting
  have evaluated :
      (evaluate command.run).run ⟨state, speed, now, rest, none, error, failed⟩ =
        (.ok (command.run.run state).1,
          ⟨(command.run.run state).2, speed, now, rest, none, error, failed⟩) :=
    rfl
  simp only [step, Effectful.run_bind, Effectful.run_get, Effectful.run_modify, evaluated,
    afterCommand]
  cases (command.run.run state).1 with
  | ok _ => rfl
  | error halt =>
      cases halt with
      | signal signal => cases signal <;> rfl
      | mishap mishap =>
          cases mishap with
          | error error => rfl
          | fault fault => cases fault <;> rfl

theorem run_step_nil {session : Session} (none : session.pending = []) :
    step.run session = (.ok (), session) := by
  obtain ⟨state, speed, now, pending, readyAt, error, failed⟩ := session
  cases none
  rfl

/-! ## Steps of sessions that are alike -/

/--
Sessions that are alike take the same step.  If running out of the stack is
excused, the left one may do so alone; nothing is left of its program then.
-/
theorem Alike.step (alike : Alike tie left right) (respected : tie.Respected)
    (stepped : step.run left = (.ok (), after)) :
    (tie.excused .tooManyCalls ∧ after.error = some .tooDeep ∧ after.pending = []) ∨
      ∃ after', step.run right = (.ok (), after') ∧ Alike tie after after' := by
  cases waiting : right.pending with
  | nil =>
      rw [run_step_nil (alike.pending.trans waiting)] at stepped
      cases stepped
      exact Or.inr ⟨right, run_step_nil waiting, alike⟩
  | cons command rest =>
      rw [run_step (alike.pending.trans waiting)] at stepped
      rcases command.run_agrees respected (fun _ => trivial) left.state right.state alike.state with
        ⟨_, ⟨fault, excused, rfl⟩, ended⟩ | ⟨matching, alikeAfter⟩
      · rw [ended] at stepped
        cases fault with
        | tooManyCalls =>
            cases stepped
            exact Or.inl ⟨excused, rfl, rfl⟩
        | _ => cases stepped
      · have begun : Alike tie (left.afterCommand command rest) (right.afterCommand command rest) :=
          ⟨alikeAfter, rfl, alike.error, alike.failed⟩
        rw [matching.eq] at stepped
        rw [run_step waiting]
        generalize (command.run.run right.state).1 = result at stepped ⊢
        split at stepped
        · cases stepped
          exact Or.inr ⟨_, rfl, begun⟩
        · cases stepped
          exact Or.inr ⟨_, rfl, begun.afterFailure command _⟩
        · rename_i signal other
          cases stepped
          cases signal with
          | output value => exact (other value rfl).elim
          | stop | bye => exact Or.inr ⟨_, rfl, { begun with pending := rfl }⟩
        · cases stepped
          exact Or.inr ⟨_, rfl, begun.afterFailure command _⟩
        · cases stepped
          exact Or.inr ⟨_, rfl, begun.afterFailure command _⟩
        · cases stepped

/-! ## Sessions with and without a scene -/

/-- A session with another scene. -/
def withScene (session : Session) (scene : Option Scene) : Session :=
  match session with
  | ⟨⟨⟨⟨turtle, turtleSpeed, _⟩, output, procedures, draws⟩, scope⟩, speed, now, pending,
      readyAt, error, failed⟩ =>
      ⟨⟨⟨⟨turtle, turtleSpeed, scene⟩, output, procedures, draws⟩, scope⟩, speed, now, pending,
        readyAt, error, failed⟩

/-- Without a scene there is nothing to animate. -/
theorem run_animate_none {session : Session} (bare : session.scene = none)
    (action : Animation.Step Brushwork) : (animate action).run session = (.ok (), session) := by
  obtain ⟨⟨⟨⟨turtle, turtleSpeed, stage⟩, output, procedures, draws⟩, scope⟩, speed, now, pending,
    readyAt, error, failed⟩ := session
  cases bare
  rfl

/-- To animate a session is to animate its scene. -/
theorem run_animate_some {session : Session} {scene : Scene} (shown : session.scene = some scene)
    (action : Animation.Step Brushwork) :
    (animate action).run session =
      (((Scene.perform action).run scene).1,
        session.withScene (some ((Scene.perform action).run scene).2)) := by
  obtain ⟨⟨⟨⟨turtle, turtleSpeed, stage⟩, output, procedures, draws⟩, scope⟩, speed, now, pending,
    readyAt, error, failed⟩ := session
  cases shown
  rfl

/-- Animating a session changes nothing but its scene. -/
theorem exists_withScene_of_animate {action : Animation.Step Brushwork} {session after : Session}
    {result : Except Fault Unit} (animated : (animate action).run session = (result, after)) :
    ∃ scene, after = session.withScene scene := by
  cases shown : session.scene with
  | none =>
      rw [run_animate_none shown] at animated
      cases animated
      exact ⟨session.scene, rfl⟩
  | some scene =>
      rw [run_animate_some shown] at animated
      cases animated
      exact ⟨_, rfl⟩

/-- With nothing pending nothing is run. -/
theorem run_runPending_nil {session : Session} (none : session.pending = []) (count : Nat) :
    (runPending count).run session = (.ok (), session) := by
  cases count with
  | zero => rfl
  | succ count =>
      simp only [runPending, Effectful.run_bind, Effectful.run_get, none, List.isEmpty_nil, if_true]
      rfl

/-- The next command is run after the queue is drained. -/
theorem run_runPending_cons {session : Session} {command : Command} {rest : List Command}
    (waiting : session.pending = command :: rest) (count : Nat) :
    (runPending (count + 1)).run session =
      (animate .drain >>= fun _ => step >>= fun _ => runPending count).run session := by
  have unfolded :
      (runPending (count + 1)).run session =
        (if session.pending.isEmpty then pure ()
          else animate .drain >>= fun _ => step >>= fun _ => runPending count :
          Running Unit).run session :=
    rfl
  rw [unfolded, waiting]
  rfl

/-- Where a run of the pending commands leads to is reached by a drain and a step at a time. -/
theorem exists_of_runPending_cons {session after : Session} {command : Command}
    {rest : List Command} {count : Nat} (waiting : session.pending = command :: rest)
    (ran : (runPending (count + 1)).run session = (.ok (), after)) :
    ∃ drained stepped, (animate .drain).run session = (.ok (), drained) ∧
      step.run drained = (.ok (), stepped) ∧ (runPending count).run stepped = (.ok (), after) := by
  rw [run_runPending_cons waiting] at ran
  obtain ⟨⟨⟩, drained, first, others⟩ := Effectful.run_bind_eq_ok_iff.mp ran
  obtain ⟨⟨⟩, stepped, second, rest⟩ := Effectful.run_bind_eq_ok_iff.mp others
  exact ⟨drained, stepped, first, second, rest⟩

/-- Running to the end runs the pending commands, then drains the queue. -/
theorem exists_of_runToEnd {session ended : Session} {fine : Bool}
    (ran : runToEnd.run session = (.ok fine, ended)) :
    ∃ between, (runPending session.pending.length).run session = (.ok (), between) ∧
      (animate .drain).run between = (.ok (), ended) ∧ fine = ended.error.isNone := by
  obtain ⟨_, _, ⟨⟩, closing⟩ := Effectful.run_bind_eq_ok_iff.mp ran
  obtain ⟨⟨⟩, between, pended, drains⟩ := Effectful.run_bind_eq_ok_iff.mp closing
  obtain ⟨⟨⟩, after, drained, looked⟩ := Effectful.run_bind_eq_ok_iff.mp drains
  cases looked
  exact ⟨between, pended, drained, rfl⟩

theorem Alike.animate_unwatched (alike : Alike .unwatched left right)
    {action : Animation.Step Brushwork} {result : Except Fault Unit}
    (animated : (animate action).run left = (result, after)) : Alike .unwatched after right := by
  obtain ⟨scene, rfl⟩ := exists_withScene_of_animate animated
  exact { alike with state := { alike.state with backdrop := alike.state.backdrop } }

/-- A session without a scene does what one with a scene does that never runs out of the stack. -/
theorem Alike.runPending (alike : Alike .unwatched left right) {count : Nat}
    (ran : (runPending count).run left = (.ok (), after)) (shallow : after.error ≠ some .tooDeep) :
    ∃ after', (Session.runPending count).run right = (.ok (), after') ∧
      Alike .unwatched after after' := by
  induction count generalizing left right with
  | zero =>
      cases ran
      exact ⟨right, rfl, alike⟩
  | succ count induction =>
      cases waiting : right.pending with
      | nil =>
          rw [run_runPending_nil (alike.pending.trans waiting)] at ran
          cases ran
          exact ⟨right, run_runPending_nil waiting _, alike⟩
      | cons command rest =>
          obtain ⟨drained, stepped, first, second, others⟩ :=
            exists_of_runPending_cons (alike.pending.trans waiting) ran
          have bare : right.scene = none := alike.state.backdrop
          rcases (alike.animate_unwatched first).step Tie.unwatched_respected second with
            ⟨-, deep, nothing⟩ | ⟨stepped', second', alikeAfter⟩
          · rw [run_runPending_nil nothing] at others
            cases others
            exact absurd deep shallow
          · rw [run_runPending_cons waiting, Effectful.run_bind_ok (run_animate_none bare _),
              Effectful.run_bind_ok second']
            exact induction alikeAfter others

/-- Running to the end is running what is pending and then draining the queue. -/
theorem run_runToEnd {session between ended : Session}
    (ran : (Session.runPending session.pending.length).run session = (.ok (), between))
    (drained : (animate .drain).run between = (.ok (), ended)) :
    runToEnd.run session = (.ok ended.error.isNone, ended) := by
  have unfolded :
      runToEnd.run session =
        (Session.runPending session.pending.length >>= fun _ => animate .drain >>= fun _ =>
          (do return (← get).error.isNone : Running Bool)).run session :=
    rfl
  rw [unfolded, Effectful.run_bind_ok ran, Effectful.run_bind_ok drained]
  rfl

/-- So it comes to the same end. -/
theorem Alike.runToEnd (alike : Alike .unwatched left right) {fine : Bool}
    (ran : runToEnd.run left = (.ok fine, after)) (shallow : after.error ≠ some .tooDeep) :
    ∃ after', Session.runToEnd.run right = (.ok fine, after') ∧ Alike .unwatched after after' := by
  obtain ⟨between, pended, drained, rfl⟩ := exists_of_runToEnd ran
  have kept : after.error = between.error := by
    obtain ⟨scene, rfl⟩ := exists_withScene_of_animate drained
    rfl
  rw [kept] at shallow
  obtain ⟨after', pended', alikeBetween⟩ := alike.runPending pended shallow
  rw [alike.pending] at pended'
  refine ⟨after', ?_, alikeBetween.animate_unwatched drained⟩
  rw [run_runToEnd pended' (run_animate_none alikeBetween.state.backdrop _), kept,
    alikeBetween.error]

/-! ## Starting -/

/-- A session in which the program and all animations have been dropped. -/
def cancelled (session : Session) : Session :=
  match session with
  | ⟨⟨⟨⟨turtle, turtleSpeed, stage⟩, output, procedures, draws⟩, scope⟩, speed, now, _, _,
      error, failed⟩ =>
      ⟨⟨⟨⟨turtle, turtleSpeed, stage.map Scene.cancel⟩, output, procedures, draws⟩, scope⟩, speed,
        now, [], none, error, failed⟩

theorem run_cancel (session : Session) :
    Session.cancel.run session = (.ok (), session.cancelled) := by
  obtain ⟨⟨⟨⟨turtle, turtleSpeed, stage⟩, output, procedures, draws⟩, scope⟩, speed, now, pending,
    readyAt, error, failed⟩ := session
  rw [Session.cancel, Effectful.run_bind, Effectful.run_modify]
  cases stage with
  | none => rfl
  | some scene =>
      show (animate .cancel).run _ = _
      rw [run_animate_some rfl, Scene.run_perform_cancel]
      rfl

/-- A session in which commands have been started, after dropping all that was there. -/
def started (commands : List Command) (session : Session) : Session :=
  match session with
  | ⟨⟨⟨⟨turtle, turtleSpeed, stage⟩, output, _, draws⟩, _⟩, speed, now, _, _, _, _⟩ =>
      ⟨⟨⟨⟨turtle, turtleSpeed, stage.map Scene.cancel⟩, output, .empty, draws⟩, .empty⟩, speed, now,
        commands, some now, none, none⟩

/-- A program without issues can always be started. -/
theorem run_start {program : Program} (clean : program.isClean = true) (session : Session) :
    (start program).run session = (.ok (), session.started program.commands) := by
  rw [start, Effectful.run_bind_ok (run_cancel session), Effectful.run_bind, Effectful.run_modify,
    clean]
  rfl

/-- What is printed about a program with issues. -/
def issueReport (program : Program) : String :=
  "Parsing errors:\n" ++ String.join (program.messages.map fun text => "- " ++ text ++ "\n")

/-- A session that was given a program with issues: all that was there is dropped nevertheless. -/
def declined (program : Program) (session : Session) : Session :=
  match session.cancelled with
  | ⟨⟨⟨studio, output, procedures, draws⟩, scope⟩, speed, now, pending, readyAt, _, _⟩ =>
      ⟨⟨⟨studio, output ++ issueReport program, procedures, draws⟩, scope⟩, speed, now, pending,
        readyAt, none, none⟩

/-- A program with issues is not begun. -/
theorem run_start_declined {program : Program} (issues : program.isClean = false)
    (session : Session) : (start program).run session = (.ok (), session.declined program) := by
  rw [start, Effectful.run_bind_ok (run_cancel session), Effectful.run_bind, Effectful.run_modify,
    issues]
  rfl

/-- A new session in which a program has been started. -/
def launched (program : Program) (surface : Option Picture.Surface) (speed : Int)
    (sequence : Nat → Nat) : Session :=
  ((start program).run (new surface speed sequence)).2

theorem launched_eq {program : Program} (clean : program.isClean = true)
    (surface : Option Picture.Surface) (speed : Int) (sequence : Nat → Nat) :
    launched program surface speed sequence =
      (new surface speed sequence).started program.commands := by
  rw [launched, run_start clean]

end Session

end Logo
