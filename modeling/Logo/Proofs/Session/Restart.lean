import Logo.Proofs.Animation.Ledger
import Logo.Proofs.Session.Schedule

/-!
# A new start

Starting a program drops whatever was running before, wherever it may hide:
commands that are pending, tasks that wait or are in flight, and scripts that
wait for a frame or for a time.  So what a program does after its start cannot
be told from what it does in a session without any past.

The main statement compares two sessions with different pasts.  Both are
compared with a third one, which has printed nothing.  If they have scenes, it
has one too, but its queue is kept busy, so that it takes all requests and
shows none of them.
-/

namespace Logo.Session

open Animation

/-! ## Only pending commands begin -/

/-- What has begun and what is pending, in a row, is the beginning of the given commands. -/
def Watched.Within (commands : List Command) (watched : Watched) : Prop :=
  watched.begun ++ watched.session.pending <+: commands

/-- Nothing comes in from elsewhere. -/
def Watched.Closed (before after : Watched) : Prop :=
  ∀ commands, before.Within commands → after.Within commands

theorem Watched.Closed.refl (watched : Watched) : watched.Closed watched :=
  fun _ => id

theorem Watched.Closed.trans {before between after : Watched} (first : before.Closed between)
    (second : between.Closed after) : before.Closed after :=
  fun commands within => second commands (first commands within)

theorem aside_closed {α : Type} {action : Running α}
    (kept : ∀ session, (action.run session).2.pending = session.pending) :
    Effectful.Moves Watched.Closed (aside action) := by
  intro watched commands within
  have after : ((aside action).run watched).2 = ⟨(action.run watched.session).2, watched.begun⟩ :=
    rfl
  rw [after, Watched.Within, kept]
  exact within

/-- What begins from a session on was pending in it. -/
theorem Watched.Closed.begun {session : Session} {after : Watched}
    (closed : Watched.Closed ⟨session, []⟩ after) : after.begun <+: session.pending :=
  (List.prefix_append _ _).trans (closed session.pending List.prefix_rfl)

section

variable [Platform]

/-- Pacing takes no command off. -/
theorem pace_pending (now : Float) (session : Session) :
    ((pace now).run session).2.pending = session.pending := by
  have same := animate_pending (.tick now) { session with now }
  rcases ran : (animate (.tick now)).run { session with now } with ⟨fault | ⟨⟩, between⟩
  · rw [run_pace_fault ran]
    rw [ran] at same
    exact same
  · rw [run_pace ran]
    rw [ran] at same
    split
    · exact same
    · exact same

theorem notedStep_closed : Effectful.Moves Watched.Closed notedStep := by
  intro watched commands within
  rw [run_notedStep]
  show watched.begun ++ watched.session.pending.take 1 ++ _ <+: commands
  cases waiting : watched.session.pending with
  | nil =>
      rw [run_step_nil waiting, waiting, List.take_nil, List.append_nil]
      rw [Watched.Within, waiting] at within
      exact within
  | cons command rest =>
      rw [Watched.Within, waiting, List.append_cons] at within
      rcases (step_keeps waiting).2 with ⟨left, _⟩ | none
      · rw [left]
        exact within
      · rw [none, List.append_nil]
        exact (List.prefix_append _ rest).trans within

theorem watchedTicks_closed (times : List Float) :
    Effectful.Moves Watched.Closed (watchedTicks times) := by
  induction times with
  | nil => exact .value .refl ()
  | cons now rest induction =>
      apply Effectful.Moves.sequence .trans ?_ fun _ => induction
      apply (aside_closed (pace_pending now)).sequence .trans
      intro ready
      cases ready with
      | false => exact .value .refl ()
      | true => exact notedStep_closed

/-- Running to the end begins no command from elsewhere. -/
theorem watchedToEnd_closed : Effectful.Moves Watched.Closed watchedToEnd :=
  watchedToEnd_moves .refl .trans (aside_closed (animate_pending .drain)) notedStep_closed

/-! ## Nothing is left of what was there before -/

/--
A session in which a program has just been started, or declined.  Only its
commands are pending and nothing else can begin; the queue is empty, so
whatever it begins from now on was registered from now on.
-/
structure Afresh (program : Program) (session : Session) : Prop where
  error : session.error = none
  failed : session.failed = none
  pending : session.pending = if program.isClean then program.commands else []
  byTicks : ∀ times, session.begunByTicks times <+: session.pending
  toEnd : session.begunToEnd <+: session.pending
  rests : session.Rests
  registered : ∀ scene ∈ session.scene, ∀ notes engine ledger,
    Recorded Canvas.apply ⟨scene.queue, scene.canvas, []⟩ .empty notes engine ledger →
      ∀ entry ∈ begunIn notes, entry ∈ registeredIn notes

theorem Rests.registered {session : Session} (rests : session.Rests) {scene : Scene}
    (shown : scene ∈ session.scene) {notes : List (Note Brushwork)}
    {engine : Engine Brushwork Canvas} {ledger : Ledger Brushwork}
    (recorded : Recorded Canvas.apply ⟨scene.queue, scene.canvas, []⟩ .empty notes engine ledger)
    {entry : Entry (Item Brushwork)} (begun : entry ∈ begunIn notes) :
    entry ∈ registeredIn notes := by
  have fits : (Ledger.empty : Ledger Brushwork).Fits
      (⟨scene.queue, scene.canvas, []⟩ : Engine Brushwork Canvas) := by
    rw [rests scene shown]
    exact ⟨rfl, rfl, rfl, rfl⟩
  rcases recorded.registered_or_waiting fits begun with now | before
  · exact now
  · exact absurd before (Multiset.notMem_zero _)

theorem afresh {program : Program} {session : Session} (error : session.error = none)
    (failed : session.failed = none)
    (pending : session.pending = if program.isClean then program.commands else [])
    (rests : session.Rests) : Afresh program session where
  error := error
  failed := failed
  pending := pending
  byTicks times := Watched.Closed.begun (watchedTicks_closed times ⟨session, []⟩)
  toEnd := Watched.Closed.begun (watchedToEnd_closed ⟨session, []⟩)
  rests := rests
  registered := fun _ shown _ _ _ recorded _ begun => rests.registered shown recorded begun

/-- A start never fails, and nothing is left of what was there before. -/
theorem start_afresh (program : Program) (session : Session) :
    ∃ begun, (start program).run session = (.ok (), begun) ∧ Afresh program begun := by
  cases clean : program.isClean with
  | true =>
      refine ⟨_, run_start clean session, afresh rfl rfl ?_ (rests_cancelled session)⟩
      rw [clean]
      rfl
  | false =>
      refine ⟨_, run_start_declined clean session, afresh rfl rfl ?_ (rests_cancelled session)⟩
      rw [clean]
      rfl

end

/-! ## Sessions side by side -/

/-- Sessions that cannot be told from a third one, after printing some text each. -/
def Abreast (text text' : String) (left right : Session) : Prop :=
  ∃ reference, Alike (.unshown text) left reference ∧ Alike (.unshown text') right reference

theorem Abreast.pending {text text' : String} {left right : Session}
    (abreast : Abreast text text' left right) : left.pending = right.pending := by
  obtain ⟨reference, alike, alike'⟩ := abreast
  exact alike.pending.trans alike'.pending.symm

theorem Abreast.error {text text' : String} {left right : Session}
    (abreast : Abreast text text' left right) : left.error = right.error := by
  obtain ⟨reference, alike, alike'⟩ := abreast
  exact alike.error.trans alike'.error.symm

/-- The same session, about to draw other random numbers. -/
def withDraws (draws : Draws) (session : Session) : Session :=
  { session with state := { session.state with world := { session.state.world with draws } } }

/--
Two sessions that a program has brought to their ends, each from where it was
when the program was started: nothing tells their ends apart.  A program with
issues has no variables and procedures, and it does not touch what is there.
-/
structure SameYield (program : Program) (left right ended ended' : Session) : Prop where
  output : ∃ text, ended.output = left.output ++ text ∧ ended'.output = right.output ++ text
  error : ended.error = ended'.error
  failed : ended.failed = ended'.failed
  turtle : ended.turtle = ended'.turtle
  bindings : program.isClean = true → ended.state.scope.bindings = ended'.state.scope.bindings
  procedures : program.isClean = true →
    ended.state.world.procedures = ended'.state.world.procedures
  untouched : program.isClean = false →
    (ended.state.scope = left.state.scope ∧
      ended.state.world.procedures = left.state.world.procedures) ∧
    ended'.state.scope = right.state.scope ∧
      ended'.state.world.procedures = right.state.world.procedures

/-- Sessions that stay abreast of one that has never run yield the same. -/
theorem Abreast.sameYield {program : Program} (clean : program.isClean = true)
    {left right ended ended' : Session} (abreast : Abreast left.output right.output ended ended') :
    SameYield program left right ended ended' := by
  obtain ⟨reference, alike, alike'⟩ := abreast
  refine ⟨⟨_, alike.state.output, alike'.state.output⟩, alike.error.trans alike'.error.symm,
    alike.failed.trans alike'.failed.symm, alike.state.turtle.trans alike'.state.turtle.symm,
    fun _ => ?_, fun _ => ?_, ?_⟩
  · rw [alike.state.bindings, alike'.state.bindings]
  · rw [alike.state.procedures, alike'.state.procedures]
  · intro issues
    rw [clean] at issues
    cases issues

/-- A session without a past in which commands have been started. -/
def fromNothing (turtle : Turtle) (draws : Draws) (scene : Option Scene)
    (commands : List Command) : Session :=
  ⟨⟨⟨⟨turtle, 0, scene⟩, "", .empty, draws⟩, .empty⟩, 0, 0, commands, none, none, none⟩

/-- A scene whose queue is kept busy, so that it shows nothing. -/
def busyScene : Scene :=
  ⟨.onSurface (.filled 0 0 .white), ⟨0, [], true, [], []⟩⟩

/-- A session that has just been started is like one that has never run. -/
theorem alike_fromNothing {session : Session} {shown : Bool} (scenes : session.scene.isSome = shown)
    (draws : Draws) (commands : List Command) :
    Alike (.unshown session.output) ((session.withDraws draws).started commands)
      (fromNothing session.turtle draws (if shown then some busyScene else none) commands) := by
  obtain ⟨⟨⟨⟨turtle, turtleSpeed, stage⟩, output, procedures, _⟩, scope⟩, speed, now, pending,
    readyAt, error, failed⟩ := session
  have related : Option.Rel (fun _ scene => scene.queue.busy = true) (stage.map Scene.cancel)
      (if shown then some busyScene else none) := by
    cases stage <;> cases scenes
    · exact .none
    · exact .some rfl
  exact ⟨⟨rfl, related, String.append_empty.symm, rfl, rfl, rfl, rfl, trivial⟩, rfl, rfl, rfl⟩

/-- Sessions in which the same commands have just been started go side by side. -/
theorem abreast_started {left right : Session} (scenes : left.scene.isSome = right.scene.isSome)
    (turtle : left.turtle = right.turtle) (draws : Draws) (commands : List Command) :
    Abreast left.output right.output ((left.withDraws draws).started commands)
      ((right.withDraws draws).started commands) := by
  have alike := alike_fromNothing scenes draws commands
  rw [turtle] at alike
  exact ⟨_, alike, alike_fromNothing rfl draws commands⟩

variable [Platform]

theorem Alike.animate_unshown {text : String} {session after reference : Session}
    (alike : Alike (.unshown text) session reference) {action : Animation.Step Brushwork}
    (animated : (animate action).run session = (.ok (), after)) :
    Alike (.unshown text) after reference := by
  rcases scenes_of_related alike.state.backdrop with ⟨bare, -⟩ |
      ⟨scene, scene', shown, shown', busy⟩
  · rw [run_animate_none bare] at animated
    cases animated
    exact alike
  · rw [run_animate_some shown] at animated
    obtain rfl := congrArg Prod.snd animated
    rw [← withScene_scene reference, shown']
    exact alike.withScenes (.unshown text) rfl (.some busy)

namespace Abreast

variable {text text' : String} {left right after after' : Session}

/-- Animating keeps sessions abreast. -/
theorem animate (abreast : Abreast text text' left right) {action : Animation.Step Brushwork}
    (animated : (animate action).run left = (.ok (), after))
    (animated' : (Session.animate action).run right = (.ok (), after')) :
    Abreast text text' after after' := by
  obtain ⟨reference, alike, alike'⟩ := abreast
  exact ⟨reference, alike.animate_unshown animated, alike'.animate_unshown animated'⟩

/-- A step keeps sessions abreast. -/
theorem step (abreast : Abreast text text' left right)
    (stepped : step.run left = (.ok (), after))
    (stepped' : Session.step.run right = (.ok (), after')) : Abreast text text' after after' := by
  obtain ⟨reference, alike, alike'⟩ := abreast
  obtain ⟨next, took, alikeAfter⟩ :=
    (alike.step (Tie.unshown_respected text) stepped).resolve_left fun deep => deep.1 rfl
  obtain ⟨next', took', alikeAfter'⟩ :=
    (alike'.step (Tie.unshown_respected text') stepped').resolve_left fun deep => deep.1 rfl
  rw [took] at took'
  cases took'
  exact ⟨next, alikeAfter, alikeAfter'⟩

theorem runPending (abreast : Abreast text text' left right) {count : Nat}
    (ran : (runPending count).run left = (.ok (), after))
    (ran' : (Session.runPending count).run right = (.ok (), after')) :
    Abreast text text' after after' := by
  induction count generalizing left right with
  | zero =>
      cases ran
      cases ran'
      exact abreast
  | succ count induction =>
      cases waiting : right.pending with
      | nil =>
          rw [run_runPending_nil (abreast.pending.trans waiting)] at ran
          rw [run_runPending_nil waiting] at ran'
          cases ran
          cases ran'
          exact abreast
      | cons command rest =>
          obtain ⟨drained, between, drains, steps, others⟩ :=
            exists_of_runPending_cons (abreast.pending.trans waiting) ran
          obtain ⟨drained', between', drains', steps', others'⟩ :=
            exists_of_runPending_cons waiting ran'
          exact induction ((abreast.animate drains drains').step steps steps') others others'

/-- Sessions that are run to their ends side by side come to the same end. -/
theorem runToEnd (abreast : Abreast text text' left right) {fine fine' : Bool}
    (ran : runToEnd.run left = (.ok fine, after))
    (ran' : Session.runToEnd.run right = (.ok fine', after')) :
    fine = fine' ∧ Abreast text text' after after' := by
  obtain ⟨between, pended, drains, rfl⟩ := exists_of_runToEnd ran
  obtain ⟨between', pended', drains', rfl⟩ := exists_of_runToEnd ran'
  rw [abreast.pending] at pended
  have ended := (abreast.runPending pended pended').animate drains drains'
  exact ⟨by rw [ended.error], ended⟩

end Abreast

/-! ## Two sessions with different pasts -/

/-- Start a program and run it to its end. -/
def startToEnd (program : Program) : Running Bool := do
  start program
  runToEnd

/-- With nothing pending, only the scene can change. -/
theorem runToEnd_nil {session ended : Session} {fine : Bool} (nothing : session.pending = [])
    (ran : runToEnd.run session = (.ok fine, ended)) :
    fine = session.error.isNone ∧ ∃ scene, ended = session.withScene scene := by
  obtain ⟨between, pended, drained, rfl⟩ := exists_of_runToEnd ran
  rw [run_runPending_nil nothing] at pended
  cases pended
  obtain ⟨scene, rfl⟩ := exists_withScene_of_animate drained
  exact ⟨rfl, scene, rfl⟩

theorem startToEnd_clean {program : Program} (clean : program.isClean = true)
    {session ended : Session} {fine : Bool}
    (ran : (startToEnd program).run session = (.ok fine, ended)) :
    runToEnd.run (session.started program.commands) = (.ok fine, ended) := by
  rwa [startToEnd, Effectful.run_bind_ok (run_start clean session)] at ran

theorem startToEnd_declined {program : Program} (issues : program.isClean = false)
    {session ended : Session} {fine : Bool}
    (ran : (startToEnd program).run session = (.ok fine, ended)) :
    fine = true ∧ ∃ scene, ended = (session.declined program).withScene scene := by
  rw [startToEnd, Effectful.run_bind_ok (run_start_declined issues session)] at ran
  exact runToEnd_nil rfl ran

/--
A new start leaks nothing from before.  Take two sessions with any pasts, in
the middle of whatever they are doing, with the same turtle, both with a
picture or both without; they need not even have the same speed.  A program
that is started and run to its end with the same random numbers, and comes to
its end in both, ends the same way in both: with the same result, after
printing the same text, with the same error, the same turtle, and the same
variables and procedures.  (A program with issues is not begun and has no
variables and procedures.)  And in any session, a start always succeeds, and
nothing but the commands of the program begins after it, nor anything in the
queue that was not registered after it.
-/
theorem restart_leaks_nothing (program : Program) (draws : Draws)
    {left right ended ended' : Session} {fine fine' : Bool}
    (scenes : left.scene.isSome = right.scene.isSome) (turtle : left.turtle = right.turtle)
    (ran : (startToEnd program).run (left.withDraws draws) = (.ok fine, ended))
    (ran' : (startToEnd program).run (right.withDraws draws) = (.ok fine', ended')) :
    (fine = fine' ∧ SameYield program left right ended ended') ∧
      ∀ session, ∃ begun, (start program).run session = (.ok (), begun) ∧ Afresh program begun := by
  refine ⟨?_, start_afresh program⟩
  cases clean : program.isClean with
  | true =>
      have abreast := abreast_started scenes turtle draws program.commands
      obtain ⟨same, ends⟩ :=
        abreast.runToEnd (startToEnd_clean clean ran) (startToEnd_clean clean ran')
      exact ⟨same, ends.sameYield clean⟩
  | false =>
      obtain ⟨rfl, scene, rfl⟩ := startToEnd_declined clean ran
      obtain ⟨rfl, scene', rfl⟩ := startToEnd_declined clean ran'
      refine ⟨rfl, ⟨issueReport program, rfl, rfl⟩, rfl, rfl, turtle, ?_, ?_, fun _ => ?_⟩
      · intro begun
        rw [clean] at begun
        cases begun
      · intro begun
        rw [clean] at begun
        cases begun
      · exact ⟨⟨rfl, rfl⟩, rfl, rfl⟩

end Logo.Session

namespace Logo.Session

/-- A session in the middle of a wait, which is still in its queue. -/
def waitingSession [Platform] : Session :=
  ((Session.tick 0).run patientSession).2

/-- The same turtle in a session where everything has been dropped. -/
def droppedSession [Platform] : Session :=
  waitingSession.cancelled

theorem cancelled_turtle (session : Session) : session.cancelled.turtle = session.turtle :=
  rfl

theorem isSome_scene_cancelled (session : Session) :
    session.cancelled.scene.isSome = session.scene.isSome :=
  Option.isSome_map

/-- The program that waits can be started again while it waits, and ends as anywhere else. -/
theorem waiting_leaks_nothing :
    letI := Platform.standard
    waitingSession.isStill = false ∧ waitingSession.pending ≠ [] ∧
      SameYield patience waitingSession droppedSession
        ((startToEnd patience).run (waitingSession.withDraws ⟨id, 0⟩)).2
        ((startToEnd patience).run (droppedSession.withDraws ⟨id, 0⟩)).2 := by
  let _ := Platform.standard
  have ran : ((startToEnd patience).run (waitingSession.withDraws ⟨id, 0⟩)).1 = .ok true := by
    decide +kernel
  have ran' : ((startToEnd patience).run (droppedSession.withDraws ⟨id, 0⟩)).1 = .ok true := by
    decide +kernel
  have turtle : waitingSession.turtle = droppedSession.turtle := by
    rw [droppedSession, cancelled_turtle]
  have scenes : waitingSession.scene.isSome = droppedSession.scene.isSome := by
    rw [droppedSession, isSome_scene_cancelled]
  refine ⟨by decide +kernel, List.ne_nil_of_length_pos (by decide +kernel), ?_⟩
  rcases went : (startToEnd patience).run (waitingSession.withDraws ⟨id, 0⟩) with ⟨fine, ended⟩
  rcases went' : (startToEnd patience).run (droppedSession.withDraws ⟨id, 0⟩) with ⟨fine', ended'⟩
  rw [went] at ran
  rw [went'] at ran'
  cases ran
  cases ran'
  exact (restart_leaks_nothing patience ⟨id, 0⟩ scenes turtle went went').1.2

end Logo.Session
