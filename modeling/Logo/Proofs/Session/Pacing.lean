import Logo.Proofs.Canvas.AtRest
import Logo.Proofs.Machine.Recursion
import Logo.Proofs.Session.Watching

/-!
# Pacing changes nothing

A session can be driven by ticks at any times, or run to its end without
pause.  Both begin the same commands in the same order, print the same and
leave the same picture.  The reason is that a command only begins when all
animations have ended, and then the canvas has gone through all the brushwork
there is, however the time was spent.  So a paced session is at every moment
where the other one has been: at the same command, with a picture that the
other one gets to by the next time it has drained its queue.
-/

namespace Logo

open Animation

/-! ## Scenes -/

namespace Scene

variable [Rasterizer]

/-- The left scene shows what the right one will show once it has got that far. -/
def Ahead (left right : Scene) : Prop :=
  ∃ had rest, right.queue.Settled (had ++ rest) ∧ left.queue.Settled rest ∧
    Leads Canvas.apply had right.canvas left.canvas

/-- A scene is ahead of every scene that is level with it. -/
theorem Level.ahead {left right : Scene} (level : left.Level right) : left.Ahead right := by
  obtain ⟨sameCanvas, sameQueue, pending, settled⟩ := level
  refine ⟨[], pending, settled.of_level sameQueue, settled, ?_⟩
  rw [sameCanvas]
  exact .nil _

/-- A tick takes a scene further ahead. -/
theorem Ahead.tick {left right after : Scene} (ahead : left.Ahead right) {now : Float}
    (ticked : (perform (.tick now)).run left = (.ok (), after)) : after.Ahead right := by
  obtain ⟨canvas, queue⟩ := left
  obtain ⟨had, rest, settledRight, settled, leads⟩ := ahead
  have ending : Ending Canvas.apply canvas rest (queue.perform Canvas.apply (.tick now) canvas) :=
    Queue.perform_tick settled now
  rw [run_perform] at ticked
  generalize queue.perform Canvas.apply (.tick now) canvas = ended at ending ticked
  cases ending with
  | @settled more others _ _ split further settledAfter =>
      cases ticked
      subst split
      refine ⟨had ++ more, others, ?_, settledAfter, Leads.append_iff.mpr ⟨_, leads, further⟩⟩
      rw [List.append_assoc]
      exact settledRight
  | failed _ _ _ => cases ticked
  | endless _ => cases ticked

/-- A drain catches up with a scene that is ahead and has come to rest. -/
theorem Ahead.drain {left right : Scene} (ahead : left.Ahead right)
    (idle : left.queue.isIdle = true) :
    (∃ after, (perform .drain).run right = (.ok (), after) ∧ left.Level after) ∨
      ∃ after, (perform .drain).run right = (.error .endlessLoop, after) ∧
        after.queue.isStuck = true := by
  obtain ⟨canvas, queue⟩ := right
  obtain ⟨had, rest, settledRight, settled, leads⟩ := ahead
  obtain ⟨resting, rfl⟩ := settled.of_idle idle
  rw [List.append_nil] at settledRight
  have ending : Ending Canvas.apply canvas had (queue.perform Canvas.apply .drain canvas) :=
    Queue.perform_drain settledRight
  rw [run_perform]
  generalize performed : queue.perform Canvas.apply .drain canvas = ended at ending ⊢
  cases ending with
  | @settled first others after painted split leadsFirst settledAfter =>
      have idleAfter := Queue.idle_of_perform_drain performed
      obtain ⟨restingAfter, rfl⟩ := settledAfter.of_idle idleAfter
      rw [List.append_nil] at split
      subst split
      refine Or.inl ⟨_, rfl, leads.unique leadsFirst, ?_, [], settled⟩
      rw [resting, restingAfter]
      exact ⟨rfl, rfl, rfl, rfl⟩
  | @failed first others effect cause between painted _ split leadsFirst fails =>
      subst split
      obtain ⟨reached, leadsReached, leadsOn⟩ := Leads.append_iff.mp leads
      obtain ⟨_, went, _⟩ := Leads.cons_iff.mp leadsOn
      cases leadsFirst.unique leadsReached
      rw [fails] at went
      cases went
  | endless stuck => exact Or.inr ⟨_, rfl, stuck⟩

end Scene

/-- A scene on the left that is ahead of the one on the right. -/
def Tie.trailing [Rasterizer] : Tie (Option Scene) (Option Scene) :=
  { Tie.leveling with
    backdrop := fun speed stage speed' stage' =>
      speed = speed' ∧ Option.Rel Scene.Ahead stage stage' }

/-! ## Sessions -/

namespace Session

/-- Sessions with related scenes both have a scene, or neither has. -/
theorem scenes_of_related {related : Scene → Scene → Prop} {left right : Session}
    (rel : Option.Rel related left.state.world.studio.stage right.state.world.studio.stage) :
    (left.scene = none ∧ right.scene = none) ∨
      ∃ scene scene', left.scene = some scene ∧ right.scene = some scene' ∧
        related scene scene' := by
  unfold scene
  generalize left.state.world.studio.stage = stage at rel ⊢
  generalize right.state.world.studio.stage = stage' at rel ⊢
  cases rel with
  | none => exact Or.inl ⟨rfl, rfl⟩
  | some holds => exact Or.inr ⟨_, _, rfl, rfl, holds⟩

/-- Sessions that are alike stay alike when their scenes become related in another way. -/
theorem Alike.withScenes {tie : Tie (Option Scene) (Option Scene)} {left right : Session}
    (alike : Alike tie left right) (other : Tie (Option Scene) (Option Scene))
    (same : other.before = tie.before) {scene scene' : Option Scene}
    (backdrop : other.backdrop left.state.world.studio.speed scene
      right.state.world.studio.speed scene') :
    Alike other (left.withScene scene) (right.withScene scene') :=
  ⟨⟨alike.state.turtle, backdrop, same ▸ alike.state.output, alike.state.procedures,
    alike.state.draws, alike.state.bindings, alike.state.round, trivial⟩, alike.pending,
    alike.error, alike.failed⟩

theorem withScene_scene (session : Session) : session.withScene session.scene = session :=
  rfl

/-- Sessions that a program has left in the same state, up to their pictures. -/
structure SameOutcome (left right : Session) : Prop where
  output : left.output = right.output
  turtle : left.turtle = right.turtle
  bindings : left.state.scope.bindings = right.state.scope.bindings
  procedures : left.state.world.procedures = right.state.world.procedures
  error : left.error = right.error
  failed : left.failed = right.failed

/-- Sessions that are alike and have printed the same come to the same outcome. -/
theorem Alike.sameOutcome {tie : Tie (Option Scene) (Option Scene)} {left right : Session}
    (alike : Alike tie left right) (unprinted : tie.before = "") : SameOutcome left right where
  output := by
    have printed := alike.state.output
    rw [unprinted, String.empty_append] at printed
    exact printed
  turtle := alike.state.turtle
  bindings := alike.state.bindings
  procedures := alike.state.procedures
  error := alike.error
  failed := alike.failed

/-- Scenes that are level show the same picture. -/
theorem Alike.canvas {left right : Session} (alike : Alike .leveling left right) :
    left.scene.map Scene.canvas = right.scene.map Scene.canvas := by
  rcases scenes_of_related alike.state.backdrop.2 with
    ⟨bare, bare'⟩ | ⟨scene, scene', shown, shown', level⟩
  · rw [bare, bare']
  · rw [shown, shown', Option.map_some, Option.map_some, level.canvas]

/-- A session that has just been started keeps level with itself. -/
theorem started_level (commands : List Command) (session : Session) :
    Alike .leveling (session.started commands) (session.started commands) := by
  obtain ⟨⟨⟨⟨turtle, turtleSpeed, stage⟩, output, procedures, draws⟩, scope⟩, speed, now, pending,
    readyAt, error, failed⟩ := session
  have level : Option.Rel Scene.Level (stage.map Scene.cancel) (stage.map Scene.cancel) := by
    cases stage with
    | none => exact .none
    | some scene => exact .some ⟨rfl, .refl _, [], Queue.settled_cancel _⟩
  exact ⟨⟨rfl, ⟨rfl, level⟩, String.empty_append.symm, rfl, rfl, rfl, rfl, trivial⟩, rfl, rfl, rfl⟩

variable [Platform]

/-- Whether a timer of the scene will never come due. -/
def isStuck (session : Session) : Bool :=
  session.scene.any fun scene => scene.queue.isStuck

/-- Sessions at the same point whose scenes are level: neither is ahead. -/
theorem Alike.trailing {left right : Session} (alike : Alike .leveling left right) :
    Alike .trailing left right := by
  obtain ⟨sameSpeed, related⟩ := alike.state.backdrop
  have ahead : Option.Rel Scene.Ahead left.scene right.scene := by
    rcases scenes_of_related related with ⟨bare, bare'⟩ | ⟨_, _, shown, shown', level⟩
    · rw [bare, bare']
      exact .none
    · rw [shown, shown']
      exact .some level.ahead
  exact alike.withScenes .trailing rfl ⟨sameSpeed, ahead⟩

/-- A tick of the animations keeps a paced session ahead. -/
theorem Alike.tick {paced reference after : Session} (alike : Alike .trailing paced reference)
    {now : Float} (ticked : (animate (.tick now)).run paced = (.ok (), after)) :
    Alike .trailing after reference := by
  obtain ⟨sameSpeed, related⟩ := alike.state.backdrop
  rcases scenes_of_related related with ⟨bare, _⟩ | ⟨scene, scene', shown, shown', ahead⟩
  · rw [run_animate_none bare] at ticked
    cases ticked
    exact alike
  · rw [run_animate_some shown] at ticked
    rcases performed : (Scene.perform (.tick now)).run scene with ⟨fault | ⟨⟩, sceneAfter⟩
    · rw [performed] at ticked
      cases ticked
    · rw [performed] at ticked
      cases ticked
      rw [← withScene_scene reference, shown']
      exact alike.withScenes .trailing rfl ⟨sameSpeed, .some (ahead.tick performed)⟩

/-- When a paced session has come to rest, a drain of the other catches up with it. -/
theorem Alike.drain {paced reference : Session} (alike : Alike .trailing paced reference)
    (still : paced.isStill = true) :
    (∃ after, (animate .drain).run reference = (.ok (), after) ∧ Alike .leveling paced after) ∨
      ∃ after, (animate .drain).run reference = (.error .endlessLoop, after) ∧
        after.isStuck = true := by
  obtain ⟨sameSpeed, related⟩ := alike.state.backdrop
  rcases scenes_of_related related with ⟨bare, bare'⟩ | ⟨scene, scene', shown, shown', ahead⟩
  · refine Or.inl ⟨reference, run_animate_none bare' _, ?_⟩
    rw [← withScene_scene paced, ← withScene_scene reference, bare, bare']
    exact alike.withScenes .leveling rfl ⟨sameSpeed, .none⟩
  · have idle : scene.queue.isIdle = true := by
      simpa [isStill, shown] using still
    rw [run_animate_some shown']
    rcases ahead.drain idle with ⟨after, drained, level⟩ | ⟨after, drained, stuck⟩
    · rw [drained]
      refine Or.inl ⟨_, rfl, ?_⟩
      rw [← withScene_scene paced, shown]
      exact alike.withScenes .leveling rfl ⟨sameSpeed, .some level⟩
    · rw [drained]
      exact Or.inr ⟨_, rfl, stuck⟩

/-- Letting time pass keeps a paced session ahead, and a command begins only when it is at rest. -/
theorem Alike.pace {paced reference after : Session} (alike : Alike .trailing paced reference)
    {now : Float} {ready : Bool} (ran : (pace now).run paced = (.ok ready, after)) :
    Alike .trailing after reference ∧
      (ready = true → after.isStill = true ∧ after.pending ≠ []) := by
  have later : Alike .trailing { paced with now } reference := { alike with }
  simp only [Session.pace, Effectful.run_bind, Effectful.run_modify] at ran
  rcases ticked : (animate (.tick now)).run { paced with now } with ⟨fault | ⟨⟩, between⟩
  · rw [ticked] at ran
    cases ran
  · rw [ticked] at ran
    have alikeBetween := later.tick ticked
    simp only [Effectful.run_get] at ran
    split at ran
    · cases ran
      exact ⟨alikeBetween, Bool.false_ne_true.elim⟩
    · rename_i waiting
      cases ran
      rw [Bool.or_eq_true, not_or, Bool.not_eq_true', Bool.not_eq_false] at waiting
      refine ⟨{ alikeBetween with }, fun _ => ⟨waiting.2, ?_⟩⟩
      intro none
      exact waiting.1 (List.isEmpty_iff.mpr none)

/-! ## Watched sessions -/

/-- Animating leaves the program where it is. -/
theorem animate_pending (action : Animation.Step Brushwork) (session : Session) :
    ((animate action).run session).2.pending = session.pending := by
  cases shown : session.scene with
  | none => rw [run_animate_none shown]
  | some scene =>
      rw [run_animate_some shown]
      rfl

/-- A step takes at least one command off those that are pending. -/
theorem step_pending {session : Session} {command : Command} {rest : List Command}
    (waiting : session.pending = command :: rest) :
    (Session.step.run session).2.pending.length ≤ rest.length := by
  rw [run_step waiting]
  split
  · exact Nat.le_refl _
  · exact Nat.zero_le _
  · exact Nat.zero_le _
  · exact Nat.zero_le _
  · exact Nat.zero_le _
  · exact Nat.le_refl _

/-- A drain and a step of a watched session. -/
def round : Watching Unit := do
  aside (animate .drain)
  notedStep

theorem run_round (watched : Watched) :
    round.run watched =
      match (animate .drain).run watched.session with
      | (.error fault, between) => (.error fault, ⟨between, watched.begun⟩)
      | (.ok (), between) =>
          ((Session.step.run between).1,
            ⟨(Session.step.run between).2, watched.begun ++ between.pending.take 1⟩) := by
  have drained :
      (aside (animate .drain)).run watched =
        (((animate .drain).run watched.session).1,
          ⟨((animate .drain).run watched.session).2, watched.begun⟩) :=
    rfl
  rw [round, Effectful.run_bind, drained]
  rcases (animate .drain).run watched.session with ⟨fault | ⟨⟩, between⟩ <;> rfl

/-- A round takes a command off those that are pending. -/
theorem round_pending {watched after : Watched} {command : Command} {rest : List Command}
    (waiting : watched.session.pending = command :: rest)
    (ran : round.run watched = (.ok (), after)) :
    after.session.pending.length ≤ rest.length := by
  rw [run_round] at ran
  have pending := animate_pending .drain watched.session
  rcases drained : (animate .drain).run watched.session with ⟨fault | ⟨⟩, between⟩
  · rw [drained] at ran
    cases ran
  · rw [drained] at ran pending
    have reached : (⟨(Session.step.run between).2, _⟩ : Watched) = after := congrArg Prod.snd ran
    rw [← reached]
    exact step_pending (pending.trans waiting)

theorem run_watchedPending_nil {watched : Watched} (none : watched.session.pending = [])
    (count : Nat) : (watchedPending count).run watched = (.ok (), watched) := by
  cases count with
  | zero => rfl
  | succ count =>
      simp only [watchedPending, Effectful.run_bind, Effectful.run_get, none, List.isEmpty_nil,
        if_true]
      rfl

theorem run_watchedPending_cons {watched : Watched} {command : Command} {rest : List Command}
    (waiting : watched.session.pending = command :: rest) (count : Nat) :
    (watchedPending (count + 1)).run watched =
      (round >>= fun _ => watchedPending count).run watched := by
  have unfolded :
      (watchedPending (count + 1)).run watched =
        (if watched.session.pending.isEmpty then pure ()
          else round >>= fun _ => watchedPending count : Watching Unit).run watched := by
    rw [round, bind_assoc]
    rfl
  rw [unfolded, waiting]
  rfl

/-- How much further the count goes than there are commands does not matter. -/
theorem run_watchedPending_enough {count other : Nat} {watched : Watched}
    (enough : watched.session.pending.length ≤ count)
    (enough' : watched.session.pending.length ≤ other) :
    (watchedPending count).run watched = (watchedPending other).run watched := by
  induction count generalizing watched other with
  | zero =>
      have none := List.length_eq_zero_iff.mp (Nat.le_zero.mp enough)
      rw [run_watchedPending_nil none, run_watchedPending_nil none]
  | succ count induction =>
      cases waiting : watched.session.pending with
      | nil => rw [run_watchedPending_nil waiting, run_watchedPending_nil waiting]
      | cons command rest =>
          rw [waiting, List.length_cons] at enough enough'
          obtain ⟨other, rfl⟩ : ∃ fewer, other = fewer + 1 := ⟨other - 1, by omega⟩
          rw [run_watchedPending_cons waiting, run_watchedPending_cons waiting,
            Effectful.run_bind, Effectful.run_bind]
          rcases ran : round.run watched with ⟨fault | ⟨⟩, after⟩
          · rfl
          · have fewer := round_pending waiting ran
            exact induction (Nat.le_trans fewer (Nat.le_of_succ_le_succ enough))
              (Nat.le_trans fewer (Nat.le_of_succ_le_succ enough'))

/-- The end of a run, after the last command. -/
def closing : Watching Bool := do
  aside (animate .drain)
  return (← get).session.error.isNone

theorem run_watchedToEnd_eq (watched : Watched) :
    watchedToEnd.run watched =
      (watchedPending watched.session.pending.length >>= fun _ => closing).run watched :=
  rfl

/-- A session that is to be run to its end may as well be run one round further first. -/
theorem run_watchedToEnd_round {watched after : Watched} (waiting : watched.session.pending ≠ [])
    (ran : round.run watched = (.ok (), after)) :
    watchedToEnd.run watched = watchedToEnd.run after := by
  cases split : watched.session.pending with
  | nil => exact (waiting split).elim
  | cons command rest =>
      have fewer := round_pending split ran
      rw [run_watchedToEnd_eq, run_watchedToEnd_eq, Effectful.run_bind, Effectful.run_bind, split,
        List.length_cons, run_watchedPending_cons split, Effectful.run_bind_ok ran,
        run_watchedPending_enough fewer (Nat.le_refl _)]

/-- A round that goes wrong is the end. -/
theorem run_watchedToEnd_fault {watched after : Watched} {fault : Fault}
    (waiting : watched.session.pending ≠ []) (ran : round.run watched = (.error fault, after)) :
    watchedToEnd.run watched = (.error fault, after) := by
  cases split : watched.session.pending with
  | nil => exact (waiting split).elim
  | cons command rest =>
      rw [run_watchedToEnd_eq, Effectful.run_bind, split, List.length_cons,
        run_watchedPending_cons split, Effectful.run_bind_error ran]

/--
Where a paced session stands against running to the end from the start: there
is a session with as much begun, behind the paced one at most in its picture,
from which running to the end comes to the same.  The exception is a run to
the end that gets stuck on the way.
-/
def Keeps (start paced : Watched) : Prop :=
  ((watchedToEnd.run start).1 = .error .endlessLoop ∧
      (watchedToEnd.run start).2.session.isStuck = true) ∨
    ∃ reference, watchedToEnd.run reference = watchedToEnd.run start ∧
      reference.begun = paced.begun ∧ Alike .trailing paced.session reference.session

theorem run_notedStep (watched : Watched) :
    notedStep.run watched =
      ((Session.step.run watched.session).1,
        ⟨(Session.step.run watched.session).2,
          watched.begun ++ watched.session.pending.take 1⟩) :=
  rfl

/-- When the next command begins, the other session drains its queue and begins it too. -/
theorem Keeps.notedStep {start paced after : Watched} (keeps : Keeps start paced)
    (still : paced.session.isStill = true) (waiting : paced.session.pending ≠ [])
    (stepped : notedStep.run paced = (.ok (), after)) : Keeps start after := by
  rcases keeps with stuck | ⟨reference, same, sameBegun, alike⟩
  · exact Or.inl stuck
  have waiting' : reference.session.pending ≠ [] := alike.pending ▸ waiting
  rcases alike.drain still with ⟨between, drained, level⟩ | ⟨between, drained, stuck⟩
  · rw [run_notedStep] at stepped
    rcases advanced : Session.step.run paced.session with ⟨fault | ⟨⟩, next⟩
    · rw [advanced] at stepped
      cases stepped
    rw [advanced] at stepped
    cases stepped
    obtain ⟨next', advanced', levelAfter⟩ :=
      (level.step Tie.leveling_respected advanced).resolve_left fun deep => deep.1 rfl
    have ran : round.run reference =
        (.ok (), ⟨next', reference.begun ++ between.pending.take 1⟩) := by
      rw [run_round, drained]
      simp only [advanced']
    refine Or.inr ⟨_, (run_watchedToEnd_round waiting' ran).symm.trans same, ?_,
      levelAfter.trailing⟩
    rw [sameBegun, level.pending]
  · have ran : round.run reference = (.error .endlessLoop, ⟨between, reference.begun⟩) := by
      rw [run_round, drained]
    left
    rw [← same, run_watchedToEnd_fault waiting' ran]
    exact ⟨rfl, stuck⟩

/-- A tick keeps a paced session where the other one has been. -/
theorem Keeps.tick {start paced after : Watched} (keeps : Keeps start paced) {now : Float}
    (ran : (watchedTick now).run paced = (.ok (), after)) : Keeps start after := by
  rcases waited : (Session.pace now).run paced.session with ⟨fault | ready, between⟩
  · have ended : (aside (Session.pace now)).run paced = (.error fault, ⟨between, paced.begun⟩) := by
      simp only [aside, ExceptT.run] at waited ⊢
      rw [waited]
    rw [watchedTick, Effectful.run_bind_error ended] at ran
    cases ran
  · have went : (aside (Session.pace now)).run paced = (.ok ready, ⟨between, paced.begun⟩) := by
      simp only [aside, ExceptT.run] at waited ⊢
      rw [waited]
    rw [watchedTick, Effectful.run_bind_ok went] at ran
    rcases keeps with stuck | ⟨reference, same, sameBegun, alike⟩
    · exact Or.inl stuck
    obtain ⟨alikeBetween, atRest⟩ := alike.pace waited
    have keepsBetween : Keeps start ⟨between, paced.begun⟩ :=
      Or.inr ⟨reference, same, sameBegun, alikeBetween⟩
    cases ready with
    | false =>
        cases ran
        exact keepsBetween
    | true =>
        obtain ⟨still, waiting⟩ := atRest rfl
        exact keepsBetween.notedStep still waiting ran

/-- Ticks at any times keep a paced session where the other one has been. -/
theorem Keeps.ticks {start paced after : Watched} (keeps : Keeps start paced) {times : List Float}
    (ran : (watchedTicks times).run paced = (.ok (), after)) : Keeps start after := by
  induction times generalizing paced with
  | nil =>
      cases ran
      exact keeps
  | cons now rest induction =>
      rw [watchedTicks, Effectful.run_bind] at ran
      rcases ticked : (watchedTick now).run paced with ⟨fault | ⟨⟩, between⟩
      · rw [ticked] at ran
        cases ran
      · rw [ticked] at ran
        exact induction (keeps.tick ticked) ran

/-! ## Paced sessions against running to the end -/

/-- The commands that ticks at the given times begin. -/
def begunByTicks (times : List Float) (session : Session) : List Command :=
  ((watchedTicks times).run ⟨session, []⟩).2.begun

/-- The commands that running to the end begins. -/
def begunToEnd (session : Session) : List Command :=
  (watchedToEnd.run ⟨session, []⟩).2.begun

/-- Started with and without a scene, sessions are alike. -/
theorem launched_unwatched {program : Program} (clean : program.isClean = true)
    (surface : Option Picture.Surface) (speed : Int) (sequence : Nat → Nat) :
    Alike .unwatched (launched program surface speed sequence)
      (launched program none speed sequence) := by
  rw [launched_eq clean, launched_eq clean]
  exact ⟨⟨rfl, rfl, String.empty_append.symm, rfl, rfl, rfl, rfl, trivial⟩, rfl, rfl, rfl⟩

/-- With nothing left to run, running to the end only drains the queue. -/
theorem run_watchedToEnd_nil {watched : Watched} {after : Session}
    (none : watched.session.pending = [])
    (drained : (animate .drain).run watched.session = (.ok (), after)) :
    watchedToEnd.run watched = (.ok after.error.isNone, ⟨after, watched.begun⟩) := by
  have closed : (aside (animate .drain)).run watched = (.ok (), ⟨after, watched.begun⟩) := by
    simp only [aside, ExceptT.run] at drained ⊢
    rw [drained]
  rw [run_watchedToEnd_eq, Effectful.run_bind_ok (run_watchedPending_nil none _), closing,
    Effectful.run_bind_ok closed]
  rfl

theorem run_watchedToEnd_nil_fault {watched : Watched} {after : Session} {fault : Fault}
    (none : watched.session.pending = [])
    (drained : (animate .drain).run watched.session = (.error fault, after)) :
    watchedToEnd.run watched = (.error fault, ⟨after, watched.begun⟩) := by
  have closed : (aside (animate .drain)).run watched = (.error fault, ⟨after, watched.begun⟩) := by
    simp only [aside, ExceptT.run] at drained ⊢
    rw [drained]
  rw [run_watchedToEnd_eq, Effectful.run_bind_ok (run_watchedPending_nil none _), closing,
    Effectful.run_bind_error closed]

/-- A paced session that has come to rest is where running to the end leads. -/
theorem Keeps.at_rest {start paced : Watched} (keeps : Keeps start paced)
    (moving : (watchedToEnd.run start).1 = .error .endlessLoop →
      (watchedToEnd.run start).2.session.isStuck = false)
    (rest : paced.session.isRunning = false) :
    (watchedToEnd.run start).1 = .ok paced.session.error.isNone ∧
      Alike .leveling paced.session (watchedToEnd.run start).2.session := by
  simp only [isRunning, Bool.or_eq_false_iff, Bool.not_eq_false', List.isEmpty_iff] at rest
  rcases keeps with ⟨endless, stuck⟩ | ⟨reference, same, sameBegun, alike⟩
  · exact absurd (moving endless) (by simp [stuck])
  have none : reference.session.pending = [] := alike.pending ▸ rest.1
  rcases alike.drain rest.2 with ⟨after, drained, level⟩ | ⟨after, drained, stuck⟩
  · rw [← same, run_watchedToEnd_nil none drained, level.error]
    exact ⟨rfl, level⟩
  · rw [← same, run_watchedToEnd_nil_fault none drained] at moving
    exact absurd (moving rfl) (by simp [stuck])

/-- Running to the end begins and prints what a paced session has, and then maybe more. -/
theorem Keeps.extends {start paced : Watched} (keeps : Keeps start paced)
    (moving : (watchedToEnd.run start).1 = .error .endlessLoop →
      (watchedToEnd.run start).2.session.isStuck = false) :
    paced.Extends (watchedToEnd.run start).2 := by
  rcases keeps with ⟨endless, stuck⟩ | ⟨reference, same, sameBegun, alike⟩
  · exact absurd (moving endless) (by simp [stuck])
  have extended := watchedToEnd_extends reference
  rw [same] at extended
  unfold Watched.Extends at extended ⊢
  rw [(alike.sameOutcome rfl).output, ← sameBegun]
  exact extended

/--
A session that runs to its end with a picture does so without one, unless its
calls are nested too deeply.
-/
theorem run_launched_bare {program : Program} (clean : program.isClean = true)
    {surface : Option Picture.Surface} {speed : Int} {sequence : Nat → Nat} {ended : Session}
    {fine : Bool}
    (ran : runToEnd.run (launched program surface speed sequence) = (.ok fine, ended))
    (shallow : ended.error ≠ some .tooDeep) :
    ∃ bare, runToEnd.run (launched program none speed sequence) = (.ok fine, bare) ∧
      SameOutcome ended bare := by
  obtain ⟨bare, bareRan, alike⟩ :=
    (launched_unwatched clean surface speed sequence).runToEnd ran shallow
  exact ⟨bare, bareRan, alike.sameOutcome rfl⟩

/--
However a session is paced, it begins the commands that running to the end
begins, in the same order, and prints the same text.  Once it has come to
rest, nothing tells the two apart, the picture included.  Apart from the
picture, nothing tells a session with a picture from one without, unless its
calls are nested too deeply: it takes some of the stack to draw.

Running to the end is only compared with where it does not hang: a wait that
is due at no time (an infinite one followed by one of minus infinity) keeps it
from ever coming to its end.
-/
theorem paced_follows_runToEnd (program : Program) (clean : program.isClean = true)
    (surface : Option Picture.Surface) (speed : Int) (sequence : Nat → Nat) (times : List Float)
    (paced ended : Session) (result : Except Fault Bool)
    (ticked : (ticks times).run (launched program surface speed sequence) = (.ok (), paced))
    (ran : runToEnd.run (launched program surface speed sequence) = (result, ended))
    (moving : result = .error .endlessLoop → ended.isStuck = false) :
    begunByTicks times (launched program surface speed sequence) <+:
        begunToEnd (launched program surface speed sequence) ∧
      (∃ text, ended.output = paced.output ++ text) ∧
      (paced.isRunning = false →
        result = .ok paced.error.isNone ∧ SameOutcome paced ended ∧
          paced.scene.map Scene.canvas = ended.scene.map Scene.canvas) ∧
      (∀ fine, result = .ok fine → ended.error ≠ some .tooDeep →
        ∃ bare, runToEnd.run (launched program none speed sequence) = (.ok fine, bare) ∧
          SameOutcome ended bare) := by
  let start : Watched := ⟨launched program surface speed sequence, []⟩
  have watchedTicked : (watchedTicks times).run start = (.ok (), ⟨paced, begunByTicks times _⟩) :=
    run_watchedTicks ticked
  have watchedRan : watchedToEnd.run start = (result, ⟨ended, begunToEnd _⟩) :=
    run_watchedToEnd ran
  have initially : Keeps start start := by
    refine Or.inr ⟨start, rfl, rfl, ?_⟩
    simp only [start, launched_eq clean]
    exact (started_level _ _).trailing
  have keeps := initially.ticks watchedTicked
  have moving' : (watchedToEnd.run start).1 = .error .endlessLoop →
      (watchedToEnd.run start).2.session.isStuck = false := by
    rw [watchedRan]
    exact moving
  have extended := keeps.extends moving'
  have atRest := keeps.at_rest moving'
  rw [watchedRan] at extended atRest
  obtain ⟨⟨commands, begun⟩, printed⟩ := extended
  refine ⟨⟨commands, begun.symm⟩, printed, ?_, ?_⟩
  · intro rest
    obtain ⟨fine, level⟩ := atRest rest
    exact ⟨fine, level.sameOutcome rfl, level.canvas⟩
  · rintro fine rfl shallow
    exact run_launched_bare clean ran shallow

end Session

namespace Session

/-- A program that waits for a second before it prints. -/
def patience : Program :=
  ⟨[.primitive .wait [.number 60] ⟨0, 0, 4⟩, .primitive .print [.word "up"] ⟨0, 8, 13⟩],
    "WAIT 60 PRINT \"up", []⟩

/-- A session with a small picture in which the program that waits has been started. -/
def patientSession [Platform] : Session :=
  launched patience (some (.filled 3 3 ⟨255, 255, 255⟩)) 100 fun _ => 0

theorem patience_follows_runToEnd :
    letI := Platform.standard
    ((ticks [0, 0.5, 1, 2]).run patientSession).2.isRunning = false ∧
      SameOutcome ((ticks [0, 0.5, 1, 2]).run patientSession).2
        (runToEnd.run patientSession).2 := by
  let _ := Platform.standard
  have ticked : ((ticks [0, 0.5, 1, 2]).run patientSession).1 = .ok () := by decide +kernel
  have ran : (runToEnd.run patientSession).1 = .ok true := by decide +kernel
  have rest : ((ticks [0, 0.5, 1, 2]).run patientSession).2.isRunning = false := by decide +kernel
  refine ⟨rest, ?_⟩
  rcases tickedTo : (ticks [0, 0.5, 1, 2]).run patientSession with ⟨went, paced⟩
  rcases ranTo : runToEnd.run patientSession with ⟨result, ended⟩
  rw [tickedTo] at ticked rest
  rw [ranTo] at ran
  cases ticked
  cases ran
  obtain ⟨_, _, same, _⟩ :=
    paced_follows_runToEnd patience rfl _ 100 _ _ paced ended _ tickedTo ranTo nofun
  exact (same rest).2.1

/-! ## Calls that are nested too deeply -/

/-- A program that runs out of the stack, and asks for something to be drawn in every call. -/
def spinning : Program :=
  ⟨[.define "SPIN" [] spin.body ⟨0, 0, 2⟩, .define "GO" [] pauseAndSpin.body ⟨0, 31, 33⟩,
      .call "GO" [] false ⟨0, 54, 56⟩],
    "TO SPIN CLEAN TYPE \"x SPIN END TO GO WAIT 60 SPIN END GO", []⟩

section Spinning

variable [Platform] {kind : Option Scene → Prop} {needed : Nat}

/-- A session in which a procedure has been defined by the next command. -/
def afterDefinition (procedure : Procedure) (rest : List Command) (session : Session) : Session :=
  { session with
    state :=
      ⟨{ session.state.world with
          procedures :=
            session.state.world.procedures.insert (Text.fold procedure.name) procedure },
        session.state.scope⟩
    pending := rest
    readyAt := none }

/-- A definition as the next command only adds its procedure, once the queue is drained. -/
theorem run_runPending_define {session : Session} {stage : Option Scene} {procedure : Procedure}
    {origin : Origin} {rest : List Command}
    (waiting : session.pending =
      .define procedure.name procedure.parameters procedure.body origin :: rest)
    (drained : (animate .drain).run session = (.ok (), session.withScene stage)) (count : Nat) :
    (runPending (count + 1)).run session =
      (runPending count).run ((session.withScene stage).afterDefinition procedure rest) := by
  have waits : (session.withScene stage).pending =
      .define procedure.name procedure.parameters procedure.body origin :: rest := waiting
  have stepped : Session.step.run (session.withScene stage) =
      (.ok (), (session.withScene stage).afterDefinition procedure rest) := by
    rw [run_step waits]
    rfl
  rw [run_runPending_cons waiting, Effectful.run_bind_ok drained, Effectful.run_bind_ok stepped]

/-- A last command that runs out of the stack ends the program with an error. -/
theorem run_runPending_tooDeep {session : Session} {stage : Option Scene} {command : Command}
    {final : State (Option Scene)} (waiting : session.pending = [command])
    (drained : (animate .drain).run session = (.ok (), session.withScene stage))
    (ran : command.run.run (session.withScene stage).state =
      (.error (.mishap (.fault .tooManyCalls)), final)) :
    ∃ last, (runPending 1).run session = (.ok (), last) ∧ last.error = some .tooDeep ∧
      last.scene = final.world.studio.stage ∧
      last.output = final.world.output ++ ("Error: " ++ Error.tooDeep.message ++ "\n") := by
  have waits : (session.withScene stage).pending = [command] := waiting
  have stepped : Session.step.run (session.withScene stage) =
      (.ok (), ((session.withScene stage).afterCommand command []).afterFailure command
        .tooDeep) := by
    rw [run_step waits, ran]
  refine ⟨((session.withScene stage).afterCommand command []).afterFailure command .tooDeep,
    ?_, rfl, ?_, ?_⟩
  · rw [run_runPending_cons waiting, Effectful.run_bind_ok drained, Effectful.run_bind_ok stepped]
    rfl
  · exact congrArg (·.2.world.studio.stage) ran
  · exact congrArg (·.2.world.output ++ ("Error: " ++ Error.tooDeep.message ++ "\n")) ran

variable (drains : ∀ {session : Session}, kind session.scene →
  ∃ stage, (animate .drain).run session = (.ok (), session.withScene stage) ∧ kind stage)

include drains

/-- After the two definitions only the call is left, and finds what it needs to spin. -/
theorem exists_ready_to_spin {session : Session} (waiting : session.pending = spinning.commands)
    (turtle : session.turtle = .initial) (fresh : kind session.scene) :
    ∃ ready stage, (runPending 3).run session = (runPending 1).run ready ∧
      ready.pending = [.call "GO" [] false ⟨0, 54, 56⟩] ∧
      (animate .drain).run ready = (.ok (), ready.withScene stage) ∧
      (ready.withScene stage).state.Spins kind ∧
      (ready.withScene stage).state.world.procedures.find? (Text.fold "GO") =
        some pauseAndSpin ∧
      (ready.withScene stage).state.world.output = session.output := by
  obtain ⟨first, drainedFirst, memberFirst⟩ := drains fresh
  let once := (session.withScene first).afterDefinition spin
    [.define "GO" [] pauseAndSpin.body ⟨0, 31, 33⟩, .call "GO" [] false ⟨0, 54, 56⟩]
  have memberOnce : kind once.scene := memberFirst
  obtain ⟨second, drainedSecond, memberSecond⟩ := drains memberOnce
  let twice := (once.withScene second).afterDefinition pauseAndSpin
    [.call "GO" [] false ⟨0, 54, 56⟩]
  have memberTwice : kind twice.scene := memberSecond
  obtain ⟨third, drainedThird, memberThird⟩ := drains memberTwice
  have procedures : (twice.withScene third).state.world.procedures =
      (session.state.world.procedures.insert (Text.fold "SPIN") spin).insert (Text.fold "GO")
        pauseAndSpin := rfl
  refine ⟨twice, third, ?_, rfl, drainedThird, ⟨turtle, memberThird, ?_⟩, ?_, rfl⟩
  · have defined : (runPending 3).run session = (runPending 2).run once :=
      run_runPending_define waiting drainedFirst 2
    rw [defined]
    exact run_runPending_define rfl drainedSecond 1
  · rw [procedures, Bindings.find?_insert, if_neg (by decide +kernel), Bindings.find?_insert,
      if_pos rfl]
  · rw [procedures, Bindings.find?_insert, if_pos rfl]

/-- On every stage the program runs out of the stack; how much it prints depends on the stage. -/
theorem run_launched_spinning (stages : Stage.LetsClean kind needed)
    {surface : Option Picture.Surface} {speed : Int} {sequence : Nat → Nat}
    (fresh : kind (launched spinning surface speed sequence).scene) {calls : Nat}
    (limit : Platform.calls = calls + 1) (enough : needed ≤ calls) :
    ∃ ended, runToEnd.run (launched spinning surface speed sequence) = (.ok false, ended) ∧
      ended.error = some .tooDeep ∧
      ended.output = String.ofList (List.replicate (calls - needed) 'x') ++
        ("Error: " ++ Error.tooDeep.message ++ "\n") := by
  rw [launched_eq rfl] at fresh ⊢
  obtain ⟨ready, stage, defined, waiting, drained, spins, known, silent⟩ :=
    exists_ready_to_spin drains rfl rfl fresh
  obtain ⟨final, called, member, printed⟩ :=
    spins.run_pauseAndSpin stages known enough ⟨0, 54, 56⟩
  have ran : (Command.call "GO" [] false ⟨0, 54, 56⟩).run.run (ready.withScene stage).state =
      (.error (.mishap (.fault .tooManyCalls)), final) := by
    rw [Command.run, limit]
    exact called
  obtain ⟨last, pended, deep, shown, text⟩ := run_runPending_tooDeep waiting drained ran
  obtain ⟨after, drainedLast, -⟩ := drains (shown ▸ member)
  have ranPending :
      (runPending ((new surface speed sequence).started spinning.commands).pending.length).run
        ((new surface speed sequence).started spinning.commands) = (.ok (), last) :=
    defined.trans pended
  have deepAfter : (last.withScene after).error = some .tooDeep := deep
  refine ⟨last.withScene after, ?_, deepAfter, ?_⟩
  · rw [run_runToEnd ranPending drainedLast, deepAfter]
    rfl
  · have shownAfter : (last.withScene after).output = last.output := rfl
    have unprinted : ((new surface speed sequence).started spinning.commands).output = "" := rfl
    rw [shownAfter, text, printed, silent, unprinted, String.empty_append]

end Spinning

/-- Where there is no picture, asking takes no room. -/
theorem letsClean_none [Platform] :
    Stage.LetsClean (fun stage : Option Scene => stage = none) 0 where
  room := by
    rintro _ rfl
    rfl
  repaint := by
    rintro _ rfl
    exact ⟨none, rfl, rfl⟩
  wait := by
    rintro _ rfl
    exact ⟨none, rfl, rfl⟩

/-- A scene on a small picture, on which all that is pending can be drawn. -/
def IsOnStamp [Rasterizer] (stage : Option Scene) : Prop :=
  ∃ scene, stage = some scene ∧ scene.Drawable ∧
    Picture.Grid.SameSize (Canvas.onSurface stamp).surface scene.canvas.surface

namespace IsOnStamp

variable [Platform] {stage : Option Scene}

/-- What can be drawn on the small picture may be asked for. -/
theorem request (onStamp : IsOnStamp stage) {request : Request}
    (finite : ∀ milliseconds, request = .wait milliseconds →
      (milliseconds / 1000).isFinite = true)
    (fine : ∀ piece ∈ request.brushwork,
      ((Canvas.apply piece).run (Canvas.onSurface stamp)).1.toBool = true) :
    ∃ after, (Stage.request request).run stage = (.ok (), after) ∧ IsOnStamp after := by
  obtain ⟨scene, rfl, drawable, size⟩ := onStamp
  have goesWell : ∀ piece ∈ request.brushwork,
      ((Canvas.apply piece).run scene.canvas).1.toBool = true := by
    intro piece member
    rw [(Canvas.Steady.apply piece).outcome size]
    exact fine piece member
  obtain ⟨after, asked, drawableAfter, sizeAfter⟩ := drawable.request finite goesWell
  exact ⟨some after, Tie.run_request_some asked, after, rfl, drawableAfter, size.trans sizeAfter⟩

/-- What is pending on the small picture is drawn to its end. -/
theorem drain {session : Session} (onStamp : IsOnStamp session.scene) :
    ∃ after, (animate .drain).run session = (.ok (), session.withScene after) ∧
      IsOnStamp after := by
  obtain ⟨scene, shown, drawable, size⟩ := onStamp
  obtain ⟨after, drained, -, drawableAfter, sizeAfter⟩ := drawable.drain
  refine ⟨some after, ?_, after, rfl, drawableAfter, size.trans sizeAfter⟩
  rw [run_animate_some shown, drained]

end IsOnStamp

/-- Where there is a picture, asking takes the room of a call. -/
theorem letsClean_isOnStamp :
    letI := Platform.standard
    Stage.LetsClean IsOnStamp 1 := by
  let _ := Platform.standard
  have cleans : ∀ piece ∈ (Request.repaint .initial).brushwork,
      ((Canvas.apply piece).run (Canvas.onSurface stamp)).1.toBool = true := by
    decide +kernel
  have pauses : ∀ milliseconds, Request.wait (60 * 1000 / 60) = .wait milliseconds →
      (milliseconds / 1000).isFinite = true := by
    rintro _ ⟨⟩
    decide +kernel
  refine ⟨?_, fun onStamp => onStamp.request (by rintro _ ⟨⟩) cleans,
    fun onStamp => onStamp.request pauses nofun⟩
  rintro _ ⟨scene, rfl, -⟩
  rfl

/--
A program that runs out of the stack prints one letter less with a picture than
without one, since it takes some of the stack to draw.
-/
theorem spinning_prints_less_with_picture :
    letI := Platform.standard
    ∃ ended bare,
      runToEnd.run (launched spinning (some stamp) 50 fun _ => 0) = (.ok false, ended) ∧
      runToEnd.run (launched spinning none 50 fun _ => 0) = (.ok false, bare) ∧
      ended.error = some .tooDeep ∧ bare.error = some .tooDeep ∧
      ended.output ≠ bare.output := by
  let _ := Platform.standard
  have fresh : IsOnStamp (launched spinning (some stamp) 50 fun _ => 0).scene := by
    rw [launched_eq rfl]
    refine ⟨_, rfl, Scene.drawable_empty _, ?_⟩
    exact (Canvas.Steady.apply (.repaint .initial)).size (.onSurface stamp)
  have calls : Platform.calls = 3332 + 1 := rfl
  obtain ⟨ended, ran, deep, printed⟩ :=
    run_launched_spinning IsOnStamp.drain letsClean_isOnStamp fresh calls (by decide)
  have unseen : (launched spinning none 50 fun _ => 0).scene = none := by
    rw [launched_eq rfl]
    rfl
  have drains {session : Session} (unseen : session.scene = none) :
      ∃ stage, (animate .drain).run session = (.ok (), session.withScene stage) ∧
        stage = none := by
    refine ⟨session.scene, ?_, unseen⟩
    rw [withScene_scene, run_animate_none unseen]
  obtain ⟨bare, bareRan, bareDeep, barePrinted⟩ :=
    run_launched_spinning drains letsClean_none unseen calls (by decide)
  refine ⟨ended, bare, ran, bareRan, deep, bareDeep, ?_⟩
  have length (count : Nat) (text : String) :
      (String.ofList (List.replicate count 'x') ++ text).length = count + text.length := by
    rw [String.length_append, String.length_ofList, List.length_replicate]
  intro same
  have counts := congrArg String.length same
  rw [printed, barePrinted, length, length] at counts
  omega

end Session

end Logo
