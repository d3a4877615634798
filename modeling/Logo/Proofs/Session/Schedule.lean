import Logo.Proofs.Number.Order
import Logo.Proofs.Session.Pacing

/-!
# The pace of a session

Whatever is done to a session, and in whatever order, its commands begin at a
pace that can be followed.  A tick begins one command at most, and only when
it finds nothing moving.  The first command of a program begins at the first
tick at or after its start.  Every later one has to wait: first for a tick
that finds nothing moving, and from then on for the delay that goes with the
speed at that tick.

The time at which the next command may begin is set by the first tick that
finds nothing moving, and it is given up again when a command begins, when
another program is started and when everything is cancelled.  So the argument
goes along with a log of the ticks since the last start, in which the tick
that has set the time can be found.
-/

namespace Logo.Session

open Animation

/-! ## Operations and the log of a program -/

/-- What can be done to a session from outside. -/
inductive Operation where
  | start (program : Program)
  | tick (now : Float)
  | setSpeed (speed : Int)
  | cancel

/-- Do it. -/
def Operation.run [Platform] : Operation → Running Unit
  | .start program => Session.start program
  | .tick now => Session.tick now
  | .setSpeed speed => modify (Session.setSpeed speed)
  | .cancel => Session.cancel

/-- The time of a tick. -/
def Operation.time? : Operation → Option Float
  | .tick now => some now
  | .start _ | .setSpeed _ | .cancel => none

/-- What a tick found, and which commands it began. -/
structure Visit where
  time : Float
  speed : Int
  idle : Bool
  begun : List Command

/-- How long to pause from a tick on, at the speed in force then. -/
def Visit.delay (visit : Visit) : Float :=
  Number.ofInt (500 - visit.speed * 5) / 1000

/-- What a tick of a session finds once the animations have gone on, and what it begins. -/
def visit [Platform] (now : Float) (session : Session) : Visit where
  time := now
  speed := session.speed
  idle :=
    match (animate (.tick now)).run { session with now } with
    | (.ok (), between) => between.isStill
    | (.error _, _) => false
  begun := begunByTicks [now] session

/-- The program that was started last, when that was, and the ticks since then. -/
structure Schedule where
  commands : List Command
  startedAt : Float
  visits : List Visit

namespace Schedule

/-- No program, and no ticks. -/
def idle : Schedule := ⟨[], 0, []⟩

/-- The commands that were begun, in order. -/
def begun (schedule : Schedule) : List Command :=
  schedule.visits.flatMap Visit.begun

end Schedule

/-- An operation goes into the log.  A program with issues has no commands that could begin. -/
def Operation.log [Platform] : Operation → Session → Schedule → Schedule
  | .start program, session, _ =>
      ⟨if program.isClean then program.commands else [], session.now, []⟩
  | .tick now, session, schedule =>
      { schedule with visits := schedule.visits ++ [session.visit now] }
  | .setSpeed _, _, schedule => schedule
  | .cancel, session, _ => ⟨[], session.now, []⟩

/-- Do one thing after the other, whether or not some of them end in a fault, and keep the log. -/
def conduct [Platform] : List Operation → Session → Schedule → Session × Schedule
  | [], session, schedule => (session, schedule)
  | operation :: rest, session, schedule =>
      conduct rest (operation.run.run session).2 (operation.log session schedule)

/-- What is true of a tick of a program, given the ticks between its start and this one. -/
structure Justified (commands : List Command) (startedAt : Float) (earlier : List Visit)
    (visit : Visit) : Prop where
  oneByOne : visit.begun.length ≤ 1
  atRest : visit.begun ≠ [] → visit.idle = true
  first : (∀ before ∈ earlier, ¬ startedAt ≤ before.time) →
    visit.begun = if startedAt ≤ visit.time then commands.take 1 else []
  later : visit.begun ≠ [] → earlier.flatMap Visit.begun ≠ [] →
    ∃ since, since <:+ earlier ∧ (∀ between ∈ since, between.begun = []) ∧
      ∃ armed ∈ since ++ [visit], armed.idle = true ∧ armed.time ≤ visit.time ∧
        armed.time + armed.delay ≤ visit.time

/-- A program at a pace that can be followed. -/
structure Paced (schedule : Schedule) : Prop where
  inOrder : schedule.begun <+: schedule.commands
  justified : ∀ earlier visit later, schedule.visits = earlier ++ visit :: later →
    Justified schedule.commands schedule.startedAt earlier visit

/-- One more tick is justified if it is justified by all before it. -/
theorem Paced.snoc {schedule : Schedule} (paced : Paced schedule) {visit : Visit}
    (inOrder : schedule.begun ++ visit.begun <+: schedule.commands)
    (justified : Justified schedule.commands schedule.startedAt schedule.visits visit) :
    Paced { schedule with visits := schedule.visits ++ [visit] } where
  inOrder := by
    simpa [Schedule.begun] using inOrder
  justified := by
    intro earlier other later split
    rcases List.eq_nil_or_concat later with rfl | ⟨front, last, rfl⟩
    · obtain ⟨rfl, ⟨⟩⟩ := List.append_inj' split rfl
      exact justified
    · rw [List.concat_eq_append, ← List.cons_append, ← List.append_assoc] at split
      exact paced.justified earlier other front (List.append_inj' split rfl).1

/-- A program of which nothing has begun, with the ticks so far. -/
theorem Paced.empty (commands : List Command) (startedAt : Float) :
    Paced ⟨commands, startedAt, []⟩ where
  inOrder := List.nil_prefix
  justified := by
    intro earlier visit later split
    simp at split

/-! ## A scene at rest -/

/-- Nothing is moving, nothing waits, and nothing is to be done at a frame or at a time. -/
def Rests (session : Session) : Prop :=
  ∀ scene ∈ session.scene, scene.queue = ⟨scene.queue.now, [], false, [], []⟩

/-- Nothing is on its way in a session that was cancelled. -/
theorem rests_cancelled (session : Session) : session.cancelled.Rests := by
  obtain ⟨⟨⟨⟨turtle, turtleSpeed, stage⟩, output, procedures, draws⟩, scope⟩, speed, now, pending,
    readyAt, error, failed⟩ := session
  intro scene shown
  obtain ⟨before, _, rfl⟩ := Option.mem_map.mp shown
  rfl

/-- A tick of a queue at rest only sets the clock. -/
theorem perform_tick_rest {ε ω φ : Type} (apply : ε → ExceptT φ (StateM ω) Unit)
    (before now : Float) (world : ω) :
    (⟨before, [], false, [], []⟩ : Queue ε).perform apply (.tick now) world =
      (.ok (), ⟨if before < now then now else before, [], false, [], []⟩, world) := by
  rw [Queue.perform, Engine.run_next rfl, Engine.run_next rfl, Engine.run_next rfl,
    Engine.run_done rfl]
  rfl

/-- A tick leaves a session at rest as it is, up to clocks. -/
theorem Rests.tick [Platform] {session : Session} (rests : session.Rests) (now : Float) :
    ∃ between, (animate (.tick now)).run session = (.ok (), between) ∧ between.Rests ∧
      between.isStill = true := by
  cases shown : session.scene with
  | none =>
      refine ⟨session, run_animate_none shown _, rests, ?_⟩
      rw [isStill, shown]
  | some scene =>
      have empty := rests scene shown
      obtain ⟨canvas, queue⟩ := scene
      have performed := perform_tick_rest Canvas.apply queue.now now canvas
      rw [← empty] at performed
      rw [run_animate_some shown, Scene.run_perform, performed]
      refine ⟨_, rfl, ?_, rfl⟩
      rintro _ ⟨⟩
      rfl

/-! ## How far a session has got -/

/-- Sessions that are as far in the same program, at the same speed. -/
structure SamePoint (left right : Session) : Prop where
  pending : left.pending = right.pending
  readyAt : left.readyAt = right.readyAt
  error : left.error = right.error
  failed : left.failed = right.failed
  speed : left.speed = right.speed

/-- There is an error just when there is a command that has failed. -/
def Paired (session : Session) : Prop :=
  session.error.isSome = session.failed.isSome

theorem SamePoint.paired {left right : Session} (same : SamePoint left right)
    (paired : right.Paired) : left.Paired := by
  rwa [Paired, same.error, same.failed]

/-- When the next command may begin: when it was settled before, or after a pause from now on. -/
def readyTime (now : Float) (session : Session) : Float :=
  session.readyAt.getD (now + session.delay)

theorem SamePoint.readyTime {left right : Session} (same : SamePoint left right) (now : Float) :
    left.readyTime now = right.readyTime now := by
  rw [Session.readyTime, Session.readyTime, delay, delay, same.readyAt, same.speed]

/-! ## The log tells when the next command may begin -/

/-- A time that was set by a tick since the last command began. -/
def Armed (visits : List Visit) (ready : Float) : Prop :=
  ∃ since, since <:+ visits ∧ (∀ between ∈ since, between.begun = []) ∧
    ∃ armed ∈ since, armed.idle = true ∧ armed.time + armed.delay = ready

theorem Armed.snoc {visits : List Visit} {ready : Float} (set : Armed visits ready) {visit : Visit}
    (nothing : visit.begun = []) : Armed (visits ++ [visit]) ready := by
  obtain ⟨since, ⟨front, rfl⟩, quiet, armed, within, idle, equal⟩ := set
  refine ⟨since ++ [visit], ⟨front, by simp⟩, ?_, armed, by simp [within], idle, equal⟩
  simpa [or_imp, forall_and, nothing] using quiet

/-- How far a program has got: nothing has begun yet, or the next command waits for its time. -/
inductive Stage (session : Session) (schedule : Schedule) : Prop where
  | ahead (nothing : schedule.begun = []) (all : session.pending = schedule.commands)
      (ready : session.pending ≠ [] → session.readyAt = some schedule.startedAt ∧
        session.Rests ∧ ∀ visit ∈ schedule.visits, ¬ schedule.startedAt ≤ visit.time)
  | under (something : schedule.begun ≠ [])
      (started : ∃ visit ∈ schedule.visits, schedule.startedAt ≤ visit.time)
      (armed : ∀ ready, session.readyAt = some ready → Armed schedule.visits ready)

/-- The log of a session, and what the session knows of it. -/
structure Tallies (session : Session) (schedule : Schedule) : Prop where
  paced : Paced schedule
  pending : schedule.begun ++ session.pending <+: schedule.commands
  stage : Stage session schedule
  stopped : session.error ≠ none → session.pending = []
  paired : session.Paired

/-- A program that has just been started, or none at all. -/
theorem tallies_start {session : Session} (startedAt : Float)
    (ready : session.pending ≠ [] → session.readyAt = some startedAt ∧ session.Rests)
    (stopped : session.error ≠ none → session.pending = []) (paired : session.Paired) :
    Tallies session ⟨session.pending, startedAt, []⟩ where
  paced := .empty _ _
  pending := List.prefix_rfl
  stage := .ahead rfl rfl fun some => ⟨(ready some).1, (ready some).2, List.forall_mem_nil _⟩
  stopped := stopped
  paired := paired

/-! ## What a tick does -/

variable [Platform]

/-- Animations do not touch the program. -/
theorem animate_samePoint (action : Animation.Step Brushwork) (session : Session) :
    SamePoint ((animate action).run session).2 session := by
  cases shown : session.scene with
  | none =>
      rw [run_animate_none shown]
      exact ⟨rfl, rfl, rfl, rfl, rfl⟩
  | some scene =>
      rw [run_animate_some shown]
      exact ⟨rfl, rfl, rfl, rfl, rfl⟩

/-- A fault of the animations is one of the tick. -/
theorem run_pace_fault {now : Float} {session between : Session} {fault : Fault}
    (ticked : (animate (.tick now)).run { session with now } = (.error fault, between)) :
    (pace now).run session = (.error fault, between) := by
  simp only [pace, Effectful.run_bind, Effectful.run_modify, ticked]

/-- A tick waits for the animations and for its time. -/
theorem run_pace {now : Float} {session between : Session}
    (ticked : (animate (.tick now)).run { session with now } = (.ok (), between)) :
    (pace now).run session =
      if between.pending.isEmpty || !between.isStill then
        (.ok false, between)
      else
        (.ok (readyTime now between ≤ now),
          { between with readyAt := some (readyTime now between) }) := by
  simp only [pace, Effectful.run_bind, Effectful.run_modify, ticked, Effectful.run_get]
  split <;> rfl

theorem run_tick_eq (now : Float) (session : Session) :
    ((tick now).run session).2 =
      match (pace now).run session with
      | (.ok true, between) => (Session.step.run between).2
      | (_, between) => between := by
  rw [tick_eq, Effectful.run_bind]
  rcases (pace now).run session with ⟨fault | (early | due), between⟩ <;> rfl

theorem begunByTicks_eq (now : Float) (session : Session) :
    begunByTicks [now] session =
      match (pace now).run session with
      | (.ok true, between) => between.pending.take 1
      | _ => [] := by
  have noted : (aside (pace now)).run ⟨session, []⟩ =
      (((pace now).run session).1, ⟨((pace now).run session).2, []⟩) :=
    rfl
  rw [begunByTicks, watchedTicks, Effectful.run_bind, watchedTick, Effectful.run_bind, noted]
  rcases (pace now).run session with ⟨fault | (early | due), between⟩
  · rfl
  · rfl
  · simp only [if_true, run_notedStep]
    rcases Session.step.run between with ⟨fault | ⟨⟩, after⟩ <;> rfl

/-- After a step the command is off the list, and an error leaves nothing pending. -/
theorem step_keeps {session : Session} {command : Command} {rest : List Command}
    (waiting : session.pending = command :: rest) :
    (Session.step.run session).2.readyAt = none ∧
      ((Session.step.run session).2.pending = rest ∧
          (Session.step.run session).2.error = session.error ∨
        (Session.step.run session).2.pending = []) := by
  rw [run_step waiting]
  split
  · exact ⟨rfl, Or.inl ⟨rfl, rfl⟩⟩
  · exact ⟨rfl, Or.inr rfl⟩
  · exact ⟨rfl, Or.inr rfl⟩
  · exact ⟨rfl, Or.inr rfl⟩
  · exact ⟨rfl, Or.inr rfl⟩
  · exact ⟨rfl, Or.inl ⟨rfl, rfl⟩⟩

/-- A step sets the error and the command that failed together, if it sets them. -/
theorem Paired.step {session : Session} (paired : session.Paired) :
    (Session.step.run session).2.Paired := by
  cases waiting : session.pending with
  | nil => rwa [run_step_nil waiting]
  | cons command rest =>
      rw [run_step waiting]
      split
      · exact paired
      · exact rfl
      · exact paired
      · exact rfl
      · exact rfl
      · exact paired

/--
What a tick can do: nothing, because nothing is pending or something is
moving; say or repeat when the next command may begin, because it is too
early; or begin that command.
-/
inductive Ticked (now : Float) (session after : Session) (visit : Visit) : Prop where
  | passes (nothing : visit.begun = []) (reason : session.pending = [] ∨ visit.idle = false)
      (pending : after.pending = session.pending) (readyAt : after.readyAt = session.readyAt)
      (error : after.error = session.error) (paired : session.Paired → after.Paired)
      (rests : session.Rests → after.Rests)
  | arms (nothing : visit.begun = []) (idle : visit.idle = true)
      (early : ¬ readyTime now session ≤ now) (pending : after.pending = session.pending)
      (readyAt : after.readyAt = some (readyTime now session))
      (error : after.error = session.error) (paired : session.Paired → after.Paired)
      (rests : session.Rests → after.Rests)
  | begins {command : Command} {rest : List Command} (begun : visit.begun = [command])
      (idle : visit.idle = true) (due : readyTime now session ≤ now)
      (waiting : session.pending = command :: rest) (readyAt : after.readyAt = none)
      (pending : after.pending = rest ∧ after.error = session.error ∨ after.pending = [])
      (paired : session.Paired → after.Paired)

/-- Whatever a tick does, it is one of the things that a tick can do. -/
theorem ticked (now : Float) (session : Session) :
    Ticked now session ((tick now).run session).2 (session.visit now) := by
  have same : SamePoint ((animate (.tick now)).run { session with now }).2 session :=
    { animate_samePoint (.tick now) { session with now } with }
  have rests : session.Rests → ((animate (.tick now)).run { session with now }).2.Rests := by
    intro before
    have later : { session with now }.Rests := before
    obtain ⟨between, ran, rested, -⟩ := later.tick now
    rw [ran]
    exact rested
  have began : (session.visit now).begun = _ := begunByTicks_eq now session
  rw [run_tick_eq]
  rcases ran : (animate (.tick now)).run { session with now } with ⟨fault | ⟨⟩, between⟩
  · have moving : (session.visit now).idle = false := by
      rw [visit, ran]
    rw [ran] at same rests
    rw [run_pace_fault ran] at began ⊢
    exact .passes began (Or.inr moving) same.pending same.readyAt same.error same.paired rests
  · have still : (session.visit now).idle = between.isStill := by
      rw [visit, ran]
    rw [ran] at same rests
    have paced := run_pace ran
    split at paced
    · rename_i reason
      rw [Bool.or_eq_true, Bool.not_eq_true', List.isEmpty_iff, same.pending, ← still] at reason
      rw [paced] at began ⊢
      exact .passes began reason same.pending same.readyAt same.error same.paired rests
    · rename_i reason
      rw [Bool.or_eq_true, not_or, Bool.not_eq_true', Bool.not_eq_false, List.isEmpty_iff,
        same.pending, ← still] at reason
      obtain ⟨command, rest, waiting⟩ := List.exists_cons_of_ne_nil reason.1
      rw [same.readyTime] at paced
      by_cases due : session.readyTime now ≤ now
      · rw [decide_eq_true due] at paced
        rw [paced] at began ⊢
        obtain ⟨readyAt, pending⟩ := step_keeps
          (show { between with readyAt := some (session.readyTime now) }.pending = command :: rest
            from same.pending.trans waiting)
        have begun : (session.visit now).begun = [command] :=
          began.trans (congrArg (List.take 1) (same.pending.trans waiting))
        have paired (before : session.Paired) :
            { between with readyAt := some (session.readyTime now) }.Paired := same.paired before
        exact .begins begun reason.2 due waiting readyAt
          (pending.imp_left (And.imp_right fun kept => kept.trans same.error))
          fun before => (paired before).step
      · rw [decide_eq_false due] at paced
        rw [paced] at began ⊢
        exact .arms began reason.2 due same.pending rfl same.error same.paired rests

theorem Rests.visit_idle {session : Session} (rests : session.Rests) (now : Float) :
    (session.visit now).idle = true := by
  have later : { session with now }.Rests := rests
  obtain ⟨between, ran, -, still⟩ := later.tick now
  rw [visit, ran]
  exact still

/-! ## Ticks keep to the log -/

section Ticks

variable {session after : Session} {schedule : Schedule} {now : Float}

/-- A tick that begins nothing is justified, unless the first command should have begun. -/
theorem Tallies.justified_nothing (tallies : Tallies session schedule)
    (nothing : (session.visit now).begun = [])
    (early : session.pending ≠ [] → session.readyAt = some schedule.startedAt → session.Rests →
      ¬ schedule.startedAt ≤ now) :
    Justified schedule.commands schedule.startedAt schedule.visits (session.visit now) where
  oneByOne := by
    rw [nothing]
    exact Nat.zero_le 1
  atRest some := absurd nothing some
  later some := absurd nothing some
  first before := by
    rw [nothing]
    cases tallies.stage with
    | under _ started _ =>
        obtain ⟨visit, within, reached⟩ := started
        exact absurd reached (before visit within)
    | ahead _ all ready =>
        by_cases none : session.pending = []
        · rw [← all, none, List.take_nil, ite_self]
        · obtain ⟨readyAt, rests, _⟩ := ready none
          exact (if_neg (early none readyAt rests)).symm

/--
A tick that begins the next command is justified.  Where it sets the time
itself, there is no delay.
-/
theorem Tallies.justified_begins (tallies : Tallies session schedule)
    (times : ∀ visit ∈ schedule.visits, visit.time ≤ now) {command : Command}
    {rest : List Command} (begun : (session.visit now).begun = [command])
    (idle : (session.visit now).idle = true) (due : session.readyTime now ≤ now)
    (waiting : session.pending = command :: rest) :
    Justified schedule.commands schedule.startedAt schedule.visits (session.visit now) where
  oneByOne := by
    rw [begun]
    exact Nat.le_refl 1
  atRest _ := idle
  first before := by
    cases tallies.stage with
    | under _ started _ =>
        obtain ⟨visit, within, reached⟩ := started
        exact absurd reached (before visit within)
    | ahead _ all ready =>
        have some : session.pending ≠ [] := by
          rw [waiting]
          exact List.cons_ne_nil _ _
        rw [readyTime, (ready some).1, Option.getD_some] at due
        rw [begun, ← all, waiting]
        exact (if_pos due).symm
  later _ something := by
    cases tallies.stage with
    | ahead nothing _ _ => exact absurd nothing something
    | under _ _ armed =>
        cases set : session.readyAt with
        | none =>
            rw [readyTime, set, Option.getD_none] at due
            have number := ((Number.le_iff_place_le _ _).mp due).2.1
            exact ⟨[], List.nil_suffix, List.forall_mem_nil _, session.visit now,
              List.mem_singleton_self _, idle, Number.le_refl_of_number number, due⟩
        | some ready =>
            rw [readyTime, set, Option.getD_some] at due
            obtain ⟨since, suffix, quiet, armed, within, found, equal⟩ := armed ready set
            refine ⟨since, suffix, quiet, armed, List.mem_append_left _ within, found,
              times armed (suffix.subset within), ?_⟩
            rw [equal]
            exact due

/-- A tick that begins nothing leaves the program where it is. -/
theorem Tallies.quiet (tallies : Tallies session schedule)
    (nothing : (session.visit now).begun = [])
    (early : session.pending ≠ [] → session.readyAt = some schedule.startedAt → session.Rests →
      ¬ schedule.startedAt ≤ now)
    (pending : after.pending = session.pending) (error : after.error = session.error)
    (paired : session.Paired → after.Paired) (rests : session.Rests → after.Rests)
    (same : ∀ ready, session.readyAt = some ready → after.readyAt = some ready)
    (armed : ∀ ready, after.readyAt = some ready →
      session.readyAt = some ready ∨ Armed (schedule.visits ++ [session.visit now]) ready) :
    Tallies after { schedule with visits := schedule.visits ++ [session.visit now] } where
  paced := by
    refine tallies.paced.snoc ?_ (tallies.justified_nothing nothing early)
    rw [nothing, List.append_nil]
    exact tallies.paced.inOrder
  pending := by
    have before := tallies.pending
    simpa [Schedule.begun, nothing, pending] using before
  stopped set := by
    rw [error] at set
    rw [pending]
    exact tallies.stopped set
  paired := paired tallies.paired
  stage := by
    cases tallies.stage with
    | ahead unbegun all ready =>
        refine .ahead ?_ (pending.trans all) ?_
        · simpa [Schedule.begun, nothing] using unbegun
        · intro some
          rw [pending] at some
          obtain ⟨readyAt, resting, visits⟩ := ready some
          refine ⟨same _ readyAt, rests resting, ?_⟩
          rw [List.forall_mem_append]
          exact ⟨visits, List.forall_mem_singleton.mpr (early some readyAt resting)⟩
    | under something started set =>
        refine .under ?_ ?_ ?_
        · simpa [Schedule.begun, nothing] using something
        · obtain ⟨visit, within, reached⟩ := started
          exact ⟨visit, List.mem_append_left _ within, reached⟩
        · intro ready readyAt
          rcases armed ready readyAt with before | now
          · exact (set ready before).snoc nothing
          · exact now

/-- A tick that begins the next command takes the program one command further. -/
theorem Tallies.begins (tallies : Tallies session schedule)
    (times : ∀ visit ∈ schedule.visits, visit.time ≤ now) {command : Command}
    {rest : List Command} (begun : (session.visit now).begun = [command])
    (idle : (session.visit now).idle = true) (due : session.readyTime now ≤ now)
    (waiting : session.pending = command :: rest) (readyAt : after.readyAt = none)
    (pending : after.pending = rest ∧ after.error = session.error ∨ after.pending = [])
    (paired : session.Paired → after.Paired) :
    Tallies after { schedule with visits := schedule.visits ++ [session.visit now] } := by
  have further : (⟨schedule.commands, schedule.startedAt,
      schedule.visits ++ [session.visit now]⟩ : Schedule).begun = schedule.begun ++ [command] := by
    simp [Schedule.begun, begun]
  have whole : schedule.begun ++ [command] ++ rest <+: schedule.commands := by
    have before := tallies.pending
    rwa [waiting, List.append_cons] at before
  have inOrder := (List.prefix_append _ rest).trans whole
  have some : session.pending ≠ [] := by
    rw [waiting]
    exact List.cons_ne_nil _ _
  refine ⟨?_, ?_, .under ?_ ?_ ?_, ?_, paired tallies.paired⟩
  · refine tallies.paced.snoc ?_ (tallies.justified_begins times begun idle due waiting)
    rwa [begun]
  · rw [further]
    rcases pending with ⟨left, _⟩ | none
    · rwa [left]
    · rwa [none, List.append_nil]
  · rw [further]
    exact List.append_ne_nil_of_right_ne_nil _ (List.cons_ne_nil _ _)
  · cases tallies.stage with
    | ahead _ _ ready =>
        rw [readyTime, (ready some).1, Option.getD_some] at due
        exact ⟨_, List.mem_append_right _ (List.mem_singleton_self _), due⟩
    | under _ started _ =>
        obtain ⟨visit, within, reached⟩ := started
        exact ⟨visit, List.mem_append_left _ within, reached⟩
  · intro ready set
    rw [readyAt] at set
    cases set
  · intro error
    rcases pending with ⟨_, same⟩ | none
    · rw [same] at error
      exact absurd (tallies.stopped error) some
    · exact none

/-- A tick keeps to the log. -/
theorem Tallies.tick (tallies : Tallies session schedule)
    (times : ∀ visit ∈ schedule.visits, visit.time ≤ now) :
    Tallies ((Session.tick now).run session).2
      { schedule with visits := schedule.visits ++ [session.visit now] } := by
  cases ticked now session with
  | passes nothing reason pending readyAt error paired rests =>
      refine tallies.quiet nothing ?_ pending error paired rests ?_ ?_
      · intro some _ resting
        rcases reason with none | moving
        · exact absurd none some
        · rw [resting.visit_idle now] at moving
          cases moving
      · intro ready set
        exact readyAt.trans set
      · intro ready set
        exact Or.inl (readyAt.symm.trans set)
  | arms nothing idle early pending readyAt error paired rests =>
      refine tallies.quiet nothing ?_ pending error paired rests ?_ ?_
      · intro _ set _
        rwa [readyTime, set, Option.getD_some] at early
      · intro ready set
        rw [readyAt, readyTime, set, Option.getD_some]
      · intro ready set
        rw [readyAt, Option.some_inj] at set
        cases before : session.readyAt with
        | some settled =>
            rw [readyTime, before, Option.getD_some] at set
            exact Or.inl (congrArg some set)
        | none =>
            rw [readyTime, before, Option.getD_none] at set
            refine Or.inr ⟨[session.visit now], List.suffix_append _ _, ?_, session.visit now,
              List.mem_singleton_self _, idle, set⟩
            exact List.forall_mem_singleton.mpr nothing
  | begins begun idle due waiting readyAt pending paired =>
      exact tallies.begins times begun idle due waiting readyAt pending paired

end Ticks

/-! ## Whole sequences of operations -/

/-- Every operation keeps to the log. -/
theorem Tallies.operation {session : Session} {schedule : Schedule}
    (tallies : Tallies session schedule) (operation : Operation)
    (times : ∀ visit ∈ schedule.visits, ∀ now ∈ operation.time?, visit.time ≤ now) :
    Tallies (operation.run.run session).2 (operation.log session schedule) := by
  cases operation with
  | tick now => exact tallies.tick fun visit within => times visit within now rfl
  | setSpeed speed =>
      refine ⟨tallies.paced, tallies.pending, ?_, tallies.stopped, tallies.paired⟩
      cases tallies.stage with
      | ahead nothing all ready => exact .ahead nothing all ready
      | under something started armed => exact .under something started armed
  | cancel =>
      show Tallies (Session.cancel.run session).2 ⟨[], session.now, []⟩
      rw [run_cancel]
      exact tallies_start session.now (absurd rfl) (fun _ => rfl) tallies.paired
  | start program =>
      show Tallies ((Session.start program).run session).2 _
      cases clean : program.isClean with
      | true =>
          rw [run_start clean, Operation.log, clean]
          exact tallies_start session.now (fun _ => ⟨rfl, rests_cancelled session⟩) (absurd rfl) rfl
      | false =>
          rw [run_start_declined clean, Operation.log, clean]
          exact tallies_start session.now (absurd rfl) (absurd rfl) rfl

/-- What is in the log was there before, or it is the tick that has just been made. -/
theorem mem_visits_log {operation : Operation} {session : Session} {schedule : Schedule}
    {visit : Visit} (within : visit ∈ (operation.log session schedule).visits) :
    visit ∈ schedule.visits ∨ visit.time ∈ operation.time? := by
  cases operation with
  | start program => cases within
  | cancel => cases within
  | setSpeed speed => exact Or.inl within
  | tick now =>
      rcases List.mem_append.mp within with before | last
      · exact Or.inl before
      · rw [List.mem_singleton.mp last]
        exact Or.inr rfl

/-- Operations with ticks in order of time keep to the log. -/
theorem Tallies.conduct {operations : List Operation} {session : Session} {schedule : Schedule}
    (tallies : Tallies session schedule)
    (ordered : (operations.filterMap Operation.time?).Pairwise (· ≤ ·))
    (times : ∀ visit ∈ schedule.visits, ∀ now ∈ operations.filterMap Operation.time?,
      visit.time ≤ now) :
    Tallies (conduct operations session schedule).1 (conduct operations session schedule).2 := by
  induction operations generalizing session schedule with
  | nil => exact tallies
  | cons operation rest induction =>
      have split : (operation :: rest).filterMap Operation.time? =
          operation.time?.toList ++ rest.filterMap Operation.time? := by
        cases time : operation.time? <;> simp [time]
      rw [split] at ordered times
      obtain ⟨-, laterOrdered, later⟩ := List.pairwise_append.mp ordered
      refine induction (tallies.operation operation ?_) laterOrdered ?_
      · intro visit within now first
        exact times visit within now (List.mem_append_left _ (Option.mem_toList.mpr first))
      · intro visit within now after
        rcases mem_visits_log within with before | first
        · exact times visit before now (List.mem_append_right _ after)
        · exact later _ (Option.mem_toList.mpr first) now after

/--
The pace of a session.  Whatever is done to a new session, in whatever order,
as long as its ticks are in order of time: of the program that was started
last, commands have begun in the order of the program; each tick has begun one
at most, and only if it found nothing moving.  The first command began at the
first tick at or after the start.  Every later one began at a tick for which
there is a tick since the one before it (maybe the same) that found nothing
moving, at least the delay earlier that went with the speed in force then.  An
error and the command that failed are only ever set together, and then nothing
is pending.
-/
theorem conduct_paced (surface : Option Picture.Surface) (speed : Int) (sequence : Nat → Nat)
    (operations : List Operation)
    (ordered : (operations.filterMap Operation.time?).Pairwise (· ≤ ·)) :
    let ended := conduct operations (new surface speed sequence) .idle
    Paced ended.2 ∧
      (ended.1.error.isSome = true ↔ ended.1.failed.isSome = true) ∧
      (ended.1.error.isSome = true → ended.1.pending = []) := by
  have initially : Tallies (new surface speed sequence) .idle :=
    tallies_start 0 (absurd rfl) (absurd rfl) rfl
  have tallies := initially.conduct ordered (List.forall_mem_nil _)
  refine ⟨tallies.paced, ?_, ?_⟩
  · rw [tallies.paired]
  · intro set
    exact tallies.stopped (Option.isSome_iff_ne_none.mp set)

end Logo.Session

namespace Logo.Session

/-- The program that waits is started and begins its two commands at the first and the last tick. -/
theorem conduct_paced_patience :
    letI := Platform.standard
    ((conduct [.start patience, .tick 0, .tick 0.5, .setSpeed 0, .tick 1, .tick 1.25, .tick 1.5]
        (new (some (.filled 3 3 ⟨255, 255, 255⟩)) 100 fun _ => 0) .idle).2.visits.map
          fun visit => visit.begun.length) = [1, 0, 0, 0, 1] ∧
      Paced (conduct
        [.start patience, .tick 0, .tick 0.5, .setSpeed 0, .tick 1, .tick 1.25, .tick 1.5]
        (new (some (.filled 3 3 ⟨255, 255, 255⟩)) 100 fun _ => 0) .idle).2 := by
  let _ := Platform.standard
  refine ⟨by decide +kernel, (conduct_paced _ _ _ _ ?_).1⟩
  decide +kernel

end Logo.Session
