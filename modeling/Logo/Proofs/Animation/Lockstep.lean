import Logo.Proofs.Animation.Serial

/-!
# Submitting does not look at the clock

Two queues are level when they differ only in what their clocks show and in
when their timers come due.  Ticks and drains tell such queues apart; a
submission does not.  It has the same effects on both, fails on both or on
neither, and leaves them level.
-/

namespace Logo.Animation

variable {ε ω φ : Type}

/-- Queues that differ only in their clocks and in when their timers come due. -/
structure Queue.Level (left right : Queue ε) : Prop where
  tasks : left.tasks = right.tasks
  busy : left.busy = right.busy
  frames : left.frames = right.frames
  timers : left.timers.map Timer.script = right.timers.map Timer.script

theorem Queue.Level.refl (queue : Queue ε) : queue.Level queue :=
  ⟨rfl, rfl, rfl, rfl⟩

/-- Queues that are level have the same effects still to come. -/
theorem Queue.Settled.of_level {left right : Queue ε} {pending : List ε}
    (settled : left.Settled pending) (level : left.Level right) : right.Settled pending := by
  obtain ⟨now, tasks, busy, frames, timers⟩ := right
  obtain ⟨nested, fed, current, waiting, phase, waits, rfl⟩ := settled
  obtain ⟨sameTasks, sameBusy, sameFrames, sameTimers⟩ := level
  cases phase with
  | rest hollow =>
      cases sameTasks
      cases sameBusy
      cases sameFrames
      cases List.map_eq_nil_iff.mp sameTimers.symm
      exact ⟨trivial, fed, [], waiting, .rest hollow, waits, rfl⟩
  | framed plays hollow =>
      cases sameTasks
      cases sameBusy
      cases sameFrames
      cases List.map_eq_nil_iff.mp sameTimers.symm
      exact Engine.orderly_of_busy rfl trivial (.framed plays hollow) waits
  | timed plays hollow =>
      cases sameTasks
      cases sameBusy
      cases sameFrames
      obtain ⟨timer, rest, rfl, sameScript, noMore⟩ := List.map_eq_cons_iff.mp sameTimers.symm
      cases List.map_eq_nil_iff.mp noMore
      exact Engine.orderly_of_busy rfl trivial (.timed (sameScript ▸ plays) hollow) waits

/-- A script or a pump: something that does not look at the clock. -/
def Activity.IsPlain : Activity ε → Prop
  | .script _ => True
  | .pump => True
  | .tick _ => False
  | .drain => False

/-- A stack of scripts and pumps. -/
def Plain (stack : List (Activity ε)) : Prop :=
  ∀ activity ∈ stack, activity.IsPlain

theorem plain_cons {activity : Activity ε} {rest : List (Activity ε)} :
    Plain (activity :: rest) ↔ activity.IsPlain ∧ Plain rest :=
  List.forall_mem_cons

/-- A pump on top leaves a stack plain. -/
theorem Plain.withPump {stack : List (Activity ε)} (plain : Plain stack) :
    Plain (withPump stack) := by
  unfold Animation.withPump
  split
  · exact plain
  · exact plain_cons.mpr ⟨trivial, plain⟩

/-- Two steps that come to the same up to the clocks. -/
inductive Lockstep : Progress ε ω φ → Progress ε ω φ → Prop where
  | next {left right : Queue ε} {world : ω} {stack : List (Activity ε)}
      (level : left.Level right) (plain : Plain stack) :
      Lockstep (.next ⟨left, world, stack⟩) (.next ⟨right, world, stack⟩)
  | done {left right : Queue ε} {world : ω} (level : left.Level right) :
      Lockstep (.done left world) (.done right world)
  | failed {left right : Queue ε} {world : ω} {trouble : Trouble φ} (level : left.Level right) :
      Lockstep (.failed trouble left world) (.failed trouble right world)

namespace Engine

variable {apply : ε → ExceptT φ (StateM ω) Unit} {left right : Queue ε} {world : ω}
  {stack : List (Activity ε)} {pending : List ε}

/-- A hollow stack of scripts and pumps returns in the same way while a task waits. -/
theorem step_waiting_lockstep (level : left.Level right) (busy : left.busy = true)
    (plain : Plain stack) (hollow : Hollow stack) :
    Lockstep (step apply ⟨left, world, stack⟩) (step apply ⟨right, world, stack⟩) := by
  match stack with
  | [] => exact .done level
  | .script script :: stack =>
      obtain ⟨rfl, -⟩ := hollow_cons.mp hollow
      exact .next level (plain_cons.mp plain).2
  | .pump :: stack =>
      simp only [step, pump, ← level.busy, busy, if_true]
      exact .next level (plain_cons.mp plain).2
  | .tick frames :: stack => exact (plain_cons.mp plain).1.elim
  | .drain :: stack => exact (plain_cons.mp plain).1.elim

/-- Queues at rest take the same step at any two times. -/
theorem step_at_rest_lockstep {now now' : Float} {tasks : List (Script ε)} (plain : Plain stack)
    (hollow : Hollow stack) :
    Lockstep (step apply ⟨⟨now, tasks, false, [], []⟩, world, stack⟩)
      (step apply ⟨⟨now', tasks, false, [], []⟩, world, stack⟩) := by
  match stack with
  | [] => exact .done ⟨rfl, rfl, rfl, rfl⟩
  | .script script :: stack =>
      obtain ⟨rfl, -⟩ := hollow_cons.mp hollow
      exact .next ⟨rfl, rfl, rfl, rfl⟩ (plain_cons.mp plain).2
  | .pump :: stack =>
      cases tasks with
      | nil => exact .next ⟨rfl, rfl, rfl, rfl⟩ (plain_cons.mp plain).2
      | cons task tasks => exact .next ⟨rfl, rfl, rfl, rfl⟩ (plain_cons.mpr ⟨trivial, plain⟩)
  | .tick frames :: stack => exact (plain_cons.mp plain).1.elim
  | .drain :: stack => exact (plain_cons.mp plain).1.elim

/--
A script takes the same step at any two times.  A wait comes due at different
times then, but with the same script.
-/
theorem step_acting_lockstep {now now' : Float} {tasks : List (Script ε)} {script : Script ε}
    {current : List ε} (plays : Plays script current) (plain : Plain stack) :
    Lockstep (step apply ⟨⟨now, tasks, true, [], []⟩, world, .script script :: stack⟩)
      (step apply ⟨⟨now', tasks, true, [], []⟩, world, .script script :: stack⟩) := by
  have returning : Plain (.script [] :: stack) := plain_cons.mpr ⟨trivial, plain⟩
  cases plays with
  | finish => exact .next ⟨rfl, rfl, rfl, rfl⟩ returning.withPump
  | @effect effect rest effects plays =>
      simp only [step, perform]
      rcases (apply effect).run world with ⟨cause | value, after⟩
      · exact .failed ⟨rfl, rfl, rfl, rfl⟩
      · exact .next ⟨rfl, rfl, rfl, rfl⟩ (plain_cons.mpr ⟨trivial, plain⟩)
  | nextFrame plays => exact .next ⟨rfl, rfl, rfl, rfl⟩ returning
  | later plays =>
      refine .next ⟨rfl, rfl, rfl, ?_⟩ returning
      simp only [Queue.addTimer, Queue.insertTimer, List.map_cons, List.map_nil]
  | film => exact .next ⟨rfl, rfl, rfl, rfl⟩ (plain_cons.mpr ⟨trivial, returning⟩)

/-- Orderly engines that are level step alike. -/
theorem step_lockstep (orderly : Orderly left stack pending) (level : left.Level right)
    (plain : Plain stack) :
    Lockstep (step apply ⟨left, world, stack⟩) (step apply ⟨right, world, stack⟩) := by
  obtain ⟨nested, fed, current, waiting, phase, waits, rfl⟩ := orderly
  cases phase with
  | framed plays hollow => exact step_waiting_lockstep level rfl plain hollow
  | timed plays hollow => exact step_waiting_lockstep level rfl plain hollow
  | due plays hollow => exact (plain_cons.mp plain).1.elim
  | rest hollow =>
      obtain ⟨now, tasks, busy, frames, timers⟩ := right
      obtain ⟨rfl, rfl, rfl, noTimers⟩ := level
      cases List.map_eq_nil_iff.mp noTimers.symm
      exact step_at_rest_lockstep plain hollow
  | acting plays hollow =>
      obtain ⟨now, tasks, busy, frames, timers⟩ := right
      obtain ⟨rfl, rfl, rfl, noTimers⟩ := level
      cases List.map_eq_nil_iff.mp noTimers.symm
      exact step_acting_lockstep plays (plain_cons.mp plain).2

/-- Level runs: an orderly engine of scripts and pumps whose level companion is given. -/
def Accompanied (apply : ε → ExceptT φ (StateM ω) Unit) (companion : Engine ε ω)
    (engine : Engine ε ω) : Prop :=
  ∃ right pending, engine.queue.Level right ∧ Plain engine.stack ∧
    Orderly engine.queue engine.stack pending ∧
    run apply ⟨right, engine.world, engine.stack⟩ = run apply companion

/-- A step of an orderly engine leads to an orderly engine. -/
theorem orderly_next {engine after : Engine ε ω}
    (orderly : Orderly engine.queue engine.stack pending)
    (taken : step apply engine = .next after) :
    ∃ rest, Orderly after.queue after.stack rest := by
  have outcome : Outcome apply engine.world pending (step apply engine) := step_outcome orderly
  rw [taken] at outcome
  cases outcome with
  | quiet orderly => exact ⟨_, orderly⟩
  | shown _ _ orderly => exact ⟨_, orderly⟩

/-- What accompanies an engine goes along with its next step. -/
theorem Accompanied.next {companion engine after : Engine ε ω}
    (accompanied : Accompanied apply companion engine) (taken : step apply engine = .next after) :
    Accompanied apply companion after := by
  obtain ⟨right, pending, level, plain, orderly, ran⟩ := accompanied
  obtain ⟨rest, orderlyAfter⟩ := orderly_next orderly taken
  have lockstep : Lockstep (step apply engine) (step apply ⟨right, engine.world, engine.stack⟩) :=
    step_lockstep orderly level plain
  rw [taken] at lockstep
  generalize taken' : step apply ⟨right, engine.world, engine.stack⟩ = progress at lockstep
  cases lockstep with
  | next levelAfter plainAfter =>
      exact ⟨_, rest, levelAfter, plainAfter, orderlyAfter, (run_next taken').symm.trans ran⟩

/-- Orderly engines that are level run alike. -/
theorem run_lockstep {result : Except (Trouble φ) Unit} {after : Queue ε} {painted : ω}
    (orderly : Orderly left stack pending) (level : left.Level right) (plain : Plain stack)
    (ran : run apply ⟨left, world, stack⟩ = (result, after, painted)) :
    ∃ after', run apply ⟨right, world, stack⟩ = (result, after', painted) ∧ after.Level after' := by
  suffices ends : ∃ after', run apply ⟨right, world, stack⟩ =
        ((run apply ⟨left, world, stack⟩).1, after', (run apply ⟨left, world, stack⟩).2.2) ∧
      (run apply ⟨left, world, stack⟩).2.1.Level after' by
    rw [ran] at ends
    exact ends
  apply run_invariant (Accompanied apply ⟨right, world, stack⟩)
    (fun ending => ∃ after, run apply ⟨right, world, stack⟩ = (ending.1, after, ending.2.2) ∧
      ending.2.1.Level after)
  · intro engine after accompanied taken
    exact accompanied.next taken
  · rintro engine queue world ⟨right, pending, level, plain, orderly, ran⟩ taken
    have lockstep : Lockstep (step apply engine) (step apply ⟨right, engine.world, engine.stack⟩) :=
      step_lockstep orderly level plain
    rw [taken] at lockstep
    generalize taken' : step apply ⟨right, engine.world, engine.stack⟩ = progress at lockstep
    cases lockstep with
    | done levelAfter => exact ⟨_, ran.symm.trans (run_done taken'), levelAfter⟩
  · rintro engine trouble queue world ⟨right, pending, level, plain, orderly, ran⟩ taken
    have lockstep : Lockstep (step apply engine) (step apply ⟨right, engine.world, engine.stack⟩) :=
      step_lockstep orderly level plain
    rw [taken] at lockstep
    generalize taken' : step apply ⟨right, engine.world, engine.stack⟩ = progress at lockstep
    cases lockstep with
    | failed levelAfter => exact ⟨_, ran.symm.trans (run_failed taken'), levelAfter⟩
  · exact ⟨right, pending, level, plain, orderly, rfl⟩

end Engine

/-- A submission does the same to queues that are level, and leaves them level. -/
theorem Queue.perform_submit_level {apply : ε → ExceptT φ (StateM ω) Unit}
    {left right after : Queue ε} {world painted : ω} {pending effects : List ε} {task : Script ε}
    {result : Except (Trouble φ) Unit} (settled : left.Settled pending)
    (level : left.Level right) (plays : Plays task effects)
    (performed : left.perform apply (.submit task) world = (result, after, painted)) :
    ∃ after', right.perform apply (.submit task) world = (result, after', painted) ∧
      after.Level after' := by
  have orderly : Orderly (left.enqueue task) [.pump, .script []] (pending ++ effects) :=
    settled.enqueue plays
  have enqueued : (left.enqueue task).Level (right.enqueue task) :=
    ⟨congrArg (· ++ [task]) level.tasks, level.busy, level.frames, level.timers⟩
  rw [perform_submit_eq] at performed ⊢
  have plain : Plain [.pump, .script ([] : Script ε)] := by simp [Plain, Activity.IsPlain]
  exact Engine.run_lockstep orderly enqueued plain performed

end Logo.Animation
