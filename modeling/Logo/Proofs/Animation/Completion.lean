import Logo.Proofs.Animation.History
import Logo.Proofs.Number.Order

/-!
# Work that comes to its end

A drain gets through all work that can come to an end by itself: scripts that
have effects, submit further work of this kind, wait for the frame or for a
finite time, and finish their task once.

The task in flight is always in exactly one place: on top of the stack, in the
frame that is being shown, waiting for the next frame, or waiting for its
time.  So a drain always finds something to go on with, and the clock reaches
the time of every timer, since that time is a number.  What has been noticed
so far, followed by what is left of the task in flight, is the account of all
tasks that were started, one after the other.
-/

namespace Logo.Animation

variable {ε ω φ : Type}

/-! ## Work and its account -/

/-- Work that comes to its end by itself, as a whole or from some point on. -/
inductive IsWork : Script ε → Prop where
  | finish : IsWork [.finish]
  | effect {effect : ε} {rest : Script ε} (work : IsWork rest) : IsWork (.effect effect :: rest)
  | submit {task rest : Script ε} (further : IsWork task) (work : IsWork rest) :
      IsWork (.submit task :: rest)
  | nextFrame {callback : Script ε} (work : IsWork callback) : IsWork [.nextFrame callback]
  | later {seconds : Float} {callback : Script ε} (finite : seconds.isFinite = true)
      (work : IsWork callback) : IsWork [.later seconds callback]
  | film {left : Nat} {effect : Nat → ε} : IsWork [.film left effect]

/-- What shows the frames of a film is work. -/
theorem isWork_showing (effect : Nat → ε) (left : Nat) : IsWork (showing effect left) := by
  cases left with
  | zero => exact .effect .finish
  | succ left => exact .effect (.nextFrame .film)

mutual

/-- The effects of a step, with those of the scripts that it puts aside. -/
def Step.effects : Step ε → List ε
  | .effect effect => [effect]
  | .nextFrame callback => effectsOf callback
  | .later _ callback => effectsOf callback
  | .film left effect => reel effect left
  | .submit _ => []
  | .finish => []
  | .tick _ => []
  | .drain => []
  | .cancel => []

/-- The effects of a script, with those of the scripts that it puts aside. -/
def effectsOf : List (Step ε) → List ε
  | [] => []
  | step :: rest => step.effects ++ effectsOf rest

end

/-- The frames of a film are had in the order of its reel. -/
theorem effectsOf_showing (effect : Nat → ε) (left : Nat) :
    effectsOf (showing effect left) = reel effect left := by
  cases left <;> simp [showing, effectsOf, Step.effects, reel]

/-- What is still to be noticed of a script in flight. -/
def remainder (script : Script ε) : List (Event ε) :=
  (effectsOf script).map .had ++ [.finished]

/-- What is noticed of a task from its start to its end. -/
def account (task : Script ε) : List (Event ε) :=
  .started task :: remainder task

/-- What was done, without what was only asked for. -/
def doneIn (events : List (Event ε)) : List (Event ε) :=
  events.filter fun event => event.submitted?.isNone

@[simp]
theorem doneIn_append (events more : List (Event ε)) :
    doneIn (events ++ more) = doneIn events ++ doneIn more :=
  List.filter_append _ _

theorem startedIn_singleton (event : Event ε) : startedIn [event] = event.started?.toList := by
  cases event <;> rfl

theorem submittedIn_singleton (event : Event ε) :
    submittedIn [event] = event.submitted?.toList := by
  cases event <;> rfl

theorem doneIn_singleton (event : Event ε) :
    doneIn [event] = if event.submitted?.isNone then [event] else [] := by
  cases event <;> rfl

/--
The books of a queue: which task is in flight, with what is left of it, and
which tasks wait.  All that was started is accounted for, up to what is left.
-/
structure Accounted (events : List (Event ε)) (left : Option (Script ε))
    (tasks : List (Script ε)) : Prop where
  done : doneIn events ++ left.elim [] remainder = (startedIn events).flatMap account
  waiting : startedIn events ++ tasks = submittedIn events
  work : ∀ task ∈ tasks, IsWork task

namespace Accounted

variable {events : List (Event ε)} {tasks : List (Script ε)} {task script rest : Script ε}

/-- The first task in line is started. -/
theorem start (accounted : Accounted events none (task :: tasks)) :
    Accounted (events ++ [.started task]) (some task) tasks where
  done := by
    have done : doneIn events ++ [] = _ := accounted.done
    rw [List.append_nil] at done
    simp [doneIn_singleton, startedIn_singleton, done, account]
  waiting := by
    simpa [startedIn_singleton, submittedIn_singleton] using accounted.waiting
  work := (List.forall_mem_cons.mp accounted.work).2

/-- An effect is had as soon as it is the next thing to do. -/
theorem effect {effect : ε} (accounted : Accounted events (some (.effect effect :: rest)) tasks) :
    Accounted (events ++ [.had effect]) (some rest) tasks where
  done := by
    simpa [doneIn_singleton, startedIn_singleton, remainder, effectsOf, Step.effects]
      using accounted.done
  waiting := by
    simpa [startedIn_singleton, submittedIn_singleton] using accounted.waiting
  work := accounted.work

/-- A new task goes to the end of the line. -/
theorem submit {left : Option (Script ε)} (accounted : Accounted events left tasks)
    (work : IsWork task) :
    Accounted (events ++ [.submitted task]) left (tasks ++ [task]) where
  done := by
    simpa [doneIn_singleton, startedIn_singleton] using accounted.done
  waiting := by
    simp [startedIn_singleton, submittedIn_singleton, ← accounted.waiting]
  work := List.forall_mem_append.mpr ⟨accounted.work, by simpa using work⟩

/-- A task is finished when nothing else is left of it. -/
theorem finish (accounted : Accounted events (some [.finish]) tasks) :
    Accounted (events ++ [.finished]) none tasks where
  done := by
    simpa [doneIn_singleton, startedIn_singleton, remainder, effectsOf, Step.effects]
      using accounted.done
  waiting := by
    simpa [startedIn_singleton, submittedIn_singleton] using accounted.waiting
  work := accounted.work

/-- Only the effects of what is left count. -/
theorem same (accounted : Accounted events (some script) tasks)
    (equal : effectsOf script = effectsOf rest) : Accounted events (some rest) tasks where
  done := by
    simpa [remainder, equal] using accounted.done
  waiting := accounted.waiting
  work := accounted.work

/-- A step of which nothing is noticed. -/
theorem quiet {left : Option (Script ε)} (accounted : Accounted events left tasks) :
    Accounted (events ++ []) left tasks := by
  rwa [List.append_nil]

end Accounted

/-! ## Where the task in flight is -/

/-- Where the task in flight is, and what is left of it. -/
inductive Place : Queue ε → List (Activity ε) → Option (Script ε) → Prop where
  | rest {now : Float} {tasks : List (Script ε)} {stack : List (Activity ε)}
      (hollow : Hollow stack) : Place ⟨now, tasks, false, [], []⟩ stack none
  | acting {now : Float} {tasks : List (Script ε)} {script : Script ε}
      {stack : List (Activity ε)} (work : IsWork script) (hollow : Hollow stack) :
      Place ⟨now, tasks, true, [], []⟩ (.script script :: stack) (some script)
  | pumping {now : Float} {tasks : List (Script ε)} {script : Script ε}
      {stack : List (Activity ε)} (work : IsWork script) (hollow : Hollow stack) :
      Place ⟨now, tasks, true, [], []⟩ (.pump :: .script script :: stack) (some script)
  | due {now : Float} {tasks : List (Script ε)} {frame : Script ε}
      {stack : List (Activity ε)} (work : IsWork frame) (hollow : Hollow stack) :
      Place ⟨now, tasks, true, [], []⟩ (.tick [frame] :: stack) (some frame)
  | framed {now : Float} {tasks : List (Script ε)} {frame : Script ε}
      {stack : List (Activity ε)} (work : IsWork frame) (hollow : Hollow stack) :
      Place ⟨now, tasks, true, [frame], []⟩ stack (some frame)
  | timed {now : Float} {tasks : List (Script ε)} {timer : Timer ε}
      {stack : List (Activity ε)} (work : IsWork timer.script)
      (number : timer.due.isNaN = false) (hollow : Hollow stack) :
      Place ⟨now, tasks, true, [], [timer]⟩ stack (some timer.script)

/-- An engine at work on nothing but work, with its history so far. -/
structure OnlyWork (events : List (Event ε)) (engine : Engine ε ω) : Prop where
  nested : Nested engine.stack
  fed : engine.queue.busy = false → engine.queue.tasks = [] ∨ Pumped engine.stack
  clock : engine.queue.now.isNaN = false
  place : ∃ left, Place engine.queue engine.stack left ∧
    Accounted events left engine.queue.tasks

/-- Where a step leads from nothing but work: to no other, to the end, or to a failed effect. -/
inductive Course (events : List (Event ε)) : Progress ε ω φ → Prop where
  | next {after : Engine ε ω} (onlyWork : OnlyWork events after) : Course events (.next after)
  | done {queue : Queue ε} {world : ω} : Course events (.done queue world)
  | failed {cause : φ} {queue : Queue ε} {world : ω} :
      Course events (.failed (.failure cause) queue world)

/-! ## The clock -/

namespace Queue

/-- A clock that shows a number never loses it. -/
theorem isNaN_advance {queue : Queue ε} (clock : queue.now.isNaN = false) (now : Float) :
    (queue.advance now).now.isNaN = false := by
  show (if queue.now < now then now else queue.now).isNaN = false
  split
  · rename_i later
    exact ((Number.lt_iff_place_lt _ _).mp later).2.1
  · exact clock

/-- A clock never goes back. -/
theorem le_advance {queue : Queue ε} (clock : queue.now.isNaN = false) (now : Float) :
    queue.now ≤ (queue.advance now).now := by
  show queue.now ≤ if queue.now < now then now else queue.now
  split
  · rename_i later
    exact Number.float_le_of_lt later
  · exact Number.le_refl_of_number clock

/-- The clock reaches every time that is a number. -/
theorem reaches_advance {queue : Queue ε} {now : Float} (clock : queue.now.isNaN = false)
    (number : now.isNaN = false) : now ≤ (queue.advance now).now := by
  show now ≤ if queue.now < now then now else queue.now
  split
  · exact Number.le_refl_of_number number
  · rename_i early
    exact Number.float_le_of_not_lt clock number early

end Queue

/-! ## One step -/

namespace Engine

variable {apply : ε → ExceptT φ (StateM ω) Unit} {events : List (Event ε)} {world : ω}
  {now : Float} {tasks : List (Script ε)} {stack : List (Activity ε)}

/-- While a task is in flight, only where it is matters. -/
theorem onlyWork_of_busy {queue : Queue ε} {left : Option (Script ε)} (busy : queue.busy = true)
    (nested : Nested stack) (clock : queue.now.isNaN = false) (place : Place queue stack left)
    (accounted : Accounted events left queue.tasks) :
    OnlyWork events (⟨queue, world, stack⟩ : Engine ε ω) where
  nested := nested
  fed free := absurd (busy.symm.trans free) (by decide)
  clock := clock
  place := ⟨left, place, accounted⟩

/-- With nothing in flight a step starts the next task, or there is none. -/
theorem course_at_rest (nested : Nested stack) (fed : tasks = [] ∨ Pumped stack)
    (clock : now.isNaN = false) (hollow : Hollow stack) (accounted : Accounted events none tasks) :
    Course (events ++ notice (⟨⟨now, tasks, false, [], []⟩, world, stack⟩ : Engine ε ω))
      (step apply ⟨⟨now, tasks, false, [], []⟩, world, stack⟩) := by
  have resting {stack : List (Activity ε)} (nested : Nested stack) (hollow : Hollow stack)
      (fed : tasks = [] ∨ Pumped stack) :
      OnlyWork (events ++ []) (⟨⟨now, tasks, false, [], []⟩, world, stack⟩ : Engine ε ω) :=
    ⟨nested, fun _ => fed, clock, none, .rest hollow, accounted.quiet⟩
  match stack with
  | [] => exact .done
  | .script script :: stack =>
      obtain ⟨rfl, below⟩ := hollow_cons.mp hollow
      exact .next (resting nested.tail below fed)
  | .pump :: stack =>
      cases tasks with
      | nil => exact .next (resting nested.tail (hollow_cons.mp hollow).2 (Or.inl rfl))
      | cons task tasks =>
          have work := (List.forall_mem_cons.mp accounted.work).1
          exact .next (onlyWork_of_busy rfl nested clock (.acting work hollow) accounted.start)
  | .tick frames :: stack =>
      obtain ⟨rfl, below⟩ := hollow_cons.mp hollow
      have none := fed.resolve_right id
      exact .next (resting nested.tail below (Or.inl none))
  | .drain :: stack =>
      have none := fed.resolve_right id
      subst none
      exact .next (resting nested.tail (hollow_cons.mp hollow).2 (Or.inl rfl))

/--
A script that is being run does its next step.  Where a task is submitted, the
pump that it asks for finds the script still in flight.
-/
theorem course_acting {script : Script ε} (nested : Nested (.script script :: stack))
    (clock : now.isNaN = false) (hollow : Hollow stack) (work : IsWork script)
    (accounted : Accounted events (some script) tasks) :
    Course
      (events ++ notice
        (⟨⟨now, tasks, true, [], []⟩, world, .script script :: stack⟩ : Engine ε ω))
      (step apply ⟨⟨now, tasks, true, [], []⟩, world, .script script :: stack⟩) := by
  have returning : Hollow (.script [] :: stack) := hollow_cons.mpr ⟨rfl, hollow⟩
  cases work with
  | finish =>
      have nested : Nested (.script [] :: stack) := nested
      exact .next ⟨nested.withPump, fun _ => Or.inr nested.pumped_withPump, clock, none,
        .rest returning.withPump, accounted.finish⟩
  | @effect effect rest work =>
      rcases had : (apply effect).run world with ⟨cause | value, after⟩
      · simp only [step, perform, had]
        exact .failed
      · simp only [step, perform, had]
        exact .next (onlyWork_of_busy rfl nested clock (.acting work hollow) accounted.effect)
  | @submit task rest further work =>
      have left : Accounted events (some rest) tasks := accounted.same rfl
      have nested : Nested (.script rest :: stack) := nested
      refine .next (onlyWork_of_busy rfl nested.withPump clock ?_ (left.submit further))
      unfold withPump
      split
      · exact .acting work hollow
      · exact .pumping work hollow
  | @nextFrame callback work =>
      have left : Accounted events (some callback) tasks :=
        accounted.same (by simp [effectsOf, Step.effects])
      exact .next (onlyWork_of_busy rfl nested clock (.framed work returning) left.quiet)
  | @later seconds callback finite work =>
      have left : Accounted events (some callback) tasks :=
        accounted.same (by simp [effectsOf, Step.effects])
      have due : (now + seconds).isNaN = false := Number.isNaN_add clock finite
      exact .next (onlyWork_of_busy rfl nested clock (.timed work due returning) left.quiet)
  | @film left effect =>
      have shown : Accounted events (some (showing effect left)) tasks :=
        accounted.same (by simp [effectsOf_showing, effectsOf, Step.effects])
      exact .next (onlyWork_of_busy rfl nested clock
        (.acting (isWork_showing effect left) returning) shown.quiet)

/-- While the task in flight waits for the frame, hollow activities return. -/
theorem course_framed {frame : Script ε} (nested : Nested stack) (clock : now.isNaN = false)
    (hollow : Hollow stack) (work : IsWork frame)
    (accounted : Accounted events (some frame) tasks) :
    Course (events ++ notice (⟨⟨now, tasks, true, [frame], []⟩, world, stack⟩ : Engine ε ω))
      (step apply ⟨⟨now, tasks, true, [frame], []⟩, world, stack⟩) := by
  have framed {stack : List (Activity ε)} (nested : Nested stack) (hollow : Hollow stack) :
      OnlyWork (events ++ []) (⟨⟨now, tasks, true, [frame], []⟩, world, stack⟩ : Engine ε ω) :=
    onlyWork_of_busy rfl nested clock (.framed work hollow) accounted.quiet
  match stack with
  | [] => exact .done
  | .script script :: stack =>
      obtain ⟨rfl, below⟩ := hollow_cons.mp hollow
      exact .next (framed nested.tail below)
  | .pump :: stack => exact .next (framed nested.tail (hollow_cons.mp hollow).2)
  | .tick frames :: stack =>
      obtain ⟨rfl, below⟩ := hollow_cons.mp hollow
      exact .next (framed nested.tail below)
  | .drain :: stack =>
      have clock' : _ = false := Queue.isNaN_advance
        (show (⟨now, tasks, true, [frame], []⟩ : Queue ε).now.isNaN = false from clock)
        (now + Queue.frameTime)
      exact .next (onlyWork_of_busy rfl nested clock' (.due work hollow) accounted.quiet)

/-- A timer in flight waits until it is due. -/
theorem course_timed {timer : Timer ε} (nested : Nested stack) (clock : now.isNaN = false)
    (hollow : Hollow stack) (work : IsWork timer.script) (number : timer.due.isNaN = false)
    (accounted : Accounted events (some timer.script) tasks) :
    Course (events ++ notice (⟨⟨now, tasks, true, [], [timer]⟩, world, stack⟩ : Engine ε ω))
      (step apply ⟨⟨now, tasks, true, [], [timer]⟩, world, stack⟩) := by
  have timed {stack : List (Activity ε)} (nested : Nested stack) (hollow : Hollow stack) :
      OnlyWork (events ++ []) (⟨⟨now, tasks, true, [], [timer]⟩, world, stack⟩ : Engine ε ω) :=
    onlyWork_of_busy rfl nested clock (.timed work number hollow) accounted.quiet
  match stack with
  | [] => exact .done
  | .script script :: stack =>
      obtain ⟨rfl, below⟩ := hollow_cons.mp hollow
      exact .next (timed nested.tail below)
  | .pump :: stack => exact .next (timed nested.tail (hollow_cons.mp hollow).2)
  | .tick frames :: stack =>
      obtain ⟨rfl, below⟩ := hollow_cons.mp hollow
      simp only [step, fire]
      split
      · exact .next (onlyWork_of_busy rfl nested clock (.acting work hollow) accounted.quiet)
      · exact .next (timed nested.tail below)
  | .drain :: stack =>
      have busy : (⟨now, tasks, true, [], [timer]⟩ : Queue ε).isIdle = false := rfl
      have before : (⟨now, tasks, true, [], [timer]⟩ : Queue ε).now.isNaN = false := clock
      have ticking : Hollow (.tick [] :: .drain :: stack) := hollow_cons.mpr ⟨rfl, hollow⟩
      simp only [step, drain, busy, Bool.false_eq_true, if_false]
      rw [if_pos (Queue.reaches_advance before number)]
      exact .next (onlyWork_of_busy rfl nested (Queue.isNaN_advance before timer.due)
        (.acting work ticking) accounted.quiet)

end Engine

/-- A step leaves an engine with nothing but work, unless an effect fails. -/
theorem OnlyWork.course {apply : ε → ExceptT φ (StateM ω) Unit} {events : List (Event ε)}
    {engine : Engine ε ω} (onlyWork : OnlyWork events engine) :
    Course (events ++ engine.notice) (engine.step apply) := by
  obtain ⟨queue, world, stack⟩ := engine
  obtain ⟨nested, fed, clock, left, place, accounted⟩ := onlyWork
  cases place with
  | rest hollow => exact Engine.course_at_rest nested (fed rfl) clock hollow accounted
  | acting work hollow => exact Engine.course_acting nested clock hollow work accounted
  | pumping work hollow =>
      exact .next (Engine.onlyWork_of_busy rfl nested.tail clock (.acting work hollow)
        accounted.quiet)
  | due work hollow =>
      have ticking : Hollow (.tick [] :: _) := hollow_cons.mpr ⟨rfl, hollow⟩
      exact .next (Engine.onlyWork_of_busy rfl nested clock (.acting work ticking) accounted.quiet)
  | framed work hollow => exact Engine.course_framed nested clock hollow work accounted
  | timed work number hollow =>
      exact Engine.course_timed nested clock hollow work number accounted

/-! ## Calls from outside -/

/-- Calls that fill a queue with work and let time pass. -/
inductive IsFilling : Script ε → Prop where
  | submit {task : Script ε} (work : IsWork task) : IsFilling [.submit task]
  | tick (now : Float) : IsFilling [.tick now]
  | drain : IsFilling [.drain]

section Calls

variable {apply : ε → ExceptT φ (StateM ω) Unit} {events : List (Event ε)} {queue : Queue ε}
  {world : ω}

theorem hollow_returning : Hollow [Activity.script ([] : Script ε)] := by
  simp [Hollow, Activity.IsHollow]

/-- A queue with nothing to do has nothing but work. -/
theorem OnlyWork.start {clock : Float} (number : clock.isNaN = false) (world : ω) :
    OnlyWork [] (⟨⟨clock, [], false, [], []⟩, world, []⟩ : Engine ε ω) :=
  ⟨trivial, fun _ => Or.inl rfl, number, none, .rest (by simp [Hollow]),
    rfl, rfl, List.forall_mem_nil _⟩

/-- A task may be submitted at any moment between calls. -/
theorem OnlyWork.submit (onlyWork : OnlyWork events (⟨queue, world, []⟩ : Engine ε ω))
    {task : Script ε} (work : IsWork task) :
    OnlyWork (events ++ [.submitted task])
      (⟨queue.enqueue task, world, [.pump, .script []]⟩ : Engine ε ω) := by
  obtain ⟨nested, fed, clock, left, place, accounted⟩ := onlyWork
  have pumping : Hollow [.pump, Activity.script ([] : Script ε)] :=
    hollow_cons.mpr ⟨trivial, hollow_returning⟩
  refine ⟨trivial, fun _ => Or.inr trivial, clock, left, ?_, accounted.submit work⟩
  cases place with
  | rest _ => exact .rest pumping
  | framed work _ => exact .framed work pumping
  | timed work number _ => exact .timed work number pumping

/-- So may a tick be taken. -/
theorem OnlyWork.tick (onlyWork : OnlyWork events (⟨queue, world, []⟩ : Engine ε ω))
    (now : Float) :
    OnlyWork events (⟨{ queue.advance now with frames := [] }, world,
      [.tick queue.frames, .script []]⟩ : Engine ε ω) := by
  obtain ⟨nested, fed, clock, left, place, accounted⟩ := onlyWork
  have ticking : Hollow [.tick [], Activity.script ([] : Script ε)] :=
    hollow_cons.mpr ⟨rfl, hollow_returning⟩
  have later := Queue.isNaN_advance clock now
  cases place with
  | rest _ =>
      have none := (fed rfl).resolve_right id
      exact ⟨rfl, fun _ => Or.inl none, later, _, .rest ticking, accounted⟩
  | framed work _ =>
      exact Engine.onlyWork_of_busy rfl rfl later (.due work hollow_returning) accounted
  | timed work number _ =>
      exact Engine.onlyWork_of_busy rfl rfl later (.timed work number ticking) accounted

/-- And so may the queue be drained. -/
theorem OnlyWork.drain (onlyWork : OnlyWork events (⟨queue, world, []⟩ : Engine ε ω)) :
    OnlyWork events (⟨queue, world, [.drain, .script []]⟩ : Engine ε ω) := by
  obtain ⟨nested, fed, clock, left, place, accounted⟩ := onlyWork
  have draining : Hollow [.drain, Activity.script ([] : Script ε)] :=
    hollow_cons.mpr ⟨trivial, hollow_returning⟩
  refine ⟨rfl, fun free => Or.inl ((fed free).resolve_right id), clock, left, ?_, accounted⟩
  cases place with
  | rest _ => exact .rest draining
  | framed work _ => exact .framed work draining
  | timed work number _ => exact .timed work number draining

/-- The first step of a call leads to nothing but work. -/
theorem IsFilling.course {script : Script ε} (filling : IsFilling script)
    (onlyWork : OnlyWork events (⟨queue, world, []⟩ : Engine ε ω)) :
    Course (events ++ Engine.notice (⟨queue, world, [.script script]⟩ : Engine ε ω))
      (Engine.step apply ⟨queue, world, [.script script]⟩) := by
  cases filling with
  | submit work => exact .next (onlyWork.submit work)
  | tick now =>
      refine .next (?_ : OnlyWork (events ++ []) _)
      rw [List.append_nil]
      exact onlyWork.tick now
  | drain =>
      refine .next (?_ : OnlyWork (events ++ []) _)
      rw [List.append_nil]
      exact onlyWork.drain

/-- An engine with nothing but work, or one that has just been called. -/
def OnlyWorkOrCalled (events : List (Event ε)) (engine : Engine ε ω) : Prop :=
  OnlyWork events engine ∨ ∃ script, IsFilling script ∧ engine.stack = [.script script] ∧
    OnlyWork events (⟨engine.queue, engine.world, []⟩ : Engine ε ω)

/-- Whether it has just been called or not, the engine goes on with nothing but work. -/
theorem OnlyWorkOrCalled.course {engine : Engine ε ω} (either : OnlyWorkOrCalled events engine) :
    Course (events ++ engine.notice) (engine.step apply) := by
  obtain ⟨queue, world, stack⟩ := engine
  rcases either with onlyWork | ⟨script, filling, rfl, onlyWork⟩
  · exact onlyWork.course
  · exact filling.course onlyWork

/-- A queue that was filled with nothing but work has nothing else at any moment. -/
theorem Reached.onlyWorkOrCalled {clock : Float} (number : clock.isNaN = false)
    {engine : Engine ε ω}
    (reached : Reached apply IsFilling (fun _ => False) ⟨clock, [], false, [], []⟩ world
      events engine) :
    OnlyWorkOrCalled events engine := by
  induction reached with
  | start => exact Or.inl (.start number world)
  | call _ filling before =>
      rcases before with onlyWork | ⟨script, _, none, _⟩
      · exact Or.inr ⟨_, filling, rfl, onlyWork⟩
      · cases none
  | next _ taken before =>
      have course : Course _ (Engine.step apply _) := before.course
      rw [taken] at course
      cases course with
      | next onlyWork => exact Or.inl onlyWork
  | failed _ _ survived => exact survived.elim

end Calls

/-! ## Whole runs -/

/-- An engine runs from one moment to another, with what is noticed on the way. -/
inductive Engine.Runs (apply : ε → ExceptT φ (StateM ω) Unit) :
    Engine ε ω → List (Event ε) → Engine ε ω → Prop where
  | stay {engine : Engine ε ω} : Runs apply engine [] engine
  | step {engine between after : Engine ε ω} {events : List (Event ε)}
      (taken : engine.step apply = .next between) (runs : Runs apply between events after) :
      Runs apply engine (engine.notice ++ events) after

section Runs

variable {apply : ε → ExceptT φ (StateM ω) Unit} {events : List (Event ε)}

/-- Along every step the clock keeps showing a number and does not go back. -/
theorem Engine.Transition.clock {engine after : Engine ε ω}
    (moved : Transition apply engine events after) (clock : engine.queue.now.isNaN = false) :
    after.queue.now.isNaN = false ∧ engine.queue.now ≤ after.queue.now := by
  cases moved with
  | tick | drainFrames | drainTimer =>
      exact ⟨Queue.isNaN_advance clock _, Queue.le_advance clock _⟩
  | _ => exact ⟨clock, Number.le_refl_of_number clock⟩

/-- The clock is never turned back. -/
theorem Engine.Runs.clock {engine after : Engine ε ω} (runs : Runs apply engine events after)
    (clock : engine.queue.now.isNaN = false) : engine.queue.now ≤ after.queue.now := by
  induction runs with
  | stay => exact Number.le_refl_of_number clock
  | step taken _ rest =>
      obtain ⟨number, later⟩ := (Engine.transition_of_step taken).clock clock
      exact Number.float_le_trans later (rest number)

/-- An engine with nothing but work runs to its end, unless an effect fails. -/
theorem OnlyWork.run {engine : Engine ε ω} (onlyWork : OnlyWork events engine)
    (fine : ∀ cause, (engine.run apply).1 ≠ .error (.failure cause)) :
    ∃ more queue world, Engine.Runs apply engine more ⟨queue, world, []⟩ ∧
      engine.run apply = (.ok (), queue, world) ∧
      OnlyWork (events ++ more) (⟨queue, world, []⟩ : Engine ε ω) := by
  fun_induction Engine.run apply engine generalizing events with
  | case1 engine after taken induction =>
      have course : Course _ (engine.step apply) := onlyWork.course
      rw [taken] at course
      cases course with
      | next onlyWork =>
          obtain ⟨more, queue, world, runs, ended, onlyWork⟩ := induction onlyWork fine
          refine ⟨engine.notice ++ more, queue, world, .step taken runs, ended, ?_⟩
          rwa [← List.append_assoc]
  | case2 engine queue world taken =>
      obtain ⟨before, start, stack⟩ := engine
      obtain ⟨rfl, -⟩ := Engine.step_done taken
      cases taken
      refine ⟨[], queue, world, .stay, rfl, ?_⟩
      rwa [List.append_nil]
  | case3 engine trouble queue world taken =>
      have course : Course _ (engine.step apply) := onlyWork.course
      rw [taken] at course
      cases course with
      | failed => exact absurd rfl (fine _)

/-- A queue that has come to the end of its work has accounted for everything. -/
theorem OnlyWork.idle {queue : Queue ε} {world : ω}
    (onlyWork : OnlyWork events (⟨queue, world, []⟩ : Engine ε ω)) (idle : queue.isIdle = true) :
    queue = ⟨queue.now, [], false, [], []⟩ ∧
      doneIn events = (submittedIn events).flatMap account := by
  obtain ⟨nested, fed, clock, left, place, accounted⟩ := onlyWork
  cases place with
  | rest _ =>
      obtain rfl := (fed rfl).resolve_right id
      have done : doneIn events ++ [] = _ := accounted.done
      have waiting : startedIn events ++ [] = _ := accounted.waiting
      rw [List.append_nil] at done waiting
      rw [waiting] at done
      exact ⟨rfl, done⟩
  | framed _ _ => cases idle
  | timed _ _ _ => cases idle

/--
A drain of a queue that was filled with nothing but work comes to its end,
unless an effect fails.  The queue is empty then, its clock has not been
turned back, and every task that was ever submitted has been run from its
start to its end, one after the other.
-/
theorem Reached.drain {clock : Float} (number : clock.isNaN = false) {world shown : ω}
    {queue : Queue ε}
    (reached : Reached apply IsFilling (fun _ => False) ⟨clock, [], false, [], []⟩ world
      events ⟨queue, shown, []⟩)
    (fine : ∀ cause, (queue.perform apply .drain shown).1 ≠ .error (.failure cause)) :
    ∃ more after drawn,
      Engine.Runs apply ⟨queue, shown, [.script [.drain]]⟩ more ⟨after, drawn, []⟩ ∧
      queue.perform apply .drain shown = (.ok (), after, drawn) ∧
      after = ⟨after.now, [], false, [], []⟩ ∧ queue.now ≤ after.now ∧
      doneIn (events ++ more) = (submittedIn (events ++ more)).flatMap account := by
  have onlyWork : OnlyWork events (⟨queue, shown, []⟩ : Engine ε ω) := by
    rcases reached.onlyWorkOrCalled number with onlyWork | ⟨script, _, none, _⟩
    · exact onlyWork
    · cases none
  have called : queue.perform apply .drain shown =
      Engine.run apply ⟨queue, shown, [.drain, .script []]⟩ := Engine.run_next rfl
  rw [called] at fine
  obtain ⟨more, after, drawn, runs, ended, emptied⟩ := onlyWork.drain.run fine
  have started : Engine.Runs apply ⟨queue, shown, [.script [.drain]]⟩ more ⟨after, drawn, []⟩ :=
    Engine.Runs.step rfl runs
  have idle := Queue.idle_of_perform_drain (called.trans ended)
  obtain ⟨empty, done⟩ := emptied.idle idle
  exact ⟨more, after, drawn, started, called.trans ended, empty, started.clock onlyWork.clock, done⟩

end Runs

end Logo.Animation
