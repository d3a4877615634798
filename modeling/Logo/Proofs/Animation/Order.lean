import Logo.Proofs.Animation.History

/-!
# First in, first out

A queue starts its tasks in the order in which they were submitted, each of
them once, and no task before the one ahead of it has finished.  Tasks may be
submitted from anywhere, also by a task or a callback that is running, and the
queue may be ticked and drained from anywhere.  All that is asked of a task is
that it finishes once, by itself or in one of the callbacks that it leaves
behind.

The argument is a balance.  What is still to be run (on the stack, at the next
frame or at some time) owes the queue one more finish while a task is in
flight, and none otherwise.  So nothing can finish a task but the task itself,
and the queue is busy exactly from the start of a task to its finish.
-/

namespace Logo.Animation

variable {ε ω φ : Type}

/-! ## Scripts that behave -/

mutual

/-- How often a step finishes a task, callbacks that it leaves behind included. -/
def Step.finishes : Step ε → Nat
  | .finish => 1
  | .film _ _ => 1
  | .nextFrame callback => finishesOf callback
  | .later _ callback => finishesOf callback
  | .effect _ => 0
  | .submit _ => 0
  | .tick _ => 0
  | .drain => 0
  | .cancel => 0

/-- How often a script finishes a task, callbacks that it leaves behind included. -/
def finishesOf : List (Step ε) → Nat
  | [] => 0
  | step :: rest => step.finishes + finishesOf rest

end

mutual

/-- A step that cancels nothing and submits only tasks that finish once. -/
def Step.Behaves : Step ε → Prop
  | .cancel => False
  | .submit task => finishesOf task = 1 ∧ Behave task
  | .nextFrame callback => Behave callback
  | .later _ callback => Behave callback
  | .effect _ => True
  | .finish => True
  | .film _ _ => True
  | .tick _ => True
  | .drain => True

/-- A script that cancels nothing and submits only tasks that finish once. -/
def Behave : List (Step ε) → Prop
  | [] => True
  | step :: rest => step.Behaves ∧ Behave rest

end

/-- A task that finishes once. -/
structure IsTask (script : Script ε) : Prop where
  finishes : finishesOf script = 1
  behaves : Behave script

/-- A call from outside, which finishes no task. -/
structure IsCall (script : Script ε) : Prop where
  finishes : finishesOf script = 0
  behaves : Behave script

/-- What shows the frames of a film is a task. -/
theorem showing_isTask (effect : Nat → ε) (left : Nat) : IsTask (showing effect left) := by
  cases left with
  | zero => exact ⟨rfl, trivial, trivial, trivial⟩
  | succ left => exact ⟨rfl, trivial, ⟨trivial, trivial⟩, trivial⟩

/-! ## The balance of an engine -/

namespace Activity

/-- How often an activity will finish a task. -/
def owes : Activity ε → Nat
  | .script rest => finishesOf rest
  | .tick frames => total finishesOf frames
  | .pump => 0
  | .drain => 0

/-- An activity that runs only scripts that behave. -/
def Behaves : Activity ε → Prop
  | .script rest => Behave rest
  | .tick frames => ∀ frame ∈ frames, Behave frame
  | .pump => True
  | .drain => True

end Activity

/-- A pump owes no finish. -/
theorem owes_withPump (stack : List (Activity ε)) :
    total Activity.owes (withPump stack) = total Activity.owes stack := by
  unfold withPump
  split
  · rfl
  · simp [Activity.owes]

theorem behaves_withPump {stack : List (Activity ε)}
    (behave : ∀ activity ∈ stack, activity.Behaves) :
    ∀ activity ∈ withPump stack, activity.Behaves := by
  unfold withPump
  split
  · exact behave
  · exact List.forall_mem_cons.mpr ⟨trivial, behave⟩

theorem isPump_withPump (stack : List (Activity ε)) :
    (withPump stack).any Activity.isPump = true := by
  unfold withPump
  split
  · assumption
  · rfl

/-- A timer owes what its script owes. -/
theorem owes_insertTimer (timer : Timer ε) (timers : List (Timer ε)) :
    total (fun timer => finishesOf timer.script) (Queue.insertTimer timer timers) =
      finishesOf timer.script + total (fun timer => finishesOf timer.script) timers := by
  induction timers with
  | nil => rfl
  | cons other rest induction =>
      unfold Queue.insertTimer
      split
      · rfl
      · simp only [total_cons, induction]
        omega

theorem behaves_insertTimer {timer : Timer ε} {timers : List (Timer ε)}
    (behaves : Behave timer.script) (behave : ∀ timer ∈ timers, Behave timer.script) :
    ∀ other ∈ Queue.insertTimer timer timers, Behave other.script := by
  induction timers with
  | nil => simpa [Queue.insertTimer] using behaves
  | cons other rest induction =>
      obtain ⟨first, others⟩ := List.forall_mem_cons.mp behave
      unfold Queue.insertTimer
      split
      · exact List.forall_mem_cons.mpr ⟨behaves, behave⟩
      · exact List.forall_mem_cons.mpr ⟨first, induction others⟩

namespace Engine

/-- How often a task will be finished by what is still to be run. -/
def owes (engine : Engine ε ω) : Nat :=
  total Activity.owes engine.stack + total finishesOf engine.queue.frames +
    total (fun timer => finishesOf timer.script) engine.queue.timers

/-- Everything that is still to be run behaves, and everything that waits is a task. -/
structure Behaves (engine : Engine ε ω) : Prop where
  stack : ∀ activity ∈ engine.stack, activity.Behaves
  tasks : ∀ task ∈ engine.queue.tasks, IsTask task
  frames : ∀ frame ∈ engine.queue.frames, Behave frame
  timers : ∀ timer ∈ engine.queue.timers, Behave timer.script

variable {apply : ε → ExceptT φ (StateM ω) Unit} {engine after : Engine ε ω}
  {events : List (Event ε)}

/-- Engines that behave go on behaving. -/
theorem Transition.behaves (moved : Transition apply engine events after)
    (behaves : engine.Behaves) : after.Behaves := by
  obtain ⟨stack, tasks, frames, timers⟩ := behaves
  cases moved with
  | leave | pumped | ticked | drained =>
      exact ⟨(List.forall_mem_cons.mp stack).2, tasks, frames, timers⟩
  | effect =>
      obtain ⟨⟨-, rest⟩, stack⟩ := List.forall_mem_cons.mp stack
      exact ⟨List.forall_mem_cons.mpr ⟨rest, stack⟩, tasks, frames, timers⟩
  | submit =>
      obtain ⟨⟨⟨once, fine⟩, rest⟩, stack⟩ := List.forall_mem_cons.mp stack
      refine ⟨behaves_withPump (List.forall_mem_cons.mpr ⟨rest, stack⟩), ?_, frames, timers⟩
      exact List.forall_mem_append.mpr ⟨tasks, List.forall_mem_singleton.mpr ⟨once, fine⟩⟩
  | finish =>
      obtain ⟨⟨-, rest⟩, stack⟩ := List.forall_mem_cons.mp stack
      exact ⟨behaves_withPump (List.forall_mem_cons.mpr ⟨rest, stack⟩), tasks, frames, timers⟩
  | nextFrame =>
      obtain ⟨⟨callback, rest⟩, stack⟩ := List.forall_mem_cons.mp stack
      refine ⟨List.forall_mem_cons.mpr ⟨rest, stack⟩, tasks, ?_, timers⟩
      exact List.forall_mem_append.mpr ⟨frames, List.forall_mem_singleton.mpr callback⟩
  | later =>
      obtain ⟨⟨callback, rest⟩, stack⟩ := List.forall_mem_cons.mp stack
      exact ⟨List.forall_mem_cons.mpr ⟨rest, stack⟩, tasks, frames,
        behaves_insertTimer callback timers⟩
  | @film _ _ _ left effect =>
      obtain ⟨⟨-, rest⟩, stack⟩ := List.forall_mem_cons.mp stack
      have shown := (showing_isTask effect left).behaves
      exact ⟨List.forall_mem_cons.mpr ⟨shown, List.forall_mem_cons.mpr ⟨rest, stack⟩⟩, tasks,
        frames, timers⟩
  | tick =>
      obtain ⟨⟨-, rest⟩, stack⟩ := List.forall_mem_cons.mp stack
      exact ⟨List.forall_mem_cons.mpr ⟨frames, List.forall_mem_cons.mpr ⟨rest, stack⟩⟩, tasks,
        by simp, timers⟩
  | drain =>
      obtain ⟨⟨-, rest⟩, stack⟩ := List.forall_mem_cons.mp stack
      exact ⟨List.forall_mem_cons.mpr ⟨trivial, List.forall_mem_cons.mpr ⟨rest, stack⟩⟩, tasks,
        frames, timers⟩
  | cancel =>
      obtain ⟨⟨never, -⟩, -⟩ := List.forall_mem_cons.mp stack
      exact never.elim
  | start free waiting =>
      obtain ⟨task, others⟩ := List.forall_mem_cons.mp (waiting ▸ tasks)
      exact ⟨List.forall_mem_cons.mpr ⟨task.behaves, stack⟩, others, frames, timers⟩
  | frame =>
      obtain ⟨ticking, stack⟩ := List.forall_mem_cons.mp stack
      obtain ⟨frame, others⟩ := List.forall_mem_cons.mp ticking
      exact ⟨List.forall_mem_cons.mpr ⟨frame, List.forall_mem_cons.mpr ⟨others, stack⟩⟩, tasks,
        frames, timers⟩
  | fire first due =>
      obtain ⟨timer, others⟩ := List.forall_mem_cons.mp (first ▸ timers)
      exact ⟨List.forall_mem_cons.mpr ⟨timer, stack⟩, tasks, frames, others⟩
  | drainFrames =>
      exact ⟨List.forall_mem_cons.mpr ⟨frames, stack⟩, tasks, by simp, timers⟩
  | drainTimer working none first due =>
      obtain ⟨timer, others⟩ := List.forall_mem_cons.mp (first ▸ timers)
      have ticking : Activity.Behaves (.tick ([] : List (Script ε))) := by simp [Activity.Behaves]
      exact ⟨List.forall_mem_cons.mpr ⟨timer, List.forall_mem_cons.mpr ⟨ticking, stack⟩⟩, tasks,
        frames, others⟩

/-- Starting a task adds the finish that it owes, and a finish is paid off; nothing else counts. -/
theorem Transition.owes (moved : Transition apply engine events after)
    (behaves : engine.Behaves) :
    after.owes + finishedIn events = engine.owes + (startedIn events).length := by
  obtain ⟨stack, tasks, frames, timers⟩ := behaves
  cases moved with
  | cancel =>
      obtain ⟨⟨never, -⟩, -⟩ := List.forall_mem_cons.mp stack
      exact never.elim
  | @film _ _ _ left effect =>
      have shown := (showing_isTask effect left).finishes
      simp [Engine.owes, Activity.owes, finishesOf, Step.finishes, finishedIn, startedIn, shown]
      omega
  | start free waiting =>
      obtain ⟨task, -⟩ := List.forall_mem_cons.mp (waiting ▸ tasks)
      have once := task.finishes
      simp [Engine.owes, Activity.owes, finishedIn, startedIn, once]
      omega
  | fire first due =>
      simp [Engine.owes, Activity.owes, finishedIn, startedIn, first]
      omega
  | drainTimer working none first due =>
      simp [Engine.owes, Activity.owes, finishedIn, startedIn, first, Queue.advance]
      omega
  | _ =>
      simp only [Engine.owes, Activity.owes, finishesOf, Step.finishes, finishedIn, startedIn,
        owes_withPump, owes_insertTimer, Queue.enqueue, Queue.addFrame, Queue.addTimer,
        Queue.advance, total_cons, total_append, total_nil, List.filterMap_cons, List.filterMap_nil,
        Event.started?, Event.isFinished, List.countP_cons, List.countP_nil, List.length_nil,
        if_true, Bool.false_eq_true, if_false]
      omega

/--
A queue becomes busy by a start and free by a finish, as long as the balance is
kept.  A finish that is about to happen is owed, so a task is in flight.
-/
theorem Transition.busy (moved : Transition apply engine events after)
    (behaves : engine.Behaves) (balance : engine.owes = engine.queue.busy.toNat) :
    after.queue.busy.toNat + finishedIn events =
      engine.queue.busy.toNat + (startedIn events).length := by
  cases moved with
  | cancel =>
      obtain ⟨⟨never, -⟩, -⟩ := List.forall_mem_cons.mp behaves.stack
      exact never.elim
  | @finish queue =>
      have owed : 1 ≤ queue.busy.toNat := by
        rw [← balance]
        simp only [Engine.owes, total_cons, Activity.owes, finishesOf, Step.finishes]
        omega
      cases busy : queue.busy with
      | true => rfl
      | false => simp [busy] at owed
  | start free waiting => simp [finishedIn, startedIn, free]
  | _ => simp [finishedIn, startedIn, Queue.enqueue, Queue.addFrame, Queue.addTimer, Queue.advance]

/-- Tasks leave the queue at the front when they are started, and join it at the end. -/
theorem Transition.tasks (moved : Transition apply engine events after)
    (behaves : engine.Behaves) :
    startedIn events ++ after.queue.tasks = engine.queue.tasks ++ submittedIn events := by
  cases moved with
  | cancel =>
      obtain ⟨⟨never, -⟩, -⟩ := List.forall_mem_cons.mp behaves.stack
      exact never.elim
  | start free waiting => simp [startedIn, submittedIn, waiting]
  | _ =>
      simp [startedIn, submittedIn, List.filterMap_cons, Queue.enqueue, Queue.addFrame,
        Queue.addTimer, Queue.advance]

/-- Whatever makes work for a pump starts one, and a pump leaves only when nothing is to be done. -/
theorem Transition.fed (moved : Transition apply engine events after)
    (behaves : engine.Behaves)
    (fed : engine.queue.busy = true ∨ engine.queue.tasks = [] ∨
      engine.stack.any Activity.isPump = true) :
    after.queue.busy = true ∨ after.queue.tasks = [] ∨
      after.stack.any Activity.isPump = true := by
  cases moved with
  | cancel =>
      obtain ⟨⟨never, -⟩, -⟩ := List.forall_mem_cons.mp behaves.stack
      exact never.elim
  | submit => exact Or.inr (Or.inr (isPump_withPump _))
  | finish => exact Or.inr (Or.inr (isPump_withPump _))
  | start free waiting => exact Or.inl rfl
  | pumped nothing => exact nothing.imp_right Or.inl
  | _ => simpa [Activity.isPump, Queue.addFrame, Queue.addTimer, Queue.advance] using fed

/-- At most one thing is noticed of a step, and a task is started only while none is in flight. -/
theorem Transition.noticed (moved : Transition apply engine events after) :
    events = [] ∨ ∃ event, events = [event] ∧
      ∀ task, event = .started task → engine.queue.busy = false := by
  cases moved with
  | start free waiting => exact Or.inr ⟨_, rfl, fun _ _ => free⟩
  | effect had => exact Or.inr ⟨_, rfl, by simp⟩
  | submit => exact Or.inr ⟨_, rfl, by simp⟩
  | finish => exact Or.inr ⟨_, rfl, by simp⟩
  | _ => exact Or.inl rfl

end Engine

/-! ## Every moment of every history -/

/-- What is true of a queue at every moment of a history in which every task finishes once. -/
structure InOrder (events : List (Event ε)) (engine : Engine ε ω) : Prop where
  behaves : engine.Behaves
  balance : engine.owes = engine.queue.busy.toNat
  waiting : startedIn events ++ engine.queue.tasks = submittedIn events
  inFlight : (startedIn events).length = finishedIn events + engine.queue.busy.toNat
  fed : engine.queue.busy = true ∨ engine.queue.tasks = [] ∨
    engine.stack.any Activity.isPump = true
  oneByOne : ∀ earlier task, earlier ++ [.started task] <+: events →
    finishedIn earlier = (startedIn earlier).length

namespace InOrder

variable {apply : ε → ExceptT φ (StateM ω) Unit} {engine after : Engine ε ω}
  {events more : List (Event ε)}

/-- Nothing has happened to an empty queue. -/
theorem empty (world : ω) : InOrder [] (⟨.empty, world, []⟩ : Engine ε ω) where
  behaves := ⟨by simp, by simp [Queue.empty], by simp [Queue.empty], by simp [Queue.empty]⟩
  balance := rfl
  waiting := rfl
  inFlight := rfl
  fed := Or.inr (Or.inl rfl)
  oneByOne := by simp

/-- A call finds things in order. -/
theorem call {queue : Queue ε} {world : ω} {script : Script ε}
    (inOrder : InOrder events (⟨queue, world, []⟩ : Engine ε ω)) (call : IsCall script) :
    InOrder events (⟨queue, world, [.script script]⟩ : Engine ε ω) where
  behaves :=
    { inOrder.behaves with stack := List.forall_mem_singleton.mpr call.behaves }
  balance := by
    have balance := inOrder.balance
    simp only [Engine.owes, total_cons, Activity.owes, call.finishes] at balance ⊢
    exact balance
  waiting := inOrder.waiting
  inFlight := inOrder.inFlight
  fed := inOrder.fed.imp_right (Or.imp_right (by simp))
  oneByOne := inOrder.oneByOne

/-- A task that is started finds every earlier one finished. -/
theorem oneByOne_next (inOrder : InOrder events engine)
    (moved : engine.Transition apply more after) (earlier : List (Event ε)) (task : Script ε)
    (upTo : earlier ++ [.started task] <+: events ++ more) :
    finishedIn earlier = (startedIn earlier).length := by
  obtain rfl | ⟨event, rfl, free⟩ := moved.noticed
  · exact inOrder.oneByOne earlier task (by simpa using upTo)
  · rcases List.prefix_concat_iff.mp upTo with here | before
    · obtain ⟨rfl, last⟩ := List.append_inj' here rfl
      have inFlight := inOrder.inFlight
      simp only [free task (by simpa using last.symm), Bool.toNat_false] at inFlight
      exact inFlight.symm
    · exact inOrder.oneByOne earlier task before

/-- A step leaves things in order. -/
theorem next (inOrder : InOrder events engine) (moved : engine.Transition apply more after) :
    InOrder (events ++ more) after := by
  have busy := moved.busy inOrder.behaves inOrder.balance
  refine ⟨moved.behaves inOrder.behaves, ?_, ?_, ?_, moved.fed inOrder.behaves inOrder.fed,
    inOrder.oneByOne_next moved⟩
  · have owes := moved.owes inOrder.behaves
    have balance := inOrder.balance
    omega
  · calc startedIn (events ++ more) ++ after.queue.tasks
        = startedIn events ++ (startedIn more ++ after.queue.tasks) := by simp
      _ = startedIn events ++ engine.queue.tasks ++ submittedIn more := by
          rw [moved.tasks inOrder.behaves, List.append_assoc]
      _ = submittedIn (events ++ more) := by rw [inOrder.waiting, submittedIn_append]
  · have inFlight := inOrder.inFlight
    simp only [startedIn_append, finishedIn_append, List.length_append]
    omega

end InOrder

/-- At every moment of a history things are in order. -/
theorem Reached.inOrder {apply : ε → ExceptT φ (StateM ω) Unit} {world : ω}
    {events : List (Event ε)} {engine : Engine ε ω}
    (reached : Reached apply IsCall (fun _ => False) .empty world events engine) :
    InOrder events engine := by
  induction reached with
  | start => exact InOrder.empty world
  | call _ allowed inOrder => exact inOrder.call allowed
  | next _ taken inOrder => exact inOrder.next (Engine.transition_of_step taken)
  | failed _ _ never => exact never.elim

theorem Queue.size_eq (queue : Queue ε) : queue.size = queue.tasks.length + queue.busy.toNat := by
  cases busy : queue.busy <;> simp [Queue.size, busy]

/-- A queue with nothing in it and nothing in flight is idle, and no other one is. -/
theorem Queue.isIdle_iff_size (queue : Queue ε) : queue.isIdle = true ↔ queue.size = 0 := by
  cases busy : queue.busy <;> simp [Queue.isIdle, Queue.size, busy]

/--
However a queue is called, also by the tasks and callbacks that it runs: the
tasks are started in the order in which they were submitted, each of them
once, with those that wait still to come; a task is started only after every
earlier one has finished; what has been started and not finished is one task
if the queue is busy and none otherwise; between calls no task waits unless
one is in flight; and the size of the queue counts the tasks that have been
submitted and not finished, so that it is idle when there are none.
-/
theorem serial_and_in_order (apply : ε → ExceptT φ (StateM ω) Unit) (world : ω)
    (events : List (Event ε)) (engine : Engine ε ω)
    (reached : Reached apply IsCall (fun _ => False) .empty world events engine) :
    startedIn events ++ engine.queue.tasks = submittedIn events ∧
      (∀ earlier task, earlier ++ [.started task] <+: events →
        finishedIn earlier = (startedIn earlier).length) ∧
      (startedIn events).length = finishedIn events + engine.queue.busy.toNat ∧
      (engine.stack = [] → engine.queue.tasks ≠ [] → engine.queue.busy = true) ∧
      engine.queue.size + finishedIn events = (submittedIn events).length ∧
      (engine.queue.isIdle = true ↔ finishedIn events = (submittedIn events).length) := by
  have inOrder := reached.inOrder
  have counted : engine.queue.size + finishedIn events = (submittedIn events).length := by
    have inFlight := inOrder.inFlight
    rw [← inOrder.waiting, List.length_append, Queue.size_eq]
    omega
  refine ⟨inOrder.waiting, inOrder.oneByOne, inOrder.inFlight, ?_, counted, ?_⟩
  · intro outside waiting
    rcases inOrder.fed with busy | none | pumped
    · exact busy
    · exact absurd none waiting
    · simp [outside] at pumped
  · rw [Queue.isIdle_iff_size]
    omega

/-- A task that submits another one while it runs, and finishes in the next frame. -/
def relay : Script Nat :=
  [.effect 1, .submit (job 2), .nextFrame [.finish]]

/-- The history of a relay up to the start of the second task. -/
def relayHistory : List (Event Nat) :=
  [.submitted relay, .started relay, .had 1, .submitted (job 2), .finished, .started (job 2)]

/-- The engine at the start of the second task of a relay. -/
def relayMoment : Engine Nat Unit :=
  ⟨⟨1, [], true, [], []⟩, (), [.script (job 2), .pump, .script [], .tick [], .script []]⟩

theorem relay_reached :
    Reached unseen IsCall (fun _ => False) .empty () relayHistory relayMoment := by
  have fresh : Reached unseen IsCall (fun _ => False) .empty () [] ⟨.empty, (), []⟩ := .start
  have submits : IsCall [.submit relay] := ⟨rfl, ⟨rfl, trivial, ⟨rfl, trivial, trivial, trivial⟩,
    ⟨trivial, trivial⟩, trivial⟩, trivial⟩
  have ticks : IsCall [(.tick 1 : Step Nat)] := ⟨rfl, trivial, trivial⟩
  have started := ((fresh.call submits).next rfl).next rfl
  have ran := ((started.next rfl).next rfl).next rfl
  have waiting := ((ran.next rfl).next rfl).next rfl
  have finished := (((waiting.call ticks).next rfl).next rfl).next rfl
  exact finished.next rfl

/-- The relay is serial and in order. -/
theorem relay_serial_and_in_order :
    Reached unseen IsCall (fun _ => False) .empty () relayHistory relayMoment ∧
      startedIn relayHistory ++ relayMoment.queue.tasks = submittedIn relayHistory ∧
      (∀ earlier task, earlier ++ [.started task] <+: relayHistory →
        finishedIn earlier = (startedIn earlier).length) ∧
      relayMoment.queue.size + finishedIn relayHistory = 2 := by
  obtain ⟨order, oneByOne, -, -, counted, -⟩ :=
    serial_and_in_order unseen () relayHistory relayMoment relay_reached
  exact ⟨relay_reached, order, oneByOne, counted⟩

end Logo.Animation
