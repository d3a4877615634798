import Logo.Animation.Queue

/-!
# Running the queue

An engine is a queue, the world on which its scripts have their effects, and
a stack of activities: the script that runs, the scripts that called it, and
the loops of the queue in between.  Each loop is one kind of activity.

* A pump starts waiting tasks for as long as none is in flight.  At most one
  pump is on the stack; a task that finishes while a pump runs leaves the next
  one to it.
* A tick runs the scripts that were waiting for the frame, and then the timers
  that have come due.
* A drain keeps ticking until the queue is idle.

Every step of an engine takes weight off it, so every run ends.  When an
effect fails, the stack is gone; the queue and the world stay as they are.
-/

namespace Logo.Animation

/-- Something under way. -/
inductive Activity (ε : Type) where
  | script (rest : Script ε)
  | pump
  | tick (frames : List (Script ε))
  | drain

/-- Why a run of the queue ended before its time. -/
inductive Trouble (φ : Type) where
  | stranded
  | endless
  | failure (cause : φ)

/-- A queue at work. -/
structure Engine (ε ω : Type) where
  queue : Queue ε
  world : ω
  stack : List (Activity ε)

/-- What a step leads to. -/
inductive Progress (ε ω φ : Type) where
  | next (engine : Engine ε ω)
  | done (queue : Queue ε) (world : ω)
  | failed (trouble : Trouble φ) (queue : Queue ε) (world : ω)

variable {ε ω φ : Type}

namespace Activity

/-- Whether an activity is a pump. -/
def isPump : Activity ε → Bool
  | .pump => true
  | _ => false

/-- What an activity weighs. -/
def weight : Activity ε → Nat
  | .script rest => scriptWeight rest
  | .pump => 1
  | .tick frames => total (fun frame => scriptWeight frame + 1) frames + 1
  | .drain => 1

end Activity

/-- Start a pump, unless one is running. -/
def withPump (stack : List (Activity ε)) : List (Activity ε) :=
  if stack.any Activity.isPump then stack else .pump :: stack

namespace Engine

/-- What an engine weighs. -/
def weight (engine : Engine ε ω) : Nat :=
  engine.queue.weight + total Activity.weight engine.stack

/-- Take one step of the script that is on top of the stack. -/
def perform (apply : ε → ExceptT φ (StateM ω) Unit) (step : Step ε)
    (queue : Queue ε) (world : ω) (stack : List (Activity ε)) : Progress ε ω φ :=
  match step with
  | .effect effect =>
      match (apply effect).run world with
      | (.ok (), world) => .next ⟨queue, world, stack⟩
      | (.error cause, world) => .failed (.failure cause) queue world
  | .submit task => .next ⟨queue.enqueue task, world, withPump stack⟩
  | .finish => .next ⟨{ queue with busy := false }, world, withPump stack⟩
  | .nextFrame callback => .next ⟨queue.addFrame callback, world, stack⟩
  | .later seconds callback => .next ⟨queue.addTimer seconds callback, world, stack⟩
  | .film left effect => .next ⟨queue, world, .script (showing effect left) :: stack⟩
  | .tick now =>
      .next ⟨{ queue.advance now with frames := [] }, world, .tick queue.frames :: stack⟩
  | .drain => .next ⟨queue, world, .drain :: stack⟩
  | .cancel => .next ⟨queue.cancel, world, stack⟩

/-- Start the next task if none is in flight. -/
def pump (queue : Queue ε) (world : ω) (stack : List (Activity ε)) : Progress ε ω φ :=
  if queue.busy then
    .next ⟨queue, world, stack⟩
  else
    match queue.tasks with
    | [] => .next ⟨queue, world, stack⟩
    | task :: tasks =>
        .next ⟨{ queue with tasks, busy := true }, world, .script task :: .pump :: stack⟩

/-- Run the first timer that has come due. -/
def fire (queue : Queue ε) (world : ω) (stack : List (Activity ε)) : Progress ε ω φ :=
  match queue.timers with
  | [] => .next ⟨queue, world, stack⟩
  | timer :: timers =>
      if timer.due ≤ queue.now then
        .next ⟨{ queue with timers }, world, .script timer.script :: .tick [] :: stack⟩
      else
        .next ⟨queue, world, stack⟩

/--
Tick once more, unless the queue is idle: for the next frame if anything waits
for it, and otherwise at the time of the first timer.
-/
def drain (queue : Queue ε) (world : ω) (stack : List (Activity ε)) : Progress ε ω φ :=
  if queue.isIdle then
    .next ⟨queue, world, stack⟩
  else
    match queue.frames, queue.timers with
    | frame :: frames, _ =>
        let advanced := queue.advance (queue.now + Queue.frameTime)
        .next ⟨{ advanced with frames := [] }, world, .tick (frame :: frames) :: .drain :: stack⟩
    | [], timer :: timers =>
        let advanced := queue.advance timer.due
        if timer.due ≤ advanced.now then
          .next ⟨{ advanced with timers }, world,
            .script timer.script :: .tick [] :: .drain :: stack⟩
        else
          .failed .endless queue world
    | [], [] => .failed .stranded queue world

/-- One step of an engine. -/
def step (apply : ε → ExceptT φ (StateM ω) Unit) : Engine ε ω → Progress ε ω φ
  | ⟨queue, world, []⟩ => .done queue world
  | ⟨queue, world, .script [] :: stack⟩ => .next ⟨queue, world, stack⟩
  | ⟨queue, world, .script (step :: rest) :: stack⟩ =>
      perform apply step queue world (.script rest :: stack)
  | ⟨queue, world, .pump :: stack⟩ => pump queue world stack
  | ⟨queue, world, .tick (frame :: frames) :: stack⟩ =>
      .next ⟨queue, world, .script frame :: .tick frames :: stack⟩
  | ⟨queue, world, .tick [] :: stack⟩ => fire queue world stack
  | ⟨queue, world, .drain :: stack⟩ => drain queue world stack

/-! ## Every step takes weight off -/

/-- At most one pump is put on the stack. -/
theorem withPump_weight_le (stack : List (Activity ε)) :
    total Activity.weight (withPump stack) ≤ total Activity.weight stack + 1 := by
  unfold withPump
  split
  · omega
  · simp [Activity.weight]
    omega

/-- A timer weighs the same wherever it is put among the others. -/
theorem insertTimer_weight (timer : Timer ε) (timers : List (Timer ε)) :
    total (fun timer => scriptWeight timer.script + 2) (Queue.insertTimer timer timers) =
      scriptWeight timer.script + 2 +
        total (fun timer => scriptWeight timer.script + 2) timers := by
  induction timers with
  | nil => simp [Queue.insertTimer]
  | cons other rest ih =>
      unfold Queue.insertTimer
      split
      · simp
      · simp [ih]
        omega

theorem tick_weight (frames : List (Script ε)) :
    total (fun frame => scriptWeight frame + 1) frames ≤
      total (fun frame => scriptWeight frame + 3) frames := by
  induction frames with
  | nil => simp
  | cons frame rest ih =>
      simp
      omega

/-- To show the frames one by one weighs less than the film that asks for it. -/
theorem showing_weight (effect : Nat → ε) (left : Nat) :
    scriptWeight (showing effect left) < (Step.film left effect).weight := by
  cases left with
  | zero => simp [showing, scriptWeight, Step.weight]
  | succ left =>
      simp [showing, scriptWeight, Step.weight]
      omega

/-- Every step of a script makes the engine lighter. -/
theorem perform_weight_lt {apply : ε → ExceptT φ (StateM ω) Unit} {step : Step ε}
    {queue : Queue ε} {world : ω} {stack : List (Activity ε)} {after : Engine ε ω}
    (taken : (perform apply step queue world stack : Progress ε ω φ) = .next after) :
    after.weight < queue.weight + step.weight + total Activity.weight stack := by
  cases step with
  | effect effect =>
      simp only [perform] at taken
      split at taken
      · cases taken
        simp [weight, Step.weight]
      · cases taken
  | submit task =>
      simp only [perform, Progress.next.injEq] at taken
      subst taken
      have pumped := withPump_weight_le stack
      simp [weight, Step.weight, Queue.enqueue, Queue.weight]
      omega
  | finish =>
      simp only [perform, Progress.next.injEq] at taken
      subst taken
      have pumped := withPump_weight_le stack
      simp [weight, Step.weight, Queue.weight]
      omega
  | nextFrame callback =>
      simp only [perform, Progress.next.injEq] at taken
      subst taken
      simp [weight, Step.weight, Queue.addFrame, Queue.weight]
      omega
  | later seconds callback =>
      simp only [perform, Progress.next.injEq] at taken
      subst taken
      simp only [weight, Step.weight, Queue.addTimer, Queue.weight, insertTimer_weight]
      omega
  | film left effect =>
      simp only [perform, Progress.next.injEq] at taken
      subst taken
      have lighter := showing_weight effect left
      simp only [weight, total_cons, Activity.weight]
      omega
  | tick now =>
      simp only [perform, Progress.next.injEq] at taken
      subst taken
      have lighter := tick_weight queue.frames
      simp [weight, Step.weight, Queue.advance, Queue.weight, Activity.weight]
      omega
  | drain =>
      simp only [perform, Progress.next.injEq] at taken
      subst taken
      simp [weight, Step.weight, Activity.weight]
      omega
  | cancel =>
      simp only [perform, Progress.next.injEq] at taken
      subst taken
      simp [weight, Step.weight, Queue.cancel, Queue.weight]

/-- So does a pump. -/
theorem pump_weight_lt {queue : Queue ε} {world : ω} {stack : List (Activity ε)}
    {after : Engine ε ω} (taken : (pump queue world stack : Progress ε ω φ) = .next after) :
    after.weight < queue.weight + 1 + total Activity.weight stack := by
  unfold pump at taken
  split at taken
  · cases taken
    simp [weight]
  · split at taken
    · cases taken
      simp [weight]
    · rename_i tasks
      cases taken
      simp [weight, Queue.weight, Activity.weight, tasks]
      omega

/-- So does a timer that goes off. -/
theorem fire_weight_lt {queue : Queue ε} {world : ω} {stack : List (Activity ε)}
    {after : Engine ε ω} (taken : (fire queue world stack : Progress ε ω φ) = .next after) :
    after.weight < queue.weight + 1 + total Activity.weight stack := by
  unfold fire at taken
  split at taken
  · cases taken
    simp [weight]
  · rename_i timers
    split at taken
    · cases taken
      simp [weight, Queue.weight, Activity.weight, timers]
      omega
    · cases taken
      simp [weight]

/-- And so does a drain, which hands its work to a tick. -/
theorem drain_weight_lt {queue : Queue ε} {world : ω} {stack : List (Activity ε)}
    {after : Engine ε ω} (taken : (drain queue world stack : Progress ε ω φ) = .next after) :
    after.weight < queue.weight + 1 + total Activity.weight stack := by
  unfold drain at taken
  split at taken
  · cases taken
    simp [weight]
  · split at taken
    · rename_i frame frames waiting
      cases taken
      have lighter := tick_weight frames
      simp [weight, Queue.weight, Queue.advance, Activity.weight, waiting]
      omega
    · rename_i timer timers _ waiting
      simp only at taken
      split at taken
      · cases taken
        simp [weight, Queue.weight, Queue.advance, Activity.weight, waiting]
        omega
      · cases taken
    · cases taken

/-- A step that leads on leads to a lighter engine. -/
theorem step_weight_lt {apply : ε → ExceptT φ (StateM ω) Unit} {engine after : Engine ε ω}
    (taken : step apply engine = .next after) : after.weight < engine.weight := by
  unfold step at taken
  split at taken
  · cases taken
  · cases taken
    simp [weight, Activity.weight, scriptWeight]
  · have lighter := perform_weight_lt taken
    simp [weight, Activity.weight, scriptWeight] at lighter ⊢
    omega
  · have lighter := pump_weight_lt taken
    simp [weight, Activity.weight] at lighter ⊢
    omega
  · cases taken
    simp [weight, Activity.weight]
    omega
  · have lighter := fire_weight_lt taken
    simp [weight, Activity.weight] at lighter ⊢
    omega
  · have lighter := drain_weight_lt taken
    simp [weight, Activity.weight] at lighter ⊢
    omega

/-- Run an engine to its end. -/
def run (apply : ε → ExceptT φ (StateM ω) Unit) (engine : Engine ε ω) :
    Except (Trouble φ) Unit × Queue ε × ω :=
  match _taken : step apply engine with
  | .next after => run apply after
  | .done queue world => (.ok (), queue, world)
  | .failed trouble queue world => (.error trouble, queue, world)
termination_by engine.weight
decreasing_by exact step_weight_lt _taken

end Engine

/-- Take a step from outside, with no script running, and see it through. -/
def Queue.perform (apply : ε → ExceptT φ (StateM ω) Unit) (step : Step ε)
    (queue : Queue ε) (world : ω) : Except (Trouble φ) Unit × Queue ε × ω :=
  Engine.run apply ⟨queue, world, [.script [step]]⟩

end Logo.Animation
