import Logo.Animation.Script

/-!
# The animation queue

Tasks run strictly one at a time, in the order in which they were submitted.
The queue keeps the tasks that wait, whether one is in flight, what is to be
done at the next frame, and what at which time.  Its clock never goes back.
-/

namespace Logo.Animation

/-- A script to run when the clock reaches a time. -/
structure Timer (ε : Type) where
  due : Float
  script : Script ε

/-- The state of an animation queue between calls. -/
structure Queue (ε : Type) where
  now : Float
  tasks : List (Script ε)
  busy : Bool
  frames : List (Script ε)
  timers : List (Timer ε)

namespace Queue

variable {ε : Type}

/-- The queue with nothing to do. -/
def empty : Queue ε := ⟨0, [], false, [], []⟩

/-- Whether nothing is in flight or waiting. -/
def isIdle (queue : Queue ε) : Bool :=
  !queue.busy && queue.tasks.isEmpty

/-- How many tasks are in flight or waiting. -/
def size (queue : Queue ε) : Nat :=
  queue.tasks.length + if queue.busy then 1 else 0

/-- Let a task wait behind the others. -/
def enqueue (queue : Queue ε) (task : Script ε) : Queue ε :=
  { queue with tasks := queue.tasks ++ [task] }

/-- Let a script wait for the next frame. -/
def addFrame (queue : Queue ε) (callback : Script ε) : Queue ε :=
  { queue with frames := queue.frames ++ [callback] }

/-- Put a timer in front of all that are due later. -/
def insertTimer (timer : Timer ε) : List (Timer ε) → List (Timer ε)
  | [] => [timer]
  | other :: rest =>
      if timer.due < other.due then
        timer :: other :: rest
      else
        other :: insertTimer timer rest

/-- Let a script wait for some time. -/
def addTimer (queue : Queue ε) (seconds : Float) (callback : Script ε) : Queue ε :=
  { queue with timers := insertTimer ⟨queue.now + seconds, callback⟩ queue.timers }

/-- Set the clock forward; a time that is not later changes nothing. -/
def advance (queue : Queue ε) (now : Float) : Queue ε :=
  { queue with now := if queue.now < now then now else queue.now }

/-- Drop everything that waits or is in flight. -/
def cancel (queue : Queue ε) : Queue ε :=
  { queue with tasks := [], busy := false, frames := [], timers := [] }

/-- How long a frame takes. -/
def frameTime : Float := 1 / 60

/-- What the scripts in the queue weigh. -/
def weight (queue : Queue ε) : Nat :=
  total (fun task => scriptWeight task + 1) queue.tasks +
    total (fun frame => scriptWeight frame + 3) queue.frames +
    total (fun timer => scriptWeight timer.script + 2) queue.timers

end Queue

end Logo.Animation
