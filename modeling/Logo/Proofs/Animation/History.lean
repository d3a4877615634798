import Logo.Proofs.Animation.Serial

/-!
# Histories of a queue

The history of a queue is what can be noticed of it from the start: which
tasks were submitted, started and finished, and which effects were had.  It
grows with every step of an engine, and a queue between two calls is an engine
with nothing on its stack.  So what is true of every moment of every history
is proved step by step, with one case for each kind of step.
-/

namespace Logo.Animation

variable {ε ω φ : Type}

/-- Something that is noticed of a queue. -/
inductive Event (ε : Type) where
  | submitted (task : Script ε)
  | started (task : Script ε)
  | finished
  | had (effect : ε)

namespace Event

@[simp]
def submitted? : Event ε → Option (Script ε)
  | .submitted task => some task
  | .started _ | .finished | .had _ => none

@[simp]
def started? : Event ε → Option (Script ε)
  | .started task => some task
  | .submitted _ | .finished | .had _ => none

@[simp]
def isFinished : Event ε → Bool
  | .finished => true
  | .submitted _ | .started _ | .had _ => false

@[simp]
def had? : Event ε → Option ε
  | .had effect => some effect
  | .submitted _ | .started _ | .finished => none

end Event

/-- The tasks that were submitted, in order. -/
def submittedIn (events : List (Event ε)) : List (Script ε) :=
  events.filterMap Event.submitted?

/-- The tasks that were started, in order. -/
def startedIn (events : List (Event ε)) : List (Script ε) :=
  events.filterMap Event.started?

/-- How many tasks were finished. -/
def finishedIn (events : List (Event ε)) : Nat :=
  events.countP Event.isFinished

/-- The effects that were had, in order. -/
def effectsIn (events : List (Event ε)) : List ε :=
  events.filterMap Event.had?

@[simp]
theorem submittedIn_append (events more : List (Event ε)) :
    submittedIn (events ++ more) = submittedIn events ++ submittedIn more :=
  List.filterMap_append

@[simp]
theorem startedIn_append (events more : List (Event ε)) :
    startedIn (events ++ more) = startedIn events ++ startedIn more :=
  List.filterMap_append

@[simp]
theorem finishedIn_append (events more : List (Event ε)) :
    finishedIn (events ++ more) = finishedIn events + finishedIn more :=
  List.countP_append

@[simp]
theorem effectsIn_append (events more : List (Event ε)) :
    effectsIn (events ++ more) = effectsIn events ++ effectsIn more :=
  List.filterMap_append

/-! ## Steps and what is noticed of them -/

namespace Engine

/-- What will be noticed of the next step. -/
def notice : Engine ε ω → List (Event ε)
  | ⟨_, _, .script (.effect effect :: _) :: _⟩ => [.had effect]
  | ⟨_, _, .script (.submit task :: _) :: _⟩ => [.submitted task]
  | ⟨_, _, .script (.finish :: _) :: _⟩ => [.finished]
  | ⟨queue, _, .pump :: _⟩ =>
      if queue.busy then [] else (queue.tasks.take 1).map .started
  | _ => []

/-- Everything that a step which leads on can do, with what is noticed of it. -/
inductive Transition (apply : ε → ExceptT φ (StateM ω) Unit) :
    Engine ε ω → List (Event ε) → Engine ε ω → Prop where
  | leave {queue : Queue ε} {world : ω} {stack : List (Activity ε)} :
      Transition apply ⟨queue, world, .script [] :: stack⟩ [] ⟨queue, world, stack⟩
  | effect {queue : Queue ε} {world after : ω} {stack : List (Activity ε)} {effect : ε}
      {rest : Script ε} (had : (apply effect).run world = (.ok (), after)) :
      Transition apply ⟨queue, world, .script (.effect effect :: rest) :: stack⟩ [.had effect]
        ⟨queue, after, .script rest :: stack⟩
  | submit {queue : Queue ε} {world : ω} {stack : List (Activity ε)} {task rest : Script ε} :
      Transition apply ⟨queue, world, .script (.submit task :: rest) :: stack⟩ [.submitted task]
        ⟨queue.enqueue task, world, withPump (.script rest :: stack)⟩
  | finish {queue : Queue ε} {world : ω} {stack : List (Activity ε)} {rest : Script ε} :
      Transition apply ⟨queue, world, .script (.finish :: rest) :: stack⟩ [.finished]
        ⟨{ queue with busy := false }, world, withPump (.script rest :: stack)⟩
  | nextFrame {queue : Queue ε} {world : ω} {stack : List (Activity ε)}
      {callback rest : Script ε} :
      Transition apply ⟨queue, world, .script (.nextFrame callback :: rest) :: stack⟩ []
        ⟨queue.addFrame callback, world, .script rest :: stack⟩
  | later {queue : Queue ε} {world : ω} {stack : List (Activity ε)} {seconds : Float}
      {callback rest : Script ε} :
      Transition apply ⟨queue, world, .script (.later seconds callback :: rest) :: stack⟩ []
        ⟨queue.addTimer seconds callback, world, .script rest :: stack⟩
  | film {queue : Queue ε} {world : ω} {stack : List (Activity ε)} {left : Nat}
      {effect : Nat → ε} {rest : Script ε} :
      Transition apply ⟨queue, world, .script (.film left effect :: rest) :: stack⟩ []
        ⟨queue, world, .script (showing effect left) :: .script rest :: stack⟩
  | tick {queue : Queue ε} {world : ω} {stack : List (Activity ε)} {now : Float}
      {rest : Script ε} :
      Transition apply ⟨queue, world, .script (.tick now :: rest) :: stack⟩ []
        ⟨{ queue.advance now with frames := [] }, world,
          .tick queue.frames :: .script rest :: stack⟩
  | drain {queue : Queue ε} {world : ω} {stack : List (Activity ε)} {rest : Script ε} :
      Transition apply ⟨queue, world, .script (.drain :: rest) :: stack⟩ []
        ⟨queue, world, .drain :: .script rest :: stack⟩
  | cancel {queue : Queue ε} {world : ω} {stack : List (Activity ε)} {rest : Script ε} :
      Transition apply ⟨queue, world, .script (.cancel :: rest) :: stack⟩ []
        ⟨queue.cancel, world, .script rest :: stack⟩
  | pumped {queue : Queue ε} {world : ω} {stack : List (Activity ε)}
      (nothing : queue.busy = true ∨ queue.tasks = []) :
      Transition apply ⟨queue, world, .pump :: stack⟩ [] ⟨queue, world, stack⟩
  | start {queue : Queue ε} {world : ω} {stack : List (Activity ε)} {task : Script ε}
      {tasks : List (Script ε)} (free : queue.busy = false)
      (waiting : queue.tasks = task :: tasks) :
      Transition apply ⟨queue, world, .pump :: stack⟩ [.started task]
        ⟨{ queue with tasks, busy := true }, world, .script task :: .pump :: stack⟩
  | frame {queue : Queue ε} {world : ω} {stack : List (Activity ε)} {frame : Script ε}
      {frames : List (Script ε)} :
      Transition apply ⟨queue, world, .tick (frame :: frames) :: stack⟩ []
        ⟨queue, world, .script frame :: .tick frames :: stack⟩
  | ticked {queue : Queue ε} {world : ω} {stack : List (Activity ε)}
      (nothing : ∀ timer ∈ queue.timers.head?, ¬ timer.due ≤ queue.now) :
      Transition apply ⟨queue, world, .tick [] :: stack⟩ [] ⟨queue, world, stack⟩
  | fire {queue : Queue ε} {world : ω} {stack : List (Activity ε)} {timer : Timer ε}
      {timers : List (Timer ε)} (first : queue.timers = timer :: timers)
      (due : timer.due ≤ queue.now) :
      Transition apply ⟨queue, world, .tick [] :: stack⟩ []
        ⟨{ queue with timers }, world, .script timer.script :: .tick [] :: stack⟩
  | drained {queue : Queue ε} {world : ω} {stack : List (Activity ε)}
      (idle : queue.isIdle = true) :
      Transition apply ⟨queue, world, .drain :: stack⟩ [] ⟨queue, world, stack⟩
  | drainFrames {queue : Queue ε} {world : ω} {stack : List (Activity ε)}
      (working : queue.isIdle = false) (waiting : queue.frames ≠ []) :
      Transition apply ⟨queue, world, .drain :: stack⟩ []
        ⟨{ queue.advance (queue.now + Queue.frameTime) with frames := [] }, world,
          .tick queue.frames :: .drain :: stack⟩
  | drainTimer {queue : Queue ε} {world : ω} {stack : List (Activity ε)} {timer : Timer ε}
      {timers : List (Timer ε)} (working : queue.isIdle = false) (none : queue.frames = [])
      (first : queue.timers = timer :: timers)
      (due : timer.due ≤ (queue.advance timer.due).now) :
      Transition apply ⟨queue, world, .drain :: stack⟩ []
        ⟨{ queue.advance timer.due with timers }, world,
          .script timer.script :: .tick [] :: .drain :: stack⟩

variable {apply : ε → ExceptT φ (StateM ω) Unit} {queue : Queue ε} {world : ω}
  {stack : List (Activity ε)} {after : Engine ε ω}

/-- A step of a script is one of the transitions, with the events that it gives notice of. -/
theorem transition_of_perform {action : Step ε} {rest : Script ε}
    (taken : perform apply action queue world (.script rest :: stack) = .next after) :
    Transition apply ⟨queue, world, .script (action :: rest) :: stack⟩
      (notice ⟨queue, world, .script (action :: rest) :: stack⟩ : List (Event ε)) after := by
  cases action with
  | effect effect =>
      simp only [perform] at taken
      split at taken
      · rename_i had
        cases taken
        exact .effect had
      · cases taken
  | submit task =>
      cases taken
      exact .submit
  | finish =>
      cases taken
      exact .finish
  | nextFrame callback =>
      cases taken
      exact .nextFrame
  | later seconds callback =>
      cases taken
      exact .later
  | film left effect =>
      cases taken
      exact .film
  | tick now =>
      cases taken
      exact .tick
  | drain =>
      cases taken
      exact .drain
  | cancel =>
      cases taken
      exact .cancel

/-- So is a pump. -/
theorem transition_of_pump (taken : (pump queue world stack : Progress ε ω φ) = .next after) :
    Transition apply ⟨queue, world, .pump :: stack⟩
      (notice ⟨queue, world, .pump :: stack⟩ : List (Event ε)) after := by
  simp only [pump] at taken
  split at taken
  · rename_i busy
    cases taken
    simp only [notice, busy, if_true]
    exact .pumped (Or.inl busy)
  · rename_i free
    simp only [notice, free, Bool.false_eq_true, if_false]
    split at taken
    · rename_i none
      cases taken
      rw [none]
      exact .pumped (Or.inr none)
    · rename_i task tasks waiting
      cases taken
      rw [waiting]
      exact .start (by simpa using free) waiting

/-- So is the next timer of a tick. -/
theorem transition_of_fire (taken : (fire queue world stack : Progress ε ω φ) = .next after) :
    Transition apply ⟨queue, world, .tick [] :: stack⟩ [] after := by
  simp only [fire] at taken
  split at taken
  · rename_i none
    cases taken
    exact .ticked (by simp [none])
  · rename_i timer timers first
    split at taken
    · rename_i due
      cases taken
      exact .fire first due
    · rename_i early
      cases taken
      exact .ticked (by simpa [first] using early)

/-- So is a drain. -/
theorem transition_of_drain (taken : (drain queue world stack : Progress ε ω φ) = .next after) :
    Transition apply ⟨queue, world, .drain :: stack⟩ [] after := by
  simp only [drain] at taken
  split at taken
  · rename_i idle
    cases taken
    exact .drained idle
  · rename_i working
    have working : queue.isIdle = false := by simpa using working
    split at taken
    · rename_i frame frames waiting
      cases taken
      rw [← waiting]
      exact .drainFrames working (by simp [waiting])
    · rename_i timer timers none first
      split at taken
      · rename_i due
        cases taken
        exact .drainTimer working none first due
      · cases taken
    · cases taken

/-- A step that leads on is one of the transitions. -/
theorem transition_of_step {engine : Engine ε ω} (taken : step apply engine = .next after) :
    Transition apply engine engine.notice after := by
  obtain ⟨queue, world, stack⟩ := engine
  match stack with
  | [] => cases taken
  | .script [] :: stack =>
      cases taken
      exact .leave
  | .script (action :: rest) :: stack => exact transition_of_perform taken
  | .pump :: stack => exact transition_of_pump taken
  | .tick (frame :: frames) :: stack =>
      cases taken
      exact .frame
  | .tick [] :: stack => exact transition_of_fire taken
  | .drain :: stack => exact transition_of_drain taken

/-- An effect that goes well is one step. -/
theorem step_effect {effect : ε} {rest : Script ε}
    (fine : ((apply effect).run world).1.toBool = true) :
    step apply ⟨queue, world, .script (.effect effect :: rest) :: stack⟩ =
      .next ⟨queue, ((apply effect).run world).2, .script rest :: stack⟩ := by
  simp only [step, perform]
  split
  · rename_i had
    rw [had]
  · rename_i had
    rw [had] at fine
    cases fine

end Engine

/-! ## Moments of a history -/

/--
The moments that a queue and its world can come to, each with its history.
From outside, the queue is called by scripts of a given kind, one after the
other.  A failure ends the call that it happens in; what is drawn stays drawn,
and the next call finds the queue as the failure left it.  Only failures of a
given kind are reckoned with.
-/
inductive Reached (apply : ε → ExceptT φ (StateM ω) Unit) (calls : Script ε → Prop)
    (survives : Trouble φ → Prop) (queue : Queue ε) (world : ω) :
    List (Event ε) → Engine ε ω → Prop where
  | start : Reached apply calls survives queue world [] ⟨queue, world, []⟩
  | call {events : List (Event ε)} {current : Queue ε} {shown : ω} {script : Script ε}
      (reached : Reached apply calls survives queue world events ⟨current, shown, []⟩)
      (allowed : calls script) :
      Reached apply calls survives queue world events ⟨current, shown, [.script script]⟩
  | next {events : List (Event ε)} {engine after : Engine ε ω}
      (reached : Reached apply calls survives queue world events engine)
      (taken : engine.step apply = .next after) :
      Reached apply calls survives queue world (events ++ engine.notice) after
  | failed {events : List (Event ε)} {engine : Engine ε ω} {trouble : Trouble φ}
      {current : Queue ε} {shown : ω}
      (reached : Reached apply calls survives queue world events engine)
      (taken : engine.step apply = .failed trouble current shown)
      (survived : survives trouble) :
      Reached apply calls survives queue world (events ++ engine.notice) ⟨current, shown, []⟩

/-- What a run from a moment ends in is a moment again, if every failure is reckoned with. -/
theorem Reached.run {apply : ε → ExceptT φ (StateM ω) Unit} {calls : Script ε → Prop}
    {queue : Queue ε} {world : ω} {events : List (Event ε)} {engine : Engine ε ω}
    (reached : Reached apply calls (fun _ => True) queue world events engine) :
    ∃ more, Reached apply calls (fun _ => True) queue world (events ++ more)
      ⟨(engine.run apply).2.1, (engine.run apply).2.2, []⟩ := by
  apply Engine.run_invariant
    (fun engine => ∃ more,
      Reached apply calls (fun _ => True) queue world (events ++ more) engine)
    (fun ending => ∃ more,
      Reached apply calls (fun _ => True) queue world (events ++ more) ⟨ending.2.1, ending.2.2, []⟩)
  · rintro engine after ⟨more, reached⟩ taken
    exact ⟨more ++ engine.notice, by simpa using reached.next taken⟩
  · rintro ⟨before, start, stack⟩ queue world ⟨more, reached⟩ taken
    obtain ⟨rfl, -⟩ := Engine.step_done taken
    cases taken
    exact ⟨more, reached⟩
  · rintro engine trouble queue world ⟨more, reached⟩ taken
    exact ⟨more ++ engine.notice, by simpa using reached.failed taken trivial⟩
  · exact ⟨[], by simpa using reached⟩

/-! ## The world at a moment -/

/-- What effects make of a world, one after the other, whether or not some of them fail. -/
def worldAfter (apply : ε → ExceptT φ (StateM ω) Unit) (effects : List ε) (world : ω) : ω :=
  effects.foldl (fun world effect => ((apply effect).run world).2) world

section World

variable {apply : ε → ExceptT φ (StateM ω) Unit} {engine after : Engine ε ω}

/-- The effects of a transition account for all that it does to the world. -/
theorem Engine.Transition.world {events : List (Event ε)}
    (moved : Transition apply engine events after) :
    after.world = worldAfter apply (effectsIn events) engine.world := by
  cases moved with
  | effect had => simp [worldAfter, effectsIn, had]
  | _ => rfl

/-- A step that fails leaves the queue alone, and the world as the effect that failed left it. -/
theorem Engine.of_failed {trouble : Trouble φ} {queue : Queue ε} {world : ω}
    (taken : step apply engine = .failed trouble queue world) :
    queue = engine.queue ∧ world = worldAfter apply (effectsIn engine.notice) engine.world := by
  have halts := halts_of_step taken (by rintro _ ⟨⟩)
  cases halts with
  | failure failed => exact ⟨rfl, by simp [worldAfter, effectsIn, notice, failed]⟩
  | endless | stranded => exact ⟨rfl, rfl⟩

/-- At every moment, the world is what the effects in the history have made of it. -/
theorem Reached.world_eq {calls : Script ε → Prop} {survives : Trouble φ → Prop}
    {queue : Queue ε} {world : ω} {events : List (Event ε)}
    (reached : Reached apply calls survives queue world events engine) :
    engine.world = worldAfter apply (effectsIn events) world := by
  induction reached with
  | start => rfl
  | call _ _ before => exact before
  | next _ taken before =>
      rw [(Engine.transition_of_step taken).world, before, effectsIn_append]
      exact List.foldl_append.symm
  | failed _ taken _ before =>
      rw [(Engine.of_failed taken).2, before, effectsIn_append]
      exact List.foldl_append.symm

end World

/-- Effects that nobody sees. -/
def unseen (_ : Nat) : ExceptT Empty (StateM Unit) Unit :=
  pure ()

end Logo.Animation
