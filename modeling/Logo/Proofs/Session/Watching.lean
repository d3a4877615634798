import Logo.Proofs.Session.Alike

/-!
# Watching a session

Which top-level commands a session has begun cannot be told from the session
itself: an error or a stop drops the commands that are left.  So a watcher
notes each command as it begins.  A watched session does exactly what it does
unwatched, and both the notes and the output only ever grow.
-/

namespace Logo.Session

/-- A session, and the commands that it has begun so far. -/
structure Watched where
  session : Session
  begun : List Command

/-- Actions on a watched session. -/
abbrev Watching := ExceptT Fault (StateM Watched)

variable {α : Type}

/-- Do something that begins no command. -/
def aside (action : Running α) : Watching α := fun watched =>
  match action.run watched.session with
  | (result, session) => (result, { watched with session })

/-- A watched session and the session itself. -/
def watcher : Accord Fault Watched Session where
  alike watched session := watched.session = session
  excused _ := False

/-- What is done aside agrees with what is done unwatched. -/
theorem aside_agrees (action : Running α) : Agrees watcher Eq (aside action) action := by
  rintro ⟨session, begun⟩ _ rfl
  exact Or.inr ⟨.of_eq _, rfl⟩

theorem watched_get :
    Agrees watcher (fun watched session => watched.session = session) get get := by
  rintro watched _ rfl
  exact Or.inr ⟨.value rfl, rfl⟩

/-- More has been begun and printed. -/
def Watched.Extends (before after : Watched) : Prop :=
  (∃ commands, after.begun = before.begun ++ commands) ∧
    ∃ text, after.session.output = before.session.output ++ text

theorem Watched.Extends.refl (watched : Watched) : watched.Extends watched :=
  ⟨⟨[], (List.append_nil _).symm⟩, "", (String.append_empty).symm⟩

theorem Watched.Extends.trans {before between after : Watched} (first : before.Extends between)
    (second : between.Extends after) : before.Extends after := by
  obtain ⟨⟨commands, begun⟩, text, printed⟩ := first
  obtain ⟨⟨others, begun'⟩, text', printed'⟩ := second
  refine ⟨⟨commands ++ others, ?_⟩, text ++ text', ?_⟩
  · rw [begun', begun, List.append_assoc]
  · rw [printed', printed, String.append_assoc]

variable [Platform]

/-- Take a step, and note the command that it begins. -/
def notedStep : Watching Unit := do
  modify fun watched => { watched with begun := watched.begun ++ watched.session.pending.take 1 }
  aside step

/-- Let time pass, and say whether the next command is to begin. -/
def pace (now : Float) : Running Bool := do
  modify fun session => { session with now }
  animate (.tick now)
  let session ← get
  if session.pending.isEmpty || !session.isStill then
    return false
  let readyAt := session.readyAt.getD (now + session.delay)
  modify fun session => { session with readyAt := some readyAt }
  return readyAt ≤ now

/-- A tick begins a command when its time has come. -/
theorem tick_eq (now : Float) :
    tick now = (pace now >>= fun ready => if ready then step else pure ()) := by
  simp only [tick, pace, bind_assoc]
  refine bind_congr fun _ => bind_congr fun _ => bind_congr fun session => ?_
  split
  · rw [pure_bind]
    rfl
  · simp only [bind_assoc, pure_bind, decide_eq_true_eq]

/-- Ticks at the given times. -/
def ticks : List Float → Running Unit
  | [] => pure ()
  | now :: rest => do
      tick now
      ticks rest

/-- A tick, watched. -/
def watchedTick (now : Float) : Watching Unit := do
  if ← aside (pace now) then
    notedStep

/-- Ticks at the given times, watched. -/
def watchedTicks : List Float → Watching Unit
  | [] => pure ()
  | now :: rest => do
      watchedTick now
      watchedTicks rest

/-- Running the pending commands, watched. -/
def watchedPending : Nat → Watching Unit
  | 0 => pure ()
  | count + 1 => do
      if (← get).session.pending.isEmpty then
        return
      aside (animate .drain)
      notedStep
      watchedPending count

/-- Running everything without pause, watched. -/
def watchedToEnd : Watching Bool := do
  watchedPending (← get).session.pending.length
  aside (animate .drain)
  return (← get).session.error.isNone

/-! ## Watching changes nothing -/

theorem notedStep_agrees : Agrees watcher Eq notedStep step := by
  rintro ⟨session, begun⟩ _ rfl
  exact Or.inr ⟨.of_eq _, rfl⟩

/-- A watched tick does what a tick does. -/
theorem watchedTick_agrees (now : Float) : Agrees watcher Eq (watchedTick now) (tick now) := by
  rw [tick_eq]
  apply (aside_agrees _).andThen
  intro ready
  cases ready with
  | false => exact .value rfl
  | true => exact notedStep_agrees

theorem watchedTicks_agrees (times : List Float) :
    Agrees watcher Eq (watchedTicks times) (ticks times) := by
  induction times with
  | nil => exact .value rfl
  | cons now rest induction => exact (watchedTick_agrees now).andThen fun _ => induction

/-- Watched commands do what commands do. -/
theorem watchedPending_agrees (count : Nat) :
    Agrees watcher Eq (watchedPending count) (runPending count) := by
  induction count with
  | zero => exact .value rfl
  | succ count induction =>
      apply watched_get.sequence
      rintro watched _ rfl
      cases watched.session.pending with
      | nil => exact .value rfl
      | cons command rest =>
          apply (aside_agrees _).andThen
          intro _
          exact notedStep_agrees.andThen fun _ => induction

/-- A session does the same whether it is watched or not. -/
theorem watchedToEnd_agrees : Agrees watcher Eq watchedToEnd runToEnd := by
  apply watched_get.sequence
  rintro watched _ rfl
  apply (watchedPending_agrees _).andThen
  intro _
  apply (aside_agrees _).andThen
  intro _
  exact .look fun _ _ same => congrArg (fun session => session.error.isNone) same

theorem run_watchedTicks {times : List Float} {watched : Watched} {result : Except Fault Unit}
    {after : Session} (ran : (ticks times).run watched.session = (result, after)) :
    (watchedTicks times).run watched =
      (result, ⟨after, ((watchedTicks times).run watched).2.begun⟩) := by
  rcases watchedTicks_agrees times watched watched.session rfl with
    ⟨_, excused, _⟩ | ⟨same, sameAfter⟩
  · exact excused.elim
  · rw [ran] at same sameAfter
    exact Prod.ext same.eq (congrArg (fun session => (⟨session, _⟩ : Watched)) sameAfter)

theorem run_watchedToEnd {watched : Watched} {result : Except Fault Bool} {after : Session}
    (ran : runToEnd.run watched.session = (result, after)) :
    watchedToEnd.run watched = (result, ⟨after, (watchedToEnd.run watched).2.begun⟩) := by
  rcases watchedToEnd_agrees watched watched.session rfl with ⟨_, excused, _⟩ | ⟨same, sameAfter⟩
  · exact excused.elim
  · rw [ran] at same sameAfter
    exact Prod.ext same.eq (congrArg (fun session => (⟨session, _⟩ : Watched)) sameAfter)

/-! ## What running to the end keeps to -/

section Moves

variable {along : Watched → Watched → Prop} (reflexive : ∀ watched, along watched watched)
  (transitive : ∀ {before between after}, along before between → along between after →
    along before after)
  (drains : Effectful.Moves along (aside (animate .drain)))
  (steps : Effectful.Moves along notedStep)

include reflexive transitive drains steps

theorem watchedPending_moves (count : Nat) : Effectful.Moves along (watchedPending count) := by
  induction count with
  | zero => exact .value reflexive ()
  | succ count induction =>
      refine Effectful.Moves.sequence @transitive (.look reflexive) fun watched => ?_
      cases watched.session.pending with
      | nil => exact .value reflexive ()
      | cons command rest =>
          refine drains.sequence @transitive fun _ => ?_
          exact steps.sequence @transitive fun _ => induction

/-- What draining the queue and taking a step keep to, running to the end keeps to. -/
theorem watchedToEnd_moves : Effectful.Moves along watchedToEnd := by
  refine Effectful.Moves.sequence @transitive (.look reflexive) fun watched => ?_
  have pending := watchedPending_moves reflexive @transitive drains steps
    watched.session.pending.length
  refine pending.sequence @transitive fun _ => ?_
  refine drains.sequence @transitive fun _ => ?_
  exact Effectful.Moves.sequence @transitive (.look reflexive) fun _ => .value reflexive _

end Moves

/-! ## The notes and the output only grow -/

/-- A step only adds to the output. -/
theorem step_output (session : Session) :
    ∃ text, (step.run session).2.output = session.output ++ text := by
  cases waiting : session.pending with
  | nil =>
      rw [run_step_nil waiting]
      exact ⟨"", String.append_empty.symm⟩
  | cons command rest =>
      obtain ⟨text, printed⟩ := command.run_output session.state
      have complaint (error : Error) :
          ∃ text, ((session.afterCommand command rest).afterFailure command error).output =
            session.output ++ text :=
        ⟨text ++ ("Error: " ++ error.message ++ "\n"), by
          rw [← String.append_assoc]
          exact congrArg (· ++ ("Error: " ++ error.message ++ "\n")) printed⟩
      rw [run_step waiting]
      split
      · exact ⟨text, printed⟩
      · exact complaint _
      · exact ⟨text, printed⟩
      · exact complaint _
      · exact complaint _
      · exact ⟨text, printed⟩

/-- Animating prints nothing. -/
theorem animate_output (action : Animation.Step Brushwork) (session : Session) :
    ((animate action).run session).2.output = session.output := by
  cases shown : session.scene with
  | none => rw [run_animate_none shown]
  | some scene =>
      rw [run_animate_some shown]
      rfl

theorem aside_animate_extends (action : Animation.Step Brushwork) :
    Effectful.Moves Watched.Extends (aside (animate action)) := by
  intro watched
  refine ⟨⟨[], (List.append_nil _).symm⟩, "", ?_⟩
  rw [String.append_empty]
  exact animate_output action watched.session

theorem notedStep_extends : Effectful.Moves Watched.Extends notedStep := by
  intro watched
  exact ⟨⟨_, rfl⟩, step_output watched.session⟩

/-- Running to the end begins and prints more, behind what was there before. -/
theorem watchedToEnd_extends : Effectful.Moves Watched.Extends watchedToEnd :=
  watchedToEnd_moves .refl .trans (aside_animate_extends .drain) notedStep_extends

end Logo.Session
