import Logo.Animation.Engine
import Logo.Proofs.Effectful

/-!
# Animations are serial

However a queue is driven, its tasks have their effects strictly one after
the other, in the order of submission.  So everything that is still to be
seen is one row of effects, and every step of an engine either has the first
of them or only rearranges the queue.

What makes this work is that at most one task is in flight, and that it is in
exactly one place: running on top of the stack, waiting for the frame or
waiting for its time.  Everything else on the stack is hollow, and the next
task is only started by a pump.
-/

namespace Logo.Animation

variable {ε ω φ : Type}

/-! ## Rows of effects -/

/-- Have effects one after the other, until one fails. -/
def applyAll (apply : ε → ExceptT φ (StateM ω) Unit) : List ε → ExceptT φ (StateM ω) Unit
  | [] => pure ()
  | effect :: rest => do
      apply effect
      applyAll apply rest

/-- A row of effects leads from one world to another. -/
def Leads (apply : ε → ExceptT φ (StateM ω) Unit) (effects : List ε) (before after : ω) : Prop :=
  (applyAll apply effects).run before = (.ok (), after)

namespace Leads

variable {apply : ε → ExceptT φ (StateM ω) Unit} {before between after : ω}

theorem nil (world : ω) : Leads apply [] world world :=
  rfl

/-- The first of several effects leads to where the others begin. -/
theorem cons_iff {effect : ε} {rest : List ε} :
    Leads apply (effect :: rest) before after ↔
      ∃ between, (apply effect).run before = (.ok (), between) ∧
        Leads apply rest between after := by
  unfold Leads
  rw [applyAll, Effectful.run_bind]
  rcases (apply effect).run before with ⟨cause | value, between⟩
  · constructor
    · intro leads
      cases leads
    · rintro ⟨_, had, _⟩
      cases had
  · constructor
    · intro leads
      exact ⟨between, rfl, leads⟩
    · rintro ⟨_, had, leads⟩
      cases had
      exact leads

/-- Effects in two parts lead from one world to another by way of a third. -/
theorem append_iff {first second : List ε} :
    Leads apply (first ++ second) before after ↔
      ∃ between, Leads apply first before between ∧ Leads apply second between after := by
  induction first generalizing before with
  | nil =>
      constructor
      · intro leads
        exact ⟨before, nil before, leads⟩
      · rintro ⟨between, stays, leads⟩
        cases stays
        exact leads
  | cons effect rest induction =>
      simp only [List.cons_append, cons_iff, induction]
      constructor
      · rintro ⟨world, had, between, first, second⟩
        exact ⟨between, ⟨world, had, first⟩, second⟩
      · rintro ⟨between, ⟨world, had, first⟩, second⟩
        exact ⟨world, had, between, first, second⟩

/-- Effects lead to one world only. -/
theorem unique {effects : List ε} {other : ω} (leads : Leads apply effects before after)
    (leads' : Leads apply effects before other) : after = other := by
  unfold Leads at leads leads'
  rw [leads] at leads'
  cases leads'
  rfl

theorem snoc {effects : List ε} {effect : ε} (leads : Leads apply effects before between)
    (had : (apply effect).run between = (.ok (), after)) :
    Leads apply (effects ++ [effect]) before after :=
  append_iff.mpr ⟨between, leads, cons_iff.mpr ⟨after, had, nil after⟩⟩

end Leads

/-- The pictures of a film with so many left after the first. -/
def reel (effect : Nat → ε) : Nat → List ε
  | 0 => [effect 0]
  | left + 1 => effect (left + 1) :: reel effect left

/-- A script that has given effects in turn and then finishes its task. -/
inductive Plays : Script ε → List ε → Prop where
  | finish : Plays [.finish] []
  | effect {effect : ε} {rest : Script ε} {effects : List ε} (plays : Plays rest effects) :
      Plays (.effect effect :: rest) (effect :: effects)
  | nextFrame {callback : Script ε} {effects : List ε} (plays : Plays callback effects) :
      Plays [.nextFrame callback] effects
  | later {seconds : Float} {callback : Script ε} {effects : List ε}
      (plays : Plays callback effects) : Plays [.later seconds callback] effects
  | film {left : Nat} {effect : Nat → ε} : Plays [.film left effect] (reel effect left)

/-- What shows the frames of a film has the effects of its reel. -/
theorem showing_plays (effect : Nat → ε) (left : Nat) :
    Plays (showing effect left) (reel effect left) := by
  cases left with
  | zero => exact .effect .finish
  | succ left => exact .effect (.nextFrame .film)

/-- Tasks in a row, with all their effects in a row. -/
inductive Waits : List (Script ε) → List ε → Prop where
  | none : Waits [] []
  | more {task : Script ε} {tasks : List (Script ε)} {first rest : List ε}
      (plays : Plays task first) (waits : Waits tasks rest) : Waits (task :: tasks) (first ++ rest)

/-- A task behind all others plays last. -/
theorem Waits.snoc {tasks : List (Script ε)} {task : Script ε} {effects last : List ε}
    (waits : Waits tasks effects) (plays : Plays task last) :
    Waits (tasks ++ [task]) (effects ++ last) := by
  induction waits with
  | none =>
      have one := Waits.more plays .none
      rwa [List.append_nil] at one
  | more first _ induction =>
      rw [List.append_assoc]
      exact .more first induction

/-! ## Where the task in flight is -/

/-- Nothing left to do but to return. -/
def Activity.IsHollow : Activity ε → Prop
  | .script rest => rest = []
  | .pump => True
  | .tick frames => frames = []
  | .drain => True

/-- A stack on which nothing is left to do but to return. -/
def Hollow (stack : List (Activity ε)) : Prop :=
  ∀ activity ∈ stack, activity.IsHollow

/-- No pump is below a tick or a drain. -/
def Nested : List (Activity ε) → Prop
  | [] => True
  | .script _ :: rest => Nested rest
  | .pump :: rest => Nested rest
  | .tick _ :: rest => rest.any Activity.isPump = false
  | .drain :: rest => rest.any Activity.isPump = false

/-- A pump gets its turn before any tick or drain does. -/
def Pumped : List (Activity ε) → Prop
  | .script _ :: rest => Pumped rest
  | .pump :: _ => True
  | _ => False

/-- Where the task in flight is, and which effects it still has. -/
inductive Phase : Queue ε → List (Activity ε) → List ε → Prop where
  | rest {now : Float} {tasks : List (Script ε)} {stack : List (Activity ε)}
      (hollow : Hollow stack) : Phase ⟨now, tasks, false, [], []⟩ stack []
  | acting {now : Float} {tasks : List (Script ε)} {script : Script ε}
      {stack : List (Activity ε)} {current : List ε} (plays : Plays script current)
      (hollow : Hollow stack) :
      Phase ⟨now, tasks, true, [], []⟩ (.script script :: stack) current
  | due {now : Float} {tasks : List (Script ε)} {frame : Script ε}
      {stack : List (Activity ε)} {current : List ε} (plays : Plays frame current)
      (hollow : Hollow stack) :
      Phase ⟨now, tasks, true, [], []⟩ (.tick [frame] :: stack) current
  | framed {now : Float} {tasks : List (Script ε)} {frame : Script ε}
      {stack : List (Activity ε)} {current : List ε} (plays : Plays frame current)
      (hollow : Hollow stack) : Phase ⟨now, tasks, true, [frame], []⟩ stack current
  | timed {now : Float} {tasks : List (Script ε)} {timer : Timer ε}
      {stack : List (Activity ε)} {current : List ε} (plays : Plays timer.script current)
      (hollow : Hollow stack) : Phase ⟨now, tasks, true, [], [timer]⟩ stack current

/-- A queue at work, with everything that is still to be seen of it in a row. -/
structure Orderly (queue : Queue ε) (stack : List (Activity ε)) (pending : List ε) : Prop where
  nested : Nested stack
  fed : queue.busy = false → queue.tasks = [] ∨ Pumped stack
  phase : ∃ current waiting, Phase queue stack current ∧ Waits queue.tasks waiting ∧
    pending = current ++ waiting

/-- A queue between calls, with everything that is still to be seen of it in a row. -/
abbrev Queue.Settled (queue : Queue ε) (pending : List ε) : Prop :=
  Orderly queue [] pending

/-- Whether a timer will not come due even when the clock is set to its time. -/
def Queue.isStuck (queue : Queue ε) : Bool :=
  queue.timers.any fun timer => !(timer.due ≤ (queue.advance timer.due).now)

/-! ## Stacks -/

theorem nested_of_no_pump {stack : List (Activity ε)}
    (noPump : stack.any Activity.isPump = false) : Nested stack := by
  induction stack with
  | nil => trivial
  | cons activity rest induction =>
      rw [List.any_cons, Bool.or_eq_false_iff] at noPump
      cases activity with
      | script _ => exact induction noPump.2
      | pump => cases noPump.1
      | tick _ => exact noPump.2
      | drain => exact noPump.2

theorem Nested.tail {activity : Activity ε} {rest : List (Activity ε)}
    (nested : Nested (activity :: rest)) : Nested rest := by
  cases activity with
  | script _ => exact nested
  | pump => exact nested
  | tick _ => exact nested_of_no_pump nested
  | drain => exact nested_of_no_pump nested

/-- If there is a pump on a nested stack, it gets its turn before any tick or drain does. -/
theorem Nested.pumped {stack : List (Activity ε)} (nested : Nested stack)
    (pump : stack.any Activity.isPump = true) : Pumped stack := by
  induction stack with
  | nil => cases pump
  | cons activity rest induction =>
      rw [List.any_cons, Bool.or_eq_true] at pump
      cases activity with
      | script _ => exact induction nested (pump.resolve_left (by simp [Activity.isPump]))
      | pump => trivial
      | tick _ =>
          have below := pump.resolve_left (by simp [Activity.isPump])
          exact absurd (nested.symm.trans below) (by decide)
      | drain =>
          have below := pump.resolve_left (by simp [Activity.isPump])
          exact absurd (nested.symm.trans below) (by decide)

theorem Nested.withPump {stack : List (Activity ε)} (nested : Nested stack) :
    Nested (withPump stack) := by
  unfold Animation.withPump
  split
  · exact nested
  · exact nested

theorem Nested.pumped_withPump {stack : List (Activity ε)} (nested : Nested stack) :
    Pumped (Animation.withPump stack) := by
  unfold Animation.withPump
  split
  · exact nested.pumped ‹_›
  · trivial

/-- A pump on top leaves a stack hollow. -/
theorem Hollow.withPump {stack : List (Activity ε)} (hollow : Hollow stack) :
    Hollow (withPump stack) := by
  unfold Animation.withPump
  split
  · exact hollow
  · exact List.forall_mem_cons.mpr ⟨trivial, hollow⟩

theorem hollow_cons {activity : Activity ε} {rest : List (Activity ε)} :
    Hollow (activity :: rest) ↔ activity.IsHollow ∧ Hollow rest :=
  List.forall_mem_cons

/-! ## One step -/

/--
What a step of an orderly engine can do: rearrange, have the first of the
effects, come to the end of its stack, fail in the first of the effects, or
find that no time will ever be late enough.
-/
inductive Outcome (apply : ε → ExceptT φ (StateM ω) Unit) (world : ω) (pending : List ε) :
    Progress ε ω φ → Prop where
  | quiet {queue : Queue ε} {stack : List (Activity ε)} (orderly : Orderly queue stack pending) :
      Outcome apply world pending (.next ⟨queue, world, stack⟩)
  | shown {effect : ε} {rest : List ε} {after : ω} {queue : Queue ε} {stack : List (Activity ε)}
      (first : pending = effect :: rest) (had : (apply effect).run world = (.ok (), after))
      (orderly : Orderly queue stack rest) :
      Outcome apply world pending (.next ⟨queue, after, stack⟩)
  | done {queue : Queue ε} (settled : queue.Settled pending) :
      Outcome apply world pending (.done queue world)
  | failed {effect : ε} {rest : List ε} {cause : φ} {after : ω} {queue : Queue ε}
      (first : pending = effect :: rest)
      (had : (apply effect).run world = (.error cause, after)) :
      Outcome apply world pending (.failed (.failure cause) queue after)
  | endless {queue : Queue ε} (stuck : queue.isStuck = true) :
      Outcome apply world pending (.failed .endless queue world)

namespace Engine

variable {apply : ε → ExceptT φ (StateM ω) Unit} {world : ω} {now : Float}
  {tasks : List (Script ε)} {stack : List (Activity ε)} {current waiting : List ε}

/-- While a task is in flight, only where it is matters. -/
theorem orderly_of_busy {queue : Queue ε} (busy : queue.busy = true) (nested : Nested stack)
    (phase : Phase queue stack current) (waits : Waits queue.tasks waiting) :
    Orderly queue stack (current ++ waiting) where
  nested := nested
  fed idle := absurd (busy.symm.trans idle) (by decide)
  phase := ⟨current, waiting, phase, waits, rfl⟩

/-- With nothing in flight, a step starts the next task or returns. -/
theorem step_at_rest (nested : Nested stack) (fed : tasks = [] ∨ Pumped stack)
    (hollow : Hollow stack) (waits : Waits tasks waiting) :
    Outcome apply world waiting (step apply ⟨⟨now, tasks, false, [], []⟩, world, stack⟩) := by
  have resting {stack : List (Activity ε)} (nested : Nested stack) (hollow : Hollow stack)
      (fed : tasks = [] ∨ Pumped stack) : Orderly ⟨now, tasks, false, [], []⟩ stack waiting :=
    ⟨nested, fun _ => fed, [], waiting, .rest hollow, waits, rfl⟩
  match stack with
  | [] => exact .done (resting nested hollow fed)
  | .script script :: stack =>
      obtain ⟨rfl, below⟩ := hollow_cons.mp hollow
      exact .quiet (resting nested.tail below fed)
  | .pump :: stack =>
      cases waits with
      | none => exact .quiet (resting nested.tail (hollow_cons.mp hollow).2 (Or.inl rfl))
      | more plays waits =>
          exact .quiet (orderly_of_busy rfl nested (.acting plays hollow) waits)
  | .tick frames :: stack =>
      obtain ⟨rfl, below⟩ := hollow_cons.mp hollow
      have none := fed.resolve_right id
      exact .quiet (resting nested.tail below (Or.inl none))
  | .drain :: stack =>
      have none := fed.resolve_right id
      subst none
      exact .quiet (resting nested.tail (hollow_cons.mp hollow).2 (Or.inl rfl))

/-- A script in flight has its next effect, or goes on without one. -/
theorem step_acting {script : Script ε} (nested : Nested (.script script :: stack))
    (hollow : Hollow stack) (plays : Plays script current) (waits : Waits tasks waiting) :
    Outcome apply world (current ++ waiting)
      (step apply ⟨⟨now, tasks, true, [], []⟩, world, .script script :: stack⟩) := by
  have returning : Hollow (.script [] :: stack) := hollow_cons.mpr ⟨rfl, hollow⟩
  cases plays with
  | finish =>
      have nested : Nested (.script [] :: stack) := nested
      exact .quiet
        ⟨nested.withPump, fun _ => Or.inr nested.pumped_withPump, [], waiting,
          .rest returning.withPump, waits, rfl⟩
  | @effect effect rest effects plays =>
      rcases had : (apply effect).run world with ⟨cause | value, after⟩
      · have failing :
            step apply ⟨⟨now, tasks, true, [], []⟩, world,
                .script (.effect effect :: rest) :: stack⟩ =
              .failed (.failure cause) ⟨now, tasks, true, [], []⟩ after := by
          simp only [step, perform, had]
        rw [failing]
        exact .failed rfl had
      · have going :
            step apply ⟨⟨now, tasks, true, [], []⟩, world,
                .script (.effect effect :: rest) :: stack⟩ =
              .next ⟨⟨now, tasks, true, [], []⟩, after, .script rest :: stack⟩ := by
          simp only [step, perform, had]
        rw [going]
        exact .shown rfl had (orderly_of_busy rfl nested (.acting plays hollow) waits)
  | nextFrame plays => exact .quiet (orderly_of_busy rfl nested (.framed plays returning) waits)
  | later plays => exact .quiet (orderly_of_busy rfl nested (.timed plays returning) waits)
  | film =>
      exact .quiet (orderly_of_busy rfl nested (.acting (showing_plays _ _) returning) waits)

/-- While the task in flight waits, hollow activities return. -/
theorem step_framed {frame : Script ε} (nested : Nested stack) (hollow : Hollow stack)
    (plays : Plays frame current) (waits : Waits tasks waiting) :
    Outcome apply world (current ++ waiting)
      (step apply ⟨⟨now, tasks, true, [frame], []⟩, world, stack⟩) := by
  have framed {stack : List (Activity ε)} (nested : Nested stack) (hollow : Hollow stack) :
      Orderly ⟨now, tasks, true, [frame], []⟩ stack (current ++ waiting) :=
    orderly_of_busy rfl nested (.framed plays hollow) waits
  match stack with
  | [] => exact .done (framed nested hollow)
  | .script script :: stack =>
      obtain ⟨rfl, below⟩ := hollow_cons.mp hollow
      exact .quiet (framed nested.tail below)
  | .pump :: stack => exact .quiet (framed nested.tail (hollow_cons.mp hollow).2)
  | .tick frames :: stack =>
      obtain ⟨rfl, below⟩ := hollow_cons.mp hollow
      exact .quiet (framed nested.tail below)
  | .drain :: stack => exact .quiet (orderly_of_busy rfl nested (.due plays hollow) waits)

/-- A timer in flight goes off when it is due, if it ever is. -/
theorem step_timed {timer : Timer ε} (nested : Nested stack) (hollow : Hollow stack)
    (plays : Plays timer.script current) (waits : Waits tasks waiting) :
    Outcome apply world (current ++ waiting)
      (step apply ⟨⟨now, tasks, true, [], [timer]⟩, world, stack⟩) := by
  have timed {stack : List (Activity ε)} (nested : Nested stack) (hollow : Hollow stack) :
      Orderly ⟨now, tasks, true, [], [timer]⟩ stack (current ++ waiting) :=
    orderly_of_busy rfl nested (.timed plays hollow) waits
  match stack with
  | [] => exact .done (timed nested hollow)
  | .script script :: stack =>
      obtain ⟨rfl, below⟩ := hollow_cons.mp hollow
      exact .quiet (timed nested.tail below)
  | .pump :: stack => exact .quiet (timed nested.tail (hollow_cons.mp hollow).2)
  | .tick frames :: stack =>
      obtain ⟨rfl, below⟩ := hollow_cons.mp hollow
      simp only [step, fire]
      split
      · exact .quiet (orderly_of_busy rfl nested (.acting plays hollow) waits)
      · exact .quiet (timed nested.tail below)
  | .drain :: stack =>
      have busy : (⟨now, tasks, true, [], [timer]⟩ : Queue ε).isIdle = false := rfl
      simp only [step, drain, busy, Bool.false_eq_true, if_false]
      split
      · have ticking : Hollow (.tick [] :: .drain :: stack) := hollow_cons.mpr ⟨rfl, hollow⟩
        exact .quiet (orderly_of_busy rfl nested (.acting plays ticking) waits)
      · rename_i never
        apply Outcome.endless
        simp only [Queue.isStuck, List.any_cons, List.any_nil, Bool.or_false, Bool.not_eq_true',
          decide_eq_false_iff_not]
        exact never

/-- Every step of an orderly engine keeps it so, and has at most the first of its effects. -/
theorem step_outcome {queue : Queue ε} {pending : List ε} (orderly : Orderly queue stack pending) :
    Outcome apply world pending (step apply ⟨queue, world, stack⟩) := by
  obtain ⟨nested, fed, current, waiting, phase, waits, rfl⟩ := orderly
  cases phase with
  | rest hollow => exact step_at_rest nested (fed rfl) hollow waits
  | acting plays hollow => exact step_acting nested hollow plays waits
  | due plays hollow =>
      have ticking : Hollow (.tick [] :: _) := hollow_cons.mpr ⟨rfl, hollow⟩
      exact .quiet (orderly_of_busy rfl nested (.acting plays ticking) waits)
  | framed plays hollow => exact step_framed nested hollow plays waits
  | timed plays hollow => exact step_timed nested hollow plays waits

/-! ## Whole runs -/

/-- What every step keeps up holds at the end of a run. -/
theorem run_invariant (holds : Engine ε ω → Prop)
    (ends : Except (Trouble φ) Unit × Queue ε × ω → Prop)
    (next : ∀ engine after, holds engine → step apply engine = .next after → holds after)
    (done : ∀ engine queue world, holds engine → step apply engine = .done queue world →
      ends (.ok (), queue, world))
    (failed : ∀ engine trouble queue world, holds engine →
      step apply engine = .failed trouble queue world → ends (.error trouble, queue, world))
    (engine : Engine ε ω) (initially : holds engine) : ends (run apply engine) := by
  fun_induction run apply engine with
  | case1 engine after taken induction => exact induction (next engine after initially taken)
  | case2 engine queue world taken => exact done engine queue world initially taken
  | case3 engine trouble queue world taken =>
      exact failed engine trouble queue world initially taken

end Engine

/--
How a run of an orderly engine can end: some of the effects have been had and
the others are still to come, or an effect failed, or the clock stands still.
-/
inductive Ending (apply : ε → ExceptT φ (StateM ω) Unit) (before : ω) (pending : List ε) :
    Except (Trouble φ) Unit × Queue ε × ω → Prop where
  | settled {had rest : List ε} {queue : Queue ε} {after : ω} (split : pending = had ++ rest)
      (leads : Leads apply had before after) (settled : queue.Settled rest) :
      Ending apply before pending (.ok (), queue, after)
  | failed {had rest : List ε} {effect : ε} {cause : φ} {between after : ω} {queue : Queue ε}
      (split : pending = had ++ effect :: rest) (leads : Leads apply had before between)
      (fails : (apply effect).run between = (.error cause, after)) :
      Ending apply before pending (.error (.failure cause), queue, after)
  | endless {queue : Queue ε} {after : ω} (stuck : queue.isStuck = true) :
      Ending apply before pending (.error .endless, queue, after)

namespace Engine

variable {apply : ε → ExceptT φ (StateM ω) Unit} {world : ω} {stack : List (Activity ε)}

/-- An engine that has had the first of the effects. -/
def Ahead (apply : ε → ExceptT φ (StateM ω) Unit) (before : ω) (pending : List ε)
    (engine : Engine ε ω) : Prop :=
  ∃ had rest, pending = had ++ rest ∧ Leads apply had before engine.world ∧
    Orderly engine.queue engine.stack rest

/-- An engine that is ahead of what it was to do stays ahead. -/
theorem Ahead.next {before : ω} {pending : List ε} {engine after : Engine ε ω}
    (ahead : Ahead apply before pending engine) (taken : step apply engine = .next after) :
    Ahead apply before pending after := by
  obtain ⟨had, rest, rfl, leads, orderly⟩ := ahead
  have outcome : Outcome apply engine.world rest (step apply engine) := step_outcome orderly
  rw [taken] at outcome
  cases outcome with
  | quiet orderly => exact ⟨had, rest, rfl, leads, orderly⟩
  | @shown effect others after queue stack first applied orderly =>
      refine ⟨had ++ [effect], others, ?_, leads.snoc applied, orderly⟩
      rw [first, List.append_assoc]
      rfl

/-- A run of an orderly engine has its effects in order. -/
theorem run_ending {queue : Queue ε} {pending : List ε} (orderly : Orderly queue stack pending) :
    Ending apply world pending (run apply ⟨queue, world, stack⟩) := by
  apply run_invariant (Ahead apply world pending)
  · intro engine after ahead taken
    exact ahead.next taken
  · rintro engine queue after ⟨had, rest, split, leads, orderly⟩ taken
    have outcome : Outcome apply engine.world rest (step apply engine) := step_outcome orderly
    rw [taken] at outcome
    cases outcome with
    | done settled => exact .settled split leads settled
  · rintro engine trouble queue after ⟨had, rest, split, leads, orderly⟩ taken
    have outcome : Outcome apply engine.world rest (step apply engine) := step_outcome orderly
    rw [taken] at outcome
    cases outcome with
    | failed first fails => exact .failed (first ▸ split) leads fails
    | endless stuck => exact .endless stuck
  · exact ⟨[], pending, rfl, .nil world, orderly⟩

/-- A run goes on after each step, until one does not lead on. -/
theorem run_eq (engine : Engine ε ω) :
    run apply engine =
      match step apply engine with
      | .next after => run apply after
      | .done queue world => (.ok (), queue, world)
      | .failed trouble queue world => (.error trouble, queue, world) := by
  rw [run]
  split <;> rename_i taken <;> rw [taken]

/-- A run goes on with the next step. -/
theorem run_next {engine after : Engine ε ω} (taken : step apply engine = .next after) :
    run apply engine = run apply after := by
  rw [run_eq, taken]

theorem run_done {engine : Engine ε ω} {queue : Queue ε}
    (taken : step apply engine = .done queue world) :
    run apply engine = (.ok (), queue, world) := by
  rw [run_eq, taken]

theorem run_failed {engine : Engine ε ω} {trouble : Trouble φ} {queue : Queue ε}
    (taken : step apply engine = .failed trouble queue world) :
    run apply engine = (.error trouble, queue, world) := by
  rw [run_eq, taken]

end Engine

/-! ## Coming to the end of a drain -/

namespace Engine

variable {apply : ε → ExceptT φ (StateM ω) Unit} {queue : Queue ε} {world : ω}
  {stack : List (Activity ε)} {after : Engine ε ω}

theorem suffix_withPump (stack : List (Activity ε)) : stack <:+ withPump stack := by
  unfold withPump
  split
  · exact List.suffix_rfl
  · exact List.suffix_cons _ _

/-- What a script does goes on top of the stack. -/
theorem perform_suffix {action : Step ε}
    (taken : (perform apply action queue world stack : Progress ε ω φ) = .next after) :
    stack <:+ after.stack := by
  cases action with
  | effect effect =>
      simp only [perform] at taken
      split at taken
      · cases taken
        exact List.suffix_rfl
      · cases taken
  | submit task =>
      cases taken
      exact suffix_withPump stack
  | finish =>
      cases taken
      exact suffix_withPump stack
  | nextFrame callback | later seconds callback | cancel =>
      cases taken
      exact List.suffix_rfl
  | film left effect | tick now | drain =>
      cases taken
      exact List.suffix_cons _ _

/-- A drain that does not find the queue idle stays on the stack. -/
theorem drain_suffix (busy : queue.isIdle = false)
    (taken : (drain queue world stack : Progress ε ω φ) = .next after) :
    .drain :: stack <:+ after.stack := by
  simp only [drain, busy, Bool.false_eq_true, if_false] at taken
  split at taken
  · cases taken
    exact List.suffix_cons _ _
  · split at taken
    · cases taken
      exact List.suffix_append [_, _] _
    · cases taken
  · cases taken

/-- A step changes the stack only at its top. -/
theorem step_suffix {activity : Activity ε}
    (taken : step apply ⟨queue, world, activity :: stack⟩ = .next after) :
    stack <:+ after.stack := by
  match activity with
  | .script [] =>
      cases taken
      exact List.suffix_rfl
  | .script (action :: rest) => exact (List.suffix_cons _ _).trans (perform_suffix taken)
  | .pump =>
      simp only [step, pump] at taken
      split at taken
      · cases taken
        exact List.suffix_rfl
      · split at taken
        · cases taken
          exact List.suffix_rfl
        · cases taken
          exact List.suffix_append [_, _] stack
  | .tick (frame :: frames) =>
      cases taken
      exact List.suffix_append [_, _] stack
  | .tick [] =>
      simp only [step, fire] at taken
      split at taken
      · cases taken
        exact List.suffix_rfl
      · split at taken
        · cases taken
          exact List.suffix_append [_, _] stack
        · cases taken
          exact List.suffix_rfl
  | .drain =>
      cases idle : queue.isIdle with
      | true =>
          simp only [step, drain, idle, if_true] at taken
          cases taken
          exact List.suffix_rfl
      | false => exact (List.suffix_cons _ _).trans (drain_suffix idle taken)

/-- A drain is under way, or it has ended with nothing left in the queue. -/
def Draining (engine : Engine ε ω) : Prop :=
  [.drain, .script []] <:+ engine.stack ∨
    engine.queue.isIdle = true ∧ engine.stack <:+ [.script []]

/-- A drain stays under way until the queue is idle. -/
theorem Draining.next {engine : Engine ε ω} (draining : Draining engine)
    (taken : step apply engine = .next after) : Draining after := by
  obtain ⟨queue, world, stack⟩ := engine
  rcases draining with ⟨above, split⟩ | ⟨idle, below⟩
  · cases above with
    | nil =>
        cases split
        cases idle : queue.isIdle with
        | true =>
            simp only [step, drain, idle, if_true] at taken
            cases taken
            exact Or.inr ⟨idle, List.suffix_rfl⟩
        | false => exact Or.inl (drain_suffix idle taken)
    | cons activity above =>
        cases split
        exact Or.inl ((List.suffix_append above _).trans (step_suffix taken))
  · rcases List.suffix_cons_iff.mp below with rfl | below
    · cases taken
      exact Or.inr ⟨idle, List.nil_suffix⟩
    · cases List.suffix_nil.mp below
      cases taken

/-- Everything that a step which does not lead on can be. -/
inductive Halts (apply : ε → ExceptT φ (StateM ω) Unit) : Engine ε ω → Progress ε ω φ → Prop where
  | done {queue : Queue ε} {world : ω} : Halts apply ⟨queue, world, []⟩ (.done queue world)
  | failure {queue : Queue ε} {world after : ω} {stack : List (Activity ε)} {effect : ε}
      {rest : Script ε} {cause : φ} (failed : (apply effect).run world = (.error cause, after)) :
      Halts apply ⟨queue, world, .script (.effect effect :: rest) :: stack⟩
        (.failed (.failure cause) queue after)
  | endless {queue : Queue ε} {world : ω} {stack : List (Activity ε)} :
      Halts apply ⟨queue, world, .drain :: stack⟩ (.failed .endless queue world)
  | stranded {queue : Queue ε} {world : ω} {stack : List (Activity ε)} :
      Halts apply ⟨queue, world, .drain :: stack⟩ (.failed .stranded queue world)

/-- Only the end of the stack, an effect that fails and a drain without a prospect halt an
engine. -/
theorem halts_of_step {engine : Engine ε ω} {progress : Progress ε ω φ}
    (taken : step apply engine = progress) (last : ∀ after, progress ≠ .next after) :
    Halts apply engine progress := by
  obtain ⟨queue, world, stack⟩ := engine
  match stack with
  | [] =>
      subst taken
      exact .done
  | .script [] :: stack => exact absurd taken.symm (last _)
  | .script (action :: rest) :: stack =>
      cases action with
      | effect effect =>
          simp only [step, perform] at taken
          split at taken
          · exact absurd taken.symm (last _)
          · rename_i failed
            subst taken
            exact .failure failed
      | _ => exact absurd taken.symm (last _)
  | .pump :: stack =>
      simp only [step, pump] at taken
      split at taken
      · exact absurd taken.symm (last _)
      · split at taken <;> exact absurd taken.symm (last _)
  | .tick (frame :: frames) :: stack => exact absurd taken.symm (last _)
  | .tick [] :: stack =>
      simp only [step, fire] at taken
      split at taken
      · exact absurd taken.symm (last _)
      · split at taken <;> exact absurd taken.symm (last _)
  | .drain :: stack =>
      simp only [step, drain] at taken
      split at taken
      · exact absurd taken.symm (last _)
      · split at taken
        · exact absurd taken.symm (last _)
        · split at taken
          · exact absurd taken.symm (last _)
          · subst taken
            exact .endless
        · subst taken
          exact .stranded

/-- An engine is done only when its stack is empty. -/
theorem step_done {before : Queue ε} {start : ω}
    (taken : step apply ⟨before, start, stack⟩ = .done queue world) :
    stack = [] ∧ before = queue := by
  have halts := halts_of_step taken (by rintro _ ⟨⟩)
  cases halts with
  | done => exact ⟨rfl, rfl⟩

/-- A drain is over only when the queue is idle. -/
theorem Draining.done {engine : Engine ε ω} (draining : Draining engine)
    (taken : step apply engine = .done queue world) : queue.isIdle = true := by
  obtain ⟨empty, rfl⟩ := step_done taken
  rcases draining with below | ⟨idle, -⟩
  · rw [empty] at below
    cases List.suffix_nil.mp below
  · exact idle

end Engine

/-! ## Calls of the queue -/

namespace Queue

variable {apply : ε → ExceptT φ (StateM ω) Unit} {queue : Queue ε} {world : ω} {pending : List ε}

/-- A queue that is idle between calls is empty. -/
theorem Settled.of_idle (settled : queue.Settled pending) (idle : queue.isIdle = true) :
    queue = ⟨queue.now, [], false, [], []⟩ ∧ pending = [] := by
  obtain ⟨nested, fed, current, waiting, phase, waits, rfl⟩ := settled
  cases phase with
  | rest hollow =>
      cases waits with
      | none => exact ⟨rfl, rfl⟩
      | more plays waits => cases idle
  | framed plays hollow => cases idle
  | timed plays hollow => cases idle

/-- A tick has some of the effects, in order. -/
theorem perform_tick (settled : queue.Settled pending) (now : Float) :
    Ending apply world pending (queue.perform apply (.tick now) world) := by
  obtain ⟨nested, fed, current, waiting, phase, waits, rfl⟩ := settled
  have returning : Hollow [Activity.script ([] : Script ε)] := by simp [Hollow, Activity.IsHollow]
  have ticking : Hollow [.tick [], Activity.script ([] : Script ε)] :=
    hollow_cons.mpr ⟨rfl, returning⟩
  rw [perform, Engine.run_next rfl]
  apply Engine.run_ending
  cases phase with
  | rest hollow =>
      have none := (fed rfl).resolve_right id
      exact ⟨rfl, fun _ => Or.inl none, [], waiting, .rest ticking, waits, rfl⟩
  | framed plays hollow => exact Engine.orderly_of_busy rfl rfl (.due plays returning) waits
  | timed plays hollow => exact Engine.orderly_of_busy rfl rfl (.timed plays ticking) waits

/-- A task that is enqueued has its effects behind all others. -/
theorem Settled.enqueue (settled : queue.Settled pending) {task : Script ε} {effects : List ε}
    (plays : Plays task effects) :
    Orderly (queue.enqueue task) [.pump, .script []] (pending ++ effects) := by
  obtain ⟨nested, fed, current, waiting, phase, waits, rfl⟩ := settled
  have pumping : Hollow [.pump, Activity.script ([] : Script ε)] := by
    simp [Hollow, Activity.IsHollow]
  rw [List.append_assoc]
  refine ⟨trivial, fun _ => Or.inr trivial, current, waiting ++ effects, ?_, waits.snoc plays, rfl⟩
  cases phase with
  | rest hollow => exact .rest pumping
  | framed framePlays hollow => exact .framed framePlays pumping
  | timed timerPlays hollow => exact .timed timerPlays pumping

/-- To submit a task is to put it in line and pump. -/
theorem perform_submit_eq (apply : ε → ExceptT φ (StateM ω) Unit) (queue : Queue ε)
    (task : Script ε) (world : ω) :
    queue.perform apply (.submit task) world =
      Engine.run apply ⟨queue.enqueue task, world, [.pump, .script []]⟩ :=
  Engine.run_next rfl

/-- A queue that is busy takes a task and does nothing else. -/
theorem perform_submit_busy {apply : ε → ExceptT φ (StateM ω) Unit} {queue : Queue ε}
    (busy : queue.busy = true) (task : Script ε) (world : ω) :
    queue.perform apply (.submit task) world = (.ok (), queue.enqueue task, world) := by
  have waits : Engine.step apply ⟨queue.enqueue task, world, [.pump, .script []]⟩ =
      .next ⟨queue.enqueue task, world, [.script []]⟩ := if_pos busy
  rw [perform_submit_eq, Engine.run_next waits, Engine.run_next rfl, Engine.run_done rfl]

/-- Submitting a task puts its effects behind all others, and may have some at once. -/
theorem perform_submit (settled : queue.Settled pending) {task : Script ε} {effects : List ε}
    (plays : Plays task effects) :
    Ending apply world (pending ++ effects) (queue.perform apply (.submit task) world) := by
  rw [perform_submit_eq]
  exact Engine.run_ending (settled.enqueue plays)

/-- A drain has the effects in order. -/
theorem perform_drain (settled : queue.Settled pending) :
    Ending apply world pending (queue.perform apply .drain world) := by
  obtain ⟨nested, fed, current, waiting, phase, waits, rfl⟩ := settled
  have draining : Hollow [.drain, Activity.script ([] : Script ε)] := by
    simp [Hollow, Activity.IsHollow]
  rw [perform, Engine.run_next rfl]
  apply Engine.run_ending
  refine ⟨rfl, ?_, current, waiting, ?_, waits, rfl⟩
  · intro idle
    exact Or.inl ((fed idle).resolve_right id)
  · cases phase with
    | rest hollow => exact .rest draining
    | framed plays hollow => exact .framed plays draining
    | timed plays hollow => exact .timed plays draining

/-- A drain that comes to its end leaves the queue idle. -/
theorem idle_of_perform_drain {after : Queue ε} {world' : ω}
    (performed : queue.perform apply .drain world = (.ok (), after, world')) :
    after.isIdle = true := by
  have ends :
      (queue.perform apply .drain world).1 = .ok () →
        (queue.perform apply .drain world).2.1.isIdle = true := by
    rw [perform, Engine.run_next rfl]
    apply Engine.run_invariant Engine.Draining
      (fun ending => ending.1 = .ok () → ending.2.1.isIdle = true)
    · intro engine after draining taken
      exact draining.next taken
    · intro engine queue world draining taken _
      exact draining.done taken
    · intro engine trouble queue world _ _ ended
      cases ended
    · exact Or.inl List.suffix_rfl
  rw [performed] at ends
  exact ends rfl

/-- Dropping everything leaves nothing to be seen. -/
theorem perform_cancel (apply : ε → ExceptT φ (StateM ω) Unit) (queue : Queue ε) (world : ω) :
    queue.perform apply .cancel world = (.ok (), queue.cancel, world) := by
  rw [perform, Engine.run_next rfl, Engine.run_next rfl, Engine.run]
  rfl

/-- Nothing is pending in a queue after it was cancelled. -/
theorem settled_cancel (queue : Queue ε) : queue.cancel.Settled [] :=
  ⟨trivial, fun _ => Or.inl rfl, [], [], .rest (by simp [Hollow]), .none, rfl⟩

end Queue

end Logo.Animation
