import Logo.Proofs.Animation.History
import Mathlib.Algebra.Order.Group.Multiset
import Mathlib.Tactic.Abel

/-!
# Ledgers

Scripts have no names: a queue may hold the same script several times, and
nothing in it tells which of them was registered when.  A ledger tells.  It
goes along with an engine and gives a number to every task, every script for
the next frame and every timer when it is registered, in order.  A ledger has
no influence on the engine, and without the numbers it holds just what the
queue and its ticks hold.

A record is what has been entered in a ledger up to a moment: what was
registered, what was begun, and that something failed.  A script is entered as
begun just when a loop of the queue puts it on the stack.  The main statement
is that nothing is begun that was not registered, and nothing twice.
-/

namespace Logo.Animation

variable {ε ω φ : Type}

/-- What is registered: a task, a script for the next frame, or one for a time. -/
inductive Item (ε : Type) where
  | task (script : Script ε)
  | frame (script : Script ε)
  | timer (timer : Timer ε)

/-- Something with the number under which it was registered. -/
structure Entry (α : Type) where
  number : Nat
  item : α

/-- The script that is run when an item is begun. -/
@[simp]
def Item.script : Item ε → Script ε
  | .task script => script
  | .frame script => script
  | .timer clock => clock.script

namespace Entry

def asTask (entry : Entry (Script ε)) : Entry (Item ε) :=
  ⟨entry.number, .task entry.item⟩

def asFrame (entry : Entry (Script ε)) : Entry (Item ε) :=
  ⟨entry.number, .frame entry.item⟩

def asTimer (entry : Entry (Timer ε)) : Entry (Item ε) :=
  ⟨entry.number, .timer entry.item⟩

end Entry

/-- What is entered in a ledger. -/
inductive Note (ε : Type) where
  | registered (entry : Entry (Item ε))
  /-- An entry is begun at a time, by a loop with so many activities below it on the stack. -/
  | begun (entry : Entry (Item ε)) (depth : Nat) (now : Float)
  | failed

namespace Note

@[simp]
def registered? : Note ε → Option (Entry (Item ε))
  | .registered entry => some entry
  | .begun _ _ _ | .failed => none

@[simp]
def begun? : Note ε → Option (Entry (Item ε))
  | .begun entry _ _ => some entry
  | .registered _ | .failed => none

end Note

/-- What was registered, in order. -/
def registeredIn (notes : List (Note ε)) : List (Entry (Item ε)) :=
  notes.filterMap Note.registered?

/-- What was begun, in order. -/
def begunIn (notes : List (Note ε)) : List (Entry (Item ε)) :=
  notes.filterMap Note.begun?

@[simp]
theorem registeredIn_append (notes more : List (Note ε)) :
    registeredIn (notes ++ more) = registeredIn notes ++ registeredIn more :=
  List.filterMap_append

@[simp]
theorem begunIn_append (notes more : List (Note ε)) :
    begunIn (notes ++ more) = begunIn notes ++ begunIn more :=
  List.filterMap_append

/--
The numbers of all that waits.  There is a batch for every tick on the stack,
innermost first, with what the tick has taken out for its frame and not begun.
-/
structure Ledger (ε : Type) where
  issued : Nat
  tasks : List (Entry (Script ε))
  frames : List (Entry (Script ε))
  timers : List (Entry (Timer ε))
  batches : List (List (Entry (Script ε)))

namespace Ledger

def empty : Ledger ε := ⟨0, [], [], [], []⟩

/-- Let a task wait behind the others. -/
def addTask (ledger : Ledger ε) (task : Script ε) : Ledger ε :=
  { ledger with
    issued := ledger.issued + 1
    tasks := ledger.tasks ++ [⟨ledger.issued, task⟩] }

/-- Let a script wait for the next frame. -/
def addFrame (ledger : Ledger ε) (callback : Script ε) : Ledger ε :=
  { ledger with
    issued := ledger.issued + 1
    frames := ledger.frames ++ [⟨ledger.issued, callback⟩] }

/-- Put a timer in front of all that are due later. -/
def insertTimer (entry : Entry (Timer ε)) : List (Entry (Timer ε)) → List (Entry (Timer ε))
  | [] => [entry]
  | other :: rest =>
      if entry.item.due < other.item.due then
        entry :: other :: rest
      else
        other :: insertTimer entry rest

/-- Let a script wait for its time. -/
def addTimer (ledger : Ledger ε) (timer : Timer ε) : Ledger ε :=
  { ledger with
    issued := ledger.issued + 1
    timers := insertTimer ⟨ledger.issued, timer⟩ ledger.timers }

/-- A tick takes out what waits for the frame. -/
def detach (ledger : Ledger ε) : Ledger ε :=
  { ledger with frames := [], batches := ledger.frames :: ledger.batches }

/-- Drop everything that waits in the queue. -/
def cancel (ledger : Ledger ε) : Ledger ε :=
  { ledger with tasks := [], frames := [], timers := [] }

/-- A failure ends all ticks. -/
def abandon (ledger : Ledger ε) : Ledger ε :=
  { ledger with batches := [] }

/-- A pump begins the first task. -/
def beginTask (ledger : Ledger ε) (depth : Nat) (now : Float) : List (Note ε) × Ledger ε :=
  match ledger.tasks with
  | [] => ([], ledger)
  | entry :: tasks => ([.begun entry.asTask depth now], { ledger with tasks })

/-- A tick begins the first script of its batch. -/
def beginFrame (ledger : Ledger ε) (depth : Nat) (now : Float) : List (Note ε) × Ledger ε :=
  match ledger.batches with
  | (entry :: batch) :: batches =>
      ([.begun entry.asFrame depth now], { ledger with batches := batch :: batches })
  | _ => ([], ledger)

/-- A tick begins the first timer if it has come due, and ends otherwise. -/
def beginTimer (ledger : Ledger ε) (depth : Nat) (now : Float) : List (Note ε) × Ledger ε :=
  match ledger.timers with
  | [] => ([], { ledger with batches := ledger.batches.tail })
  | entry :: timers =>
      if entry.item.due ≤ now then
        ([.begun entry.asTimer depth now], { ledger with timers })
      else
        ([], { ledger with batches := ledger.batches.tail })

/-- All that waits in a queue or has been taken out by a tick. -/
def content (ledger : Ledger ε) : Multiset (Entry (Item ε)) :=
  ↑(ledger.tasks.map Entry.asTask) + ↑(ledger.frames.map Entry.asFrame) +
    ↑(ledger.timers.map Entry.asTimer) + ↑(ledger.batches.flatten.map Entry.asFrame)

/-- Inserting a timer keeps the others. -/
theorem insertTimer_perm (entry : Entry (Timer ε)) (timers : List (Entry (Timer ε))) :
    (insertTimer entry timers).Perm (entry :: timers) := by
  induction timers with
  | nil => exact .refl _
  | cons other rest hypothesis =>
      unfold insertTimer
      split
      · exact .refl _
      · exact (hypothesis.cons other).trans (.swap entry other rest)

/-- Numbered timers are kept in the order in which the queue keeps its own. -/
theorem map_insertTimer (entry : Entry (Timer ε)) (timers : List (Entry (Timer ε))) :
    (insertTimer entry timers).map Entry.item =
      Queue.insertTimer entry.item (timers.map Entry.item) := by
  induction timers with
  | nil => rfl
  | cons other rest hypothesis =>
      rw [insertTimer, List.map_cons, Queue.insertTimer]
      split
      · rfl
      · rw [List.map_cons, hypothesis]

/-! How what waits comes and goes -/

section

variable (ledger : Ledger ε)

theorem content_addTask (task : Script ε) :
    (ledger.addTask task).content = {⟨ledger.issued, .task task⟩} + ledger.content := by
  simp only [content, addTask, List.map_append, List.map_singleton, Entry.asTask,
    ← Multiset.coe_add, Multiset.coe_singleton]
  abel

theorem content_addFrame (callback : Script ε) :
    (ledger.addFrame callback).content = {⟨ledger.issued, .frame callback⟩} + ledger.content := by
  simp only [content, addFrame, List.map_append, List.map_singleton, Entry.asFrame,
    ← Multiset.coe_add, Multiset.coe_singleton]
  abel

theorem content_addTimer (timer : Timer ε) :
    (ledger.addTimer timer).content = {⟨ledger.issued, .timer timer⟩} + ledger.content := by
  have inserted := (insertTimer_perm ⟨ledger.issued, timer⟩ ledger.timers).map Entry.asTimer
  simp only [content, addTimer, Multiset.coe_eq_coe.mpr inserted, List.map_cons, Entry.asTimer,
    ← Multiset.cons_coe, ← Multiset.singleton_add]
  abel

theorem content_empty : (empty : Ledger ε).content = 0 :=
  rfl

/-- Callbacks that are detached for a tick are still there. -/
theorem content_detach : ledger.detach.content = ledger.content := by
  simp only [content, detach, List.flatten_cons, List.map_append, List.map_nil,
    ← Multiset.coe_add, Multiset.coe_nil]
  abel

/-- What is abandoned is lost, and nothing is gained by it. -/
theorem content_abandon_le : ledger.abandon.content ≤ ledger.content := by
  simp only [content, abandon, List.flatten_nil, List.map_nil, Multiset.coe_nil, add_zero]
  exact Multiset.le_add_right _ _

/-- What ticks have taken out is out of reach. -/
theorem content_cancel :
    ledger.cancel.content = ↑(ledger.batches.flatten.map Entry.asFrame) := by
  simp only [content, cancel, List.map_nil, Multiset.coe_nil, zero_add]

variable {ledger}

theorem content_withBatches {batches : List (List (Entry (Script ε)))}
    (same : batches.flatten = ledger.batches.flatten) :
    { ledger with batches }.content = ledger.content := by
  simp only [content, same]

theorem content_of_tasks {entry : Entry (Script ε)} {tasks : List (Entry (Script ε))}
    (first : ledger.tasks = entry :: tasks) :
    ledger.content = {entry.asTask} + { ledger with tasks }.content := by
  simp only [content, first, List.map_cons, ← Multiset.cons_coe, ← Multiset.singleton_add]
  abel

theorem content_of_batches {entry : Entry (Script ε)} {batch : List (Entry (Script ε))}
    {batches : List (List (Entry (Script ε)))}
    (first : ledger.batches = (entry :: batch) :: batches) :
    ledger.content = {entry.asFrame} + { ledger with batches := batch :: batches }.content := by
  simp only [content, first, List.flatten_cons, List.cons_append, List.map_cons,
    ← Multiset.cons_coe, ← Multiset.singleton_add]
  abel

theorem content_of_timers {entry : Entry (Timer ε)} {timers : List (Entry (Timer ε))}
    {batches : List (List (Entry (Script ε)))} (first : ledger.timers = entry :: timers)
    (same : batches.flatten = ledger.batches.flatten) :
    ledger.content = {entry.asTimer} + { ledger with timers, batches }.content := by
  simp only [content, first, same, List.map_cons, ← Multiset.cons_coe, ← Multiset.singleton_add]
  abel

end

end Ledger

/-- What is entered in a ledger with the next step, and what the ledger is after it. -/
def Engine.record : Engine ε ω → Ledger ε → List (Note ε) × Ledger ε
  | ⟨_, _, .script (.submit task :: _) :: _⟩, ledger =>
      ([.registered ⟨ledger.issued, .task task⟩], ledger.addTask task)
  | ⟨_, _, .script (.nextFrame callback :: _) :: _⟩, ledger =>
      ([.registered ⟨ledger.issued, .frame callback⟩], ledger.addFrame callback)
  | ⟨queue, _, .script (.later seconds callback :: _) :: _⟩, ledger =>
      ([.registered ⟨ledger.issued, .timer ⟨queue.now + seconds, callback⟩⟩],
        ledger.addTimer ⟨queue.now + seconds, callback⟩)
  | ⟨_, _, .script (.tick _ :: _) :: _⟩, ledger => ([], ledger.detach)
  | ⟨_, _, .script (.cancel :: _) :: _⟩, ledger => ([], ledger.cancel)
  | ⟨queue, _, .pump :: stack⟩, ledger =>
      if queue.busy then ([], ledger) else ledger.beginTask stack.length queue.now
  | ⟨queue, _, .tick (_ :: _) :: stack⟩, ledger => ledger.beginFrame stack.length queue.now
  | ⟨queue, _, .tick [] :: stack⟩, ledger => ledger.beginTimer stack.length queue.now
  | ⟨queue, _, .drain :: stack⟩, ledger =>
      if queue.isIdle then
        ([], ledger)
      else
        match queue.frames, queue.timers with
        | [], timer :: _ =>
            ledger.detach.beginTimer (stack.length + 1) (queue.advance timer.due).now
        | _, _ => ([], ledger.detach)
  | _, ledger => ([], ledger)

namespace Engine

variable {queue : Queue ε} {world : ω} {stack : List (Activity ε)} {ledger : Ledger ε}

/-- A pump that finds nothing to start leaves no note. -/
theorem record_pumped (nothing : queue.busy = true ∨ ledger.tasks = []) :
    record ⟨queue, world, .pump :: stack⟩ ledger = ([], ledger) := by
  rcases nothing with busy | none
  · simp only [record, busy, if_true]
  · simp only [record, Ledger.beginTask, none, ite_self]

/-- A pump that starts a task notes it. -/
theorem record_start {entry : Entry (Script ε)} {tasks : List (Entry (Script ε))}
    (free : queue.busy = false) (first : ledger.tasks = entry :: tasks) :
    record ⟨queue, world, .pump :: stack⟩ ledger =
      ([.begun entry.asTask stack.length queue.now], { ledger with tasks }) := by
  simp only [record, free, Bool.false_eq_true, if_false, Ledger.beginTask, first]

/-- A tick notes each callback that it begins. -/
theorem record_frame {frame : Script ε} {frames : List (Script ε)} {entry : Entry (Script ε)}
    {batch : List (Entry (Script ε))} {batches : List (List (Entry (Script ε)))}
    (first : ledger.batches = (entry :: batch) :: batches) :
    record ⟨queue, world, .tick (frame :: frames) :: stack⟩ ledger =
      ([.begun entry.asFrame stack.length queue.now],
        { ledger with batches := batch :: batches }) := by
  simp only [record, Ledger.beginFrame, first]

/-- A tick notes each timer that goes off. -/
theorem record_fire {entry : Entry (Timer ε)} {timers : List (Entry (Timer ε))}
    (first : ledger.timers = entry :: timers) (due : entry.item.due ≤ queue.now) :
    record ⟨queue, world, .tick [] :: stack⟩ ledger =
      ([.begun entry.asTimer stack.length queue.now], { ledger with timers }) := by
  simp only [record, Ledger.beginTimer, first, due, if_true]

/-- A tick without anything to do is over, and so is its batch. -/
theorem record_ticked (nothing : ∀ entry ∈ ledger.timers.head?, ¬ entry.item.due ≤ queue.now) :
    record ⟨queue, world, .tick [] :: stack⟩ ledger =
      ([], { ledger with batches := ledger.batches.tail }) := by
  cases waiting : ledger.timers with
  | nil => simp only [record, Ledger.beginTimer, waiting]
  | cons entry others =>
      have early := nothing entry (by rw [waiting]; rfl)
      simp only [record, Ledger.beginTimer, waiting, early, if_false]

/-- A drain of an idle queue leaves no note. -/
theorem record_drained (idle : queue.isIdle = true) :
    record ⟨queue, world, .drain :: stack⟩ ledger = ([], ledger) := by
  simp only [record, idle, if_true]

/-- A drain detaches the callbacks that wait, as a tick does. -/
theorem record_drainFrames (working : queue.isIdle = false) (waiting : queue.frames ≠ []) :
    record ⟨queue, world, .drain :: stack⟩ ledger = ([], ledger.detach) := by
  obtain ⟨frame, others, some⟩ := List.exists_cons_of_ne_nil waiting
  simp only [record, working, Bool.false_eq_true, if_false, some]

theorem record_drainTimer {timer : Timer ε} {timers : List (Timer ε)} {entry : Entry (Timer ε)}
    {rest : List (Entry (Timer ε))} (working : queue.isIdle = false) (none : queue.frames = [])
    (empty : ledger.frames = []) (first : queue.timers = timer :: timers)
    (waiting : ledger.timers = entry :: rest)
    (due : entry.item.due ≤ (queue.advance timer.due).now) :
    record ⟨queue, world, .drain :: stack⟩ ledger =
      ([.begun entry.asTimer (stack.length + 1) (queue.advance timer.due).now],
        { ledger with timers := rest, batches := [] :: ledger.batches }) := by
  simp only [record, working, Bool.false_eq_true, if_false, none, first, Ledger.beginTimer,
    Ledger.detach, waiting, due, if_true, empty]

end Engine

/-! ## A ledger tells what the queue holds -/

/-- What the ticks on a stack have taken out for their frames, innermost first. -/
def framesOf : List (Activity ε) → List (List (Script ε))
  | [] => []
  | .tick frames :: rest => frames :: framesOf rest
  | .script _ :: rest => framesOf rest
  | .pump :: rest => framesOf rest
  | .drain :: rest => framesOf rest

theorem withPump_eq (rest : Script ε) (stack : List (Activity ε)) :
    withPump (.script rest :: stack) = .script rest :: stack ∨
      withPump (.script rest :: stack) = .pump :: .script rest :: stack := by
  unfold withPump
  split
  · exact .inl rfl
  · exact .inr rfl

theorem framesOf_withPump (rest : Script ε) (stack : List (Activity ε)) :
    framesOf (withPump (.script rest :: stack)) = framesOf stack := by
  rcases withPump_eq rest stack with same | same
  · rw [same, framesOf]
  · rw [same, framesOf, framesOf]

/-- Without its numbers a ledger holds what the queue and the ticks on the stack hold. -/
structure Ledger.Fits (ledger : Ledger ε) (engine : Engine ε ω) : Prop where
  tasks : ledger.tasks.map Entry.item = engine.queue.tasks
  frames : ledger.frames.map Entry.item = engine.queue.frames
  timers : ledger.timers.map Entry.item = engine.queue.timers
  batches : ledger.batches.map (·.map Entry.item) = framesOf engine.stack

/-- Timers that are early for the queue are early for the ledger. -/
theorem Ledger.early_of_timers {ledger : Ledger ε} {queue : Queue ε}
    (timers : ledger.timers.map Entry.item = queue.timers)
    (nothing : ∀ timer ∈ queue.timers.head?, ¬ timer.due ≤ queue.now) :
    ∀ entry ∈ ledger.timers.head?, ¬ entry.item.due ≤ queue.now := by
  intro entry first
  refine nothing entry.item ?_
  rw [← timers, List.head?_map]
  exact Option.mem_map_of_mem _ first

/-- An empty ledger fits an empty queue. -/
theorem Ledger.fits_empty {world : ω} :
    (empty : Ledger ε).Fits (⟨.empty, world, []⟩ : Engine ε ω) :=
  ⟨rfl, rfl, rfl, rfl⟩

/-- Everything that can be entered in a ledger at once. -/
inductive Ledger.Move (ledger : Ledger ε) : List (Note ε) → Ledger ε → Prop where
  /-- Only batches with nothing in them come and go. -/
  | quiet {batches : List (List (Entry (Script ε)))}
      (same : batches.flatten = ledger.batches.flatten) : Move ledger [] { ledger with batches }
  | addTask (task : Script ε) :
      Move ledger [.registered ⟨ledger.issued, .task task⟩] (ledger.addTask task)
  | addFrame (callback : Script ε) :
      Move ledger [.registered ⟨ledger.issued, .frame callback⟩] (ledger.addFrame callback)
  | addTimer (timer : Timer ε) :
      Move ledger [.registered ⟨ledger.issued, .timer timer⟩] (ledger.addTimer timer)
  | detach : Move ledger [] ledger.detach
  | cancel : Move ledger [] ledger.cancel
  | fail : Move ledger [.failed] ledger.abandon
  | beginTask {entry : Entry (Script ε)} {tasks : List (Entry (Script ε))} (depth : Nat)
      (now : Float) (first : ledger.tasks = entry :: tasks) :
      Move ledger [.begun entry.asTask depth now] { ledger with tasks }
  | beginFrame {entry : Entry (Script ε)} {batch : List (Entry (Script ε))}
      {batches : List (List (Entry (Script ε)))} (depth : Nat) (now : Float)
      (first : ledger.batches = (entry :: batch) :: batches) :
      Move ledger [.begun entry.asFrame depth now] { ledger with batches := batch :: batches }
  | beginTimer {entry : Entry (Timer ε)} {timers : List (Entry (Timer ε))}
      {batches : List (List (Entry (Script ε)))} (depth : Nat) (now : Float)
      (first : ledger.timers = entry :: timers)
      (same : batches.flatten = ledger.batches.flatten) :
      Move ledger [.begun entry.asTimer depth now] { ledger with timers, batches }

section

variable {apply : ε → ExceptT φ (StateM ω) Unit} {engine after : Engine ε ω}
  {ledger : Ledger ε} {events : List (Event ε)}

theorem Ledger.move_refl : ledger.Move [] ledger :=
  .quiet rfl

/-- After every step the ledger fits again, and it has changed in one of the ways that count. -/
theorem Ledger.Fits.step (fits : ledger.Fits engine)
    (moved : Engine.Transition apply engine events after) :
    (engine.record ledger).2.Fits after ∧
      ledger.Move (engine.record ledger).1 (engine.record ledger).2 := by
  obtain ⟨tasks, frames, timers, batches⟩ := fits
  cases moved with
  | leave => exact ⟨⟨tasks, frames, timers, batches⟩, move_refl⟩
  | effect had => exact ⟨⟨tasks, frames, timers, batches⟩, move_refl⟩
  | @submit queue world stack task rest =>
      have added : (ledger.addTask task).tasks.map Entry.item = (queue.enqueue task).tasks := by
        simp [addTask, Queue.enqueue, tasks]
      have same := batches.trans (framesOf_withPump rest stack).symm
      exact ⟨⟨added, frames, timers, same⟩, .addTask task⟩
  | @finish queue world stack rest =>
      have same := batches.trans (framesOf_withPump rest stack).symm
      exact ⟨⟨tasks, frames, timers, same⟩, move_refl⟩
  | @nextFrame queue world stack callback rest =>
      have added : (ledger.addFrame callback).frames.map Entry.item =
          (queue.addFrame callback).frames := by
        simp [addFrame, Queue.addFrame, frames]
      exact ⟨⟨tasks, added, timers, batches⟩, .addFrame callback⟩
  | @later queue world stack seconds callback rest =>
      have added : (ledger.addTimer ⟨queue.now + seconds, callback⟩).timers.map Entry.item =
          (queue.addTimer seconds callback).timers :=
        (map_insertTimer _ _).trans (congrArg _ timers)
      exact ⟨⟨tasks, frames, added, batches⟩, .addTimer _⟩
  | film => exact ⟨⟨tasks, frames, timers, batches⟩, move_refl⟩
  | tick => exact ⟨⟨tasks, rfl, timers, congrArg₂ List.cons frames batches⟩, .detach⟩
  | drain => exact ⟨⟨tasks, frames, timers, batches⟩, move_refl⟩
  | cancel => exact ⟨⟨rfl, rfl, rfl, batches⟩, .cancel⟩
  | @pumped queue world stack nothing =>
      have nothing : queue.busy = true ∨ ledger.tasks = [] :=
        nothing.imp_right fun none => List.map_eq_nil_iff.mp (tasks.trans none)
      rw [Engine.record_pumped nothing]
      exact ⟨⟨tasks, frames, timers, batches⟩, move_refl⟩
  | start free waiting =>
      obtain ⟨entry, rest, first, -, others_eq⟩ := List.map_eq_cons_iff.mp (tasks.trans waiting)
      rw [Engine.record_start free first]
      exact ⟨⟨others_eq, frames, timers, batches⟩, .beginTask _ _ first⟩
  | frame =>
      obtain ⟨batch, rest, first, taken, rest_eq⟩ := List.map_eq_cons_iff.mp batches
      obtain ⟨entry, batch, rfl, -, batch_eq⟩ := List.map_eq_cons_iff.mp taken
      rw [Engine.record_frame first]
      exact ⟨⟨tasks, frames, timers, congrArg₂ List.cons batch_eq rest_eq⟩,
        .beginFrame _ _ first⟩
  | ticked nothing =>
      obtain ⟨batch, rest, first, taken, rest_eq⟩ := List.map_eq_cons_iff.mp batches
      cases List.map_eq_nil_iff.mp taken
      rw [Engine.record_ticked (early_of_timers timers nothing), first]
      exact ⟨⟨tasks, frames, timers, rest_eq⟩, .quiet (by rw [first]; rfl)⟩
  | fire first due =>
      obtain ⟨entry, rest, waiting, rfl, others_eq⟩ := List.map_eq_cons_iff.mp (timers.trans first)
      rw [Engine.record_fire waiting due]
      exact ⟨⟨tasks, frames, others_eq, batches⟩, .beginTimer _ _ waiting rfl⟩
  | drained idle =>
      rw [Engine.record_drained idle]
      exact ⟨⟨tasks, frames, timers, batches⟩, move_refl⟩
  | drainFrames working waiting =>
      rw [Engine.record_drainFrames working waiting]
      exact ⟨⟨tasks, rfl, timers, congrArg₂ List.cons frames batches⟩, .detach⟩
  | drainTimer working none first due =>
      obtain ⟨entry, rest, waiting, rfl, others_eq⟩ := List.map_eq_cons_iff.mp (timers.trans first)
      have empty : ledger.frames = [] := List.map_eq_nil_iff.mp (frames.trans none)
      rw [Engine.record_drainTimer working none empty first waiting due]
      exact ⟨⟨tasks, frames, others_eq, congrArg _ batches⟩, .beginTimer _ _ waiting rfl⟩

/-- Whether an activity is a loop of the queue. -/
@[simp]
def Activity.isLoop : Activity ε → Bool
  | .script _ => false
  | .pump | .tick _ | .drain => true

/-- A script is entered as begun just when a loop puts it on the stack. -/
theorem Ledger.Fits.begun_iff (fits : ledger.Fits engine)
    (moved : Engine.Transition apply engine events after) (script : Script ε) (depth : Nat) :
    (∃ entry now, .begun entry depth now ∈ (engine.record ledger).1 ∧
        entry.item.script = script) ↔
      ∃ loop below, after.stack = .script script :: loop :: below ∧ loop.isLoop = true ∧
        below.length = depth ∧ engine.stack.length < after.stack.length := by
  obtain ⟨tasks, frames, timers, batches⟩ := fits
  cases moved with
  | @submit queue world stack task rest =>
      rcases withPump_eq rest stack with same | same <;> simp [Engine.record, same]
  | @finish queue world stack rest =>
      rcases withPump_eq rest stack with same | same <;> simp [Engine.record, same]
  | leave | effect | nextFrame | later | film | tick | drain | cancel => simp [Engine.record]
  | @pumped queue world stack nothing =>
      have nothing : queue.busy = true ∨ ledger.tasks = [] :=
        nothing.imp_right fun none => List.map_eq_nil_iff.mp (tasks.trans none)
      simp [Engine.record_pumped nothing]
  | start free waiting =>
      obtain ⟨entry, rest, first, rfl, -⟩ := List.map_eq_cons_iff.mp (tasks.trans waiting)
      simp [Engine.record_start free first, Entry.asTask, and_comm, @eq_comm Nat depth]
  | frame =>
      obtain ⟨batch, rest, first, taken, -⟩ := List.map_eq_cons_iff.mp batches
      obtain ⟨entry, batch, rfl, rfl, -⟩ := List.map_eq_cons_iff.mp taken
      simp [Engine.record_frame first, Entry.asFrame, and_comm, @eq_comm Nat depth]
  | ticked nothing =>
      simp [Engine.record_ticked (early_of_timers timers nothing)]
  | fire first due =>
      obtain ⟨entry, rest, waiting, rfl, -⟩ := List.map_eq_cons_iff.mp (timers.trans first)
      simp [Engine.record_fire waiting due, Entry.asTimer, and_comm, @eq_comm Nat depth]
  | drained idle => simp [Engine.record_drained idle]
  | drainFrames working waiting => simp [Engine.record_drainFrames working waiting]
  | drainTimer working none first due =>
      obtain ⟨entry, rest, waiting, rfl, -⟩ := List.map_eq_cons_iff.mp (timers.trans first)
      have empty : ledger.frames = [] := List.map_eq_nil_iff.mp (frames.trans none)
      simp [Engine.record_drainTimer working none empty first waiting due, Entry.asTimer, and_comm,
        @eq_comm Nat depth]

/-! ## What moves keep -/

namespace Ledger.Move

variable {notes : List (Note ε)} {next : Ledger ε}

/-- Numbers are issued in order. -/
theorem numbered (move : ledger.Move notes next) :
    List.range ledger.issued ++ (registeredIn notes).map Entry.number =
      List.range next.issued := by
  cases move with
  | addTask | addFrame | addTimer => exact List.range_succ.symm
  | _ => exact List.append_nil _

/-- What is begun or still waits has been registered or has waited before. -/
theorem conserved (move : ledger.Move notes next) :
    (begunIn notes + next.content : Multiset (Entry (Item ε))) ≤
      registeredIn notes + ledger.content := by
  cases move with
  | quiet same =>
      rw [← content_withBatches same]
      exact le_refl _
  | addTask task =>
      rw [content_addTask]
      exact le_of_eq (zero_add _)
  | addFrame callback =>
      rw [content_addFrame]
      exact le_of_eq (zero_add _)
  | addTimer timer =>
      rw [content_addTimer]
      exact le_of_eq (zero_add _)
  | detach =>
      rw [content_detach]
      exact le_refl _
  | cancel =>
      rw [content_cancel]
      exact add_le_add_right (Multiset.le_add_left _ _) 0
  | fail => exact add_le_add (le_refl _) ledger.content_abandon_le
  | beginTask depth now first =>
      rw [content_of_tasks first]
      exact le_of_eq (zero_add _).symm
  | beginFrame depth now first =>
      rw [content_of_batches first]
      exact le_of_eq (zero_add _).symm
  | beginTimer depth now first same =>
      rw [content_of_timers first same]
      exact le_of_eq (zero_add _).symm

/-- What waits for the frame was registered in this order. -/
theorem frames_sublist (move : ledger.Move notes next) {earlier : List (Entry (Item ε))}
    (order : (ledger.frames.map Entry.asFrame).Sublist earlier) :
    (next.frames.map Entry.asFrame).Sublist (earlier ++ registeredIn notes) := by
  have kept := order.trans (List.sublist_append_left earlier (registeredIn notes))
  cases move with
  | addFrame callback =>
      rw [Ledger.addFrame, List.map_append]
      exact order.append (.refl _)
  | detach | cancel => exact List.nil_sublist _
  | _ => exact kept

end Ledger.Move

end

/-! ## Records -/

/--
The moments that an engine can come to, each with what has been entered in the
ledger on the way.  Between calls the queue may be called with any script.  A
failure ends the call that it happens in.
-/
inductive Recorded (apply : ε → ExceptT φ (StateM ω) Unit) (start : Engine ε ω)
    (ledger : Ledger ε) : List (Note ε) → Engine ε ω → Ledger ε → Prop where
  | start : Recorded apply start ledger [] start ledger
  | call {notes : List (Note ε)} {queue : Queue ε} {world : ω} {current : Ledger ε}
      (recorded : Recorded apply start ledger notes ⟨queue, world, []⟩ current)
      (script : Script ε) :
      Recorded apply start ledger notes ⟨queue, world, [.script script]⟩ current
  | next {notes : List (Note ε)} {engine after : Engine ε ω} {current : Ledger ε}
      (recorded : Recorded apply start ledger notes engine current)
      (taken : engine.step apply = .next after) :
      Recorded apply start ledger (notes ++ (engine.record current).1) after
        (engine.record current).2
  | failed {notes : List (Note ε)} {engine : Engine ε ω} {current : Ledger ε}
      {trouble : Trouble φ} {queue : Queue ε} {world : ω}
      (recorded : Recorded apply start ledger notes engine current)
      (taken : engine.step apply = .failed trouble queue world) :
      Recorded apply start ledger (notes ++ [.failed]) ⟨queue, world, []⟩ current.abandon

/-- Every moment of every history can be recorded. -/
theorem Reached.recorded {apply : ε → ExceptT φ (StateM ω) Unit} {calls : Script ε → Prop}
    {survives : Trouble φ → Prop} {queue : Queue ε} {world : ω} {events : List (Event ε)}
    {engine : Engine ε ω} (reached : Reached apply calls survives queue world events engine)
    (ledger : Ledger ε) :
    ∃ notes current, Recorded apply ⟨queue, world, []⟩ ledger notes engine current := by
  induction reached with
  | start => exact ⟨_, _, .start⟩
  | call _ _ before =>
      obtain ⟨notes, current, recorded⟩ := before
      exact ⟨_, _, recorded.call _⟩
  | next _ taken before =>
      obtain ⟨notes, current, recorded⟩ := before
      exact ⟨_, _, recorded.next taken⟩
  | failed _ taken _ before =>
      obtain ⟨notes, current, recorded⟩ := before
      exact ⟨_, _, recorded.failed taken⟩

namespace Recorded

variable {apply : ε → ExceptT φ (StateM ω) Unit} {start engine : Engine ε ω}
  {ledger current : Ledger ε} {notes : List (Note ε)}

/-- The ledger always fits, and what all moves keep holds of every record. -/
theorem invariant {motive : List (Note ε) → Ledger ε → Prop}
    (recorded : Recorded apply start ledger notes engine current) (fits : ledger.Fits start)
    (starts : motive [] ledger)
    (moves : ∀ notes current more next, motive notes current → current.Move more next →
      motive (notes ++ more) next) :
    current.Fits engine ∧ motive notes current := by
  induction recorded with
  | start => exact ⟨fits, starts⟩
  | call _ _ before =>
      obtain ⟨⟨tasks, frames, timers, batches⟩, kept⟩ := before
      exact ⟨⟨tasks, frames, timers, batches⟩, kept⟩
  | next _ taken before =>
      obtain ⟨fits, move⟩ := before.1.step (Engine.transition_of_step taken)
      exact ⟨fits, moves _ _ _ _ before.2 move⟩
  | failed _ taken before =>
      obtain ⟨⟨tasks, frames, timers, -⟩, kept⟩ := before
      obtain ⟨rfl, -⟩ := Engine.of_failed taken
      exact ⟨⟨tasks, frames, timers, rfl⟩, moves _ _ _ _ kept .fail⟩

/-- A ledger that fits at the start fits at every later moment. -/
theorem fits (recorded : Recorded apply start ledger notes engine current)
    (fits : ledger.Fits start) : current.Fits engine :=
  (recorded.invariant (motive := fun _ _ => True) fits trivial fun _ _ _ _ _ _ => trivial).1

/-- Numbers are issued in order. -/
theorem numbered (recorded : Recorded apply start ledger notes engine current)
    (fits : ledger.Fits start) :
    List.range ledger.issued ++ (registeredIn notes).map Entry.number =
      List.range current.issued := by
  refine (recorded.invariant (motive := fun notes current =>
    List.range ledger.issued ++ (registeredIn notes).map Entry.number =
      List.range current.issued) fits (List.append_nil _) ?_).2
  intro notes current more next before move
  rw [registeredIn_append, List.map_append, ← List.append_assoc, before]
  exact move.numbered

/-- Nothing is begun that was not registered, and nothing twice. -/
theorem conserved (recorded : Recorded apply start ledger notes engine current)
    (fits : ledger.Fits start) :
    (begunIn notes + current.content : Multiset (Entry (Item ε))) ≤
      registeredIn notes + ledger.content := by
  refine (recorded.invariant (motive := fun (notes : List (Note ε)) (current : Ledger ε) =>
    (begunIn notes + current.content : Multiset (Entry (Item ε))) ≤
      registeredIn notes + ledger.content) fits (le_refl _) ?_).2
  intro notes current more next before move
  calc (begunIn (notes ++ more) + next.content : Multiset (Entry (Item ε)))
      = begunIn notes + (begunIn more + next.content) := by
        rw [begunIn_append, ← Multiset.coe_add, add_assoc]
    _ ≤ begunIn notes + (registeredIn more + current.content) :=
        add_le_add (le_refl _) move.conserved
    _ = registeredIn more + (begunIn notes + current.content) := add_left_comm _ _ _
    _ ≤ registeredIn more + (registeredIn notes + ledger.content) :=
        add_le_add (le_refl _) before
    _ = registeredIn (notes ++ more) + ledger.content := by
        rw [registeredIn_append, ← Multiset.coe_add]
        abel

/-- What waits for the frame was registered in this order. -/
theorem frames_sublist (recorded : Recorded apply start ledger notes engine current)
    (fits : ledger.Fits start) {earlier : List (Entry (Item ε))}
    (order : (ledger.frames.map Entry.asFrame).Sublist earlier) :
    (current.frames.map Entry.asFrame).Sublist (earlier ++ registeredIn notes) := by
  refine (recorded.invariant (motive := fun notes current =>
    (current.frames.map Entry.asFrame).Sublist (earlier ++ registeredIn notes)) fits ?_ ?_).2
  · rwa [registeredIn, List.filterMap_nil, List.append_nil]
  · intro notes current more next before move
    rw [registeredIn_append, ← List.append_assoc]
    exact move.frames_sublist before

/-- What is registered gets a number that none has had before. -/
theorem lt_issued (recorded : Recorded apply start ledger notes engine current)
    (fits : ledger.Fits start) {entry : Entry (Item ε)} (registered : entry ∈ registeredIn notes) :
    ledger.issued ≤ entry.number ∧ entry.number < current.issued := by
  have numbered := recorded.numbered fits
  have mem : entry.number ∈ (registeredIn notes).map Entry.number :=
    List.mem_map_of_mem registered
  constructor
  · have apart := List.disjoint_of_nodup_append (numbered ▸ List.nodup_range)
    exact Nat.le_of_not_lt fun earlier => apart (List.mem_range.mpr earlier) mem
  · exact List.mem_range.mp (numbered ▸ List.mem_append_right _ mem)

/-- What is begun was registered on the way, or it was waiting at the start. -/
theorem registered_or_waiting (recorded : Recorded apply start ledger notes engine current)
    (fits : ledger.Fits start) {entry : Entry (Item ε)} (begun : entry ∈ begunIn notes) :
    entry ∈ registeredIn notes ∨ entry ∈ ledger.content := by
  have mem := Multiset.mem_of_le (recorded.conserved fits)
    (Multiset.mem_add.mpr (.inl (Multiset.mem_coe.mpr begun)))
  exact (Multiset.mem_add.mp mem).imp_left Multiset.mem_coe.mp

/-- What waits was registered and has not been begun. -/
theorem waiting {world : ω}
    (recorded : Recorded apply ⟨.empty, world, []⟩ .empty notes engine current)
    {entry : Entry (Item ε)} (waits : entry ∈ current.content) :
    entry ∈ registeredIn notes ∧ entry ∉ begunIn notes := by
  have conserved : (begunIn notes + current.content : Multiset (Entry (Item ε))) ≤
      registeredIn notes := by
    simpa only [Ledger.content_empty, add_zero] using recorded.conserved Ledger.fits_empty
  have once : (registeredIn notes).Nodup := by
    refine List.Nodup.of_map Entry.number ?_
    have numbered := recorded.numbered Ledger.fits_empty
    rw [← List.nil_append (List.map _ _)]
    exact numbered ▸ List.nodup_range
  have apart := (Multiset.nodup_add.mp
    (Multiset.nodup_of_le conserved (Multiset.coe_nodup.mpr once))).2.2
  constructor
  · exact Multiset.mem_coe.mp (Multiset.mem_of_le conserved (Multiset.mem_add.mpr (.inr waits)))
  · intro begun
    exact Multiset.disjoint_left.mp apart (Multiset.mem_coe.mpr begun) waits

end Recorded

end Logo.Animation
