import Logo.Proofs.Animation.Completion
import Logo.Proofs.Animation.Tick
import Logo.Proofs.Number.Sum

/-!
# Timers are on time

The clock of a queue never goes back, so a timer that is set for some time
from now is due no earlier than any timer that has gone off before.  For this
it takes that times are numbers, that nobody waits for less than no time, and
that a sum of such numbers is never rounded below the first of them.

The main statement is about runs in which nothing is cancelled.  At every
moment of such a run, the timers that have gone off and the timers that still
wait are, one after the other, in the order of their times; and of two that
are due at the same time, the one that was set first comes first.  A tick is
not over before every timer that has come due has gone off.
-/

namespace Logo.Animation

open Number

variable {ε ω φ : Type}

/-! ## The order of timers -/

def Entry.asTimer? : Entry (Item ε) → Option (Entry (Timer ε))
  | ⟨number, .timer timer⟩ => some ⟨number, timer⟩
  | ⟨_, .task _⟩ | ⟨_, .frame _⟩ => none

/-- The timers among some entries. -/
def timersIn (entries : List (Entry (Item ε))) : List (Entry (Timer ε)) :=
  entries.filterMap Entry.asTimer?

@[simp]
theorem timersIn_append (entries more : List (Entry (Item ε))) :
    timersIn (entries ++ more) = timersIn entries ++ timersIn more :=
  List.filterMap_append

/-- A timer comes before another one if it is due earlier, or at the same time and set earlier. -/
def Entry.Before (first second : Entry (Timer ε)) : Prop :=
  first.item.due ≤ second.item.due ∧
    (second.item.due ≤ first.item.due → first.number < second.number)

/-- A timer that is set after all others goes behind those that are due at the same time. -/
theorem Ledger.insertTimer_ordered {entry : Entry (Timer ε)} {timers : List (Entry (Timer ε))}
    (nonneg : 0 ≤ entry.item.due) (nonnegs : ∀ other ∈ timers, 0 ≤ other.item.due)
    (last : ∀ other ∈ timers, other.number < entry.number)
    (order : timers.Pairwise Entry.Before) :
    (insertTimer entry timers).Pairwise Entry.Before := by
  induction timers with
  | nil => exact List.pairwise_singleton _ _
  | cons other rest hypothesis =>
      obtain ⟨nonneg', nonnegs⟩ := List.forall_mem_cons.mp nonnegs
      obtain ⟨earlier, last⟩ := List.forall_mem_cons.mp last
      obtain ⟨first, others⟩ := List.pairwise_cons.mp order
      unfold insertTimer
      split
      · rename_i before
        refine List.pairwise_cons.mpr ⟨?_, order⟩
        intro later mem
        have after : other.item.due ≤ later.item.due := by
          rcases List.mem_cons.mp mem with rfl | mem
          · exact le_refl_of_number (number_of_nonneg nonneg')
          · exact (first later mem).1
        refine ⟨float_le_trans (float_le_of_lt before) after, fun same => ?_⟩
        exact absurd (float_le_trans after same) (float_not_le_of_lt before)
      · rename_i after
        refine List.pairwise_cons.mpr ⟨?_, hypothesis nonnegs last others⟩
        intro later mem
        rcases List.mem_cons.mp ((insertTimer_perm entry rest).mem_iff.mp mem) with rfl | mem
        · exact ⟨float_le_of_not_lt (number_of_nonneg nonneg) (number_of_nonneg nonneg') after,
            fun _ => earlier⟩
        · exact first later mem

/-! ## Steps that keep time -/

/-- The next step cancels nothing and does not wait for less than no time. -/
def Engine.KeepsTime : Engine ε ω → Prop
  | ⟨_, _, .script (.cancel :: _) :: _⟩ => False
  | ⟨_, _, .script (.later seconds _ :: _) :: _⟩ => 0 ≤ seconds
  | _ => True

/-- The timer that is set with the next step: it is due so many seconds from now. -/
def Engine.sets? : Engine ε ω → Option (Timer ε)
  | ⟨queue, _, .script (.later seconds callback :: _) :: _⟩ => some ⟨queue.now + seconds, callback⟩
  | _ => none

/-- Everything that a step which keeps time can do to the timers. -/
inductive Timing (engine : Engine ε ω) (ledger : Ledger ε) :
    List (Note ε) → Float → Ledger ε → Prop where
  | pass {notes : List (Note ε)} {now : Float} {next : Ledger ε}
      (registered : timersIn (registeredIn notes) = []) (begun : timersIn (begunIn notes) = [])
      (issued : ledger.issued ≤ next.issued) (timers : next.timers = ledger.timers) :
      Timing engine ledger notes now next
  | set {timer : Timer ε} (sets : engine.sets? = some timer)
      (ahead : engine.queue.now ≤ timer.due) :
      Timing engine ledger [.registered ⟨ledger.issued, .timer timer⟩] engine.queue.now
        (ledger.addTimer timer)
  | fire {entry : Entry (Timer ε)} {timers : List (Entry (Timer ε))}
      {batches : List (List (Entry (Script ε)))} {depth : Nat} {now : Float}
      (first : ledger.timers = entry :: timers) (due : entry.item.due ≤ now) :
      Timing engine ledger [.begun entry.asTimer depth now] now { ledger with timers, batches }

section

variable {apply : ε → ExceptT φ (StateM ω) Unit} {engine after : Engine ε ω}
  {ledger : Ledger ε} {events : List (Event ε)}

/--
A step takes time as it should.  However long a wait is, its sum with the time
is not rounded below the time, so that no timer is due before it is registered.
-/
theorem Ledger.Fits.timing (fits : ledger.Fits engine)
    (moved : Engine.Transition apply engine events after) (keeps : engine.KeepsTime)
    (clock : 0 ≤ engine.queue.now) :
    Timing engine ledger (engine.record ledger).1 after.queue.now (engine.record ledger).2 := by
  obtain ⟨tasks, frames, timers, batches⟩ := fits
  cases moved with
  | leave | effect | finish | film | drain | tick => exact .pass rfl rfl (le_refl _) rfl
  | submit | nextFrame => exact .pass rfl rfl (Nat.le_succ _) rfl
  | later => exact .set rfl (float_le_add clock keeps)
  | cancel => exact keeps.elim
  | @pumped queue world stack nothing =>
      have nothing : queue.busy = true ∨ ledger.tasks = [] :=
        nothing.imp_right fun none => List.map_eq_nil_iff.mp (tasks.trans none)
      rw [Engine.record_pumped nothing]
      exact .pass rfl rfl (le_refl _) rfl
  | start free waiting =>
      obtain ⟨entry, rest, first, -, -⟩ := List.map_eq_cons_iff.mp (tasks.trans waiting)
      rw [Engine.record_start free first]
      exact .pass rfl rfl (le_refl _) rfl
  | frame =>
      obtain ⟨batch, rest, first, taken, -⟩ := List.map_eq_cons_iff.mp batches
      obtain ⟨entry, batch, rfl, -, -⟩ := List.map_eq_cons_iff.mp taken
      rw [Engine.record_frame first]
      exact .pass rfl rfl (le_refl _) rfl
  | ticked nothing =>
      rw [Engine.record_ticked (early_of_timers timers nothing)]
      exact .pass rfl rfl (le_refl _) rfl
  | fire first due =>
      obtain ⟨entry, rest, waiting, rfl, -⟩ := List.map_eq_cons_iff.mp (timers.trans first)
      rw [Engine.record_fire waiting due]
      exact .fire waiting due
  | drained idle =>
      rw [Engine.record_drained idle]
      exact .pass rfl rfl (le_refl _) rfl
  | drainFrames working waiting =>
      rw [Engine.record_drainFrames working waiting]
      exact .pass rfl rfl (le_refl _) rfl
  | drainTimer working none first due =>
      obtain ⟨entry, rest, waiting, rfl, -⟩ := List.map_eq_cons_iff.mp (timers.trans first)
      have empty : ledger.frames = [] := List.map_eq_nil_iff.mp (frames.trans none)
      rw [Engine.record_drainTimer working none empty first waiting due]
      exact .fire waiting due

end

/-- A step that registers a timer sets it. -/
theorem Timing.set_of_registered {engine : Engine ε ω} {ledger next : Ledger ε}
    {notes : List (Note ε)} {now : Float} (timing : Timing engine ledger notes now next)
    {entry : Entry (Timer ε)} (mem : entry ∈ timersIn (registeredIn notes)) :
    notes = [.registered entry.asTimer] ∧ engine.sets? = some entry.item ∧
      entry.number = ledger.issued := by
  cases timing with
  | pass registered =>
      rw [registered] at mem
      cases mem
  | set sets =>
      cases List.mem_singleton.mp mem
      exact ⟨rfl, sets, rfl⟩
  | fire => cases mem

/-! ## What runs that keep time keep -/

/--
Of all timers that were registered, those that have gone off were due, and
those that wait come after them.
-/
structure Punctual (notes : List (Note ε)) (now : Float) (ledger : Ledger ε) : Prop where
  clock : 0 ≤ now
  account : (timersIn (registeredIn notes)).Perm (timersIn (begunIn notes) ++ ledger.timers)
  order : (timersIn (begunIn notes) ++ ledger.timers).Pairwise Entry.Before
  due : ∀ entry ∈ timersIn (begunIn notes), entry.item.due ≤ now
  waiting : ∀ entry ∈ ledger.timers, 0 ≤ entry.item.due
  issued : ∀ entry ∈ timersIn (begunIn notes) ++ ledger.timers, entry.number < ledger.issued

namespace Punctual

variable {notes more : List (Note ε)} {now time : Float} {ledger next : Ledger ε}

theorem empty : Punctual ([] : List (Note ε)) 0 .empty where
  clock := le_refl_of_number rfl
  account := .nil
  order := .nil
  due := List.forall_mem_nil _
  waiting := List.forall_mem_nil _
  issued := List.forall_mem_nil _

/--
A new timer is due no earlier than any that has gone off.  What has gone off
was due by now, and the new timer is not due before now.
-/
theorem set (punctual : Punctual notes now ledger) {timer : Timer ε} (later : now ≤ timer.due) :
    Punctual (notes ++ [.registered ⟨ledger.issued, .timer timer⟩]) now
      (ledger.addTimer timer) := by
  obtain ⟨clock, account, order, due, waiting, issued⟩ := punctual
  have inserted := Ledger.insertTimer_perm ⟨ledger.issued, timer⟩ ledger.timers
  have begun : timersIn (begunIn (notes ++ [.registered ⟨ledger.issued, .timer timer⟩])) =
      timersIn (begunIn notes) := by
    rw [begunIn_append, timersIn_append]
    exact List.append_nil _
  have all : (timersIn (begunIn notes) ++ (ledger.addTimer timer).timers).Perm
      (⟨ledger.issued, timer⟩ :: (timersIn (begunIn notes) ++ ledger.timers)) :=
    (inserted.append_left _).trans List.perm_middle
  obtain ⟨gone, wait, apart⟩ := List.pairwise_append.mp order
  obtain ⟨issuedGone, issuedWait⟩ := List.forall_mem_append.mp issued
  have nonneg : 0 ≤ timer.due := float_le_trans clock later
  refine ⟨clock, ?_, ?_, ?_, ?_, ?_⟩
  · rw [registeredIn_append, timersIn_append, begun]
    refine (List.perm_append_comm.trans ?_).trans all.symm
    exact account.cons _
  · rw [begun]
    refine List.pairwise_append.mpr ⟨gone, ?_, ?_⟩
    · exact Ledger.insertTimer_ordered nonneg waiting issuedWait wait
    · intro first mem second mem'
      rcases List.mem_cons.mp (inserted.mem_iff.mp mem') with rfl | mem'
      · exact ⟨float_le_trans (due first mem) later, fun _ => issuedGone first mem⟩
      · exact apart first mem second mem'
  · rwa [begun]
  · intro entry mem
    rcases List.mem_cons.mp (inserted.mem_iff.mp mem) with rfl | mem
    · exact nonneg
    · exact waiting entry mem
  · intro entry mem
    rw [begun] at mem
    rcases List.mem_cons.mp (all.mem_iff.mp mem) with rfl | mem
    · exact Nat.lt_succ_self _
    · exact (issued entry mem).trans (Nat.lt_succ_self _)

/-- The first timer that waits goes off, when it is due. -/
theorem fire (punctual : Punctual notes now ledger) {entry : Entry (Timer ε)}
    {timers : List (Entry (Timer ε))} {batches : List (List (Entry (Script ε)))} {depth : Nat}
    (first : ledger.timers = entry :: timers) (later : now ≤ time) (due : entry.item.due ≤ time) :
    Punctual (notes ++ [.begun entry.asTimer depth time]) time
      { ledger with timers, batches } := by
  have registered : timersIn (registeredIn (notes ++ [.begun entry.asTimer depth time])) =
      timersIn (registeredIn notes) := by
    rw [registeredIn_append, timersIn_append]
    exact List.append_nil _
  have begun : timersIn (begunIn (notes ++ [.begun entry.asTimer depth time])) =
      timersIn (begunIn notes) ++ [entry] := by
    rw [begunIn_append, timersIn_append]
    rfl
  have same : timersIn (begunIn notes) ++ [entry] ++ timers =
      timersIn (begunIn notes) ++ ledger.timers := by
    rw [first, List.append_assoc, List.singleton_append]
  have waiting := punctual.waiting
  rw [first] at waiting
  refine ⟨float_le_trans punctual.clock later, ?_, ?_, ?_, ?_, ?_⟩
  · rw [registered, begun, same]
    exact punctual.account
  · rw [begun, same]
    exact punctual.order
  · rw [begun]
    refine List.forall_mem_append.mpr ⟨?_, List.forall_mem_singleton.mpr due⟩
    intro gone mem
    exact float_le_trans (punctual.due gone mem) later
  · exact (List.forall_mem_cons.mp waiting).2
  · rw [begun, same]
    exact punctual.issued

/--
Timers that went off in time so far still have after a step.  What has gone off
was due by now, and a new timer is not due before now.
-/
theorem step {engine : Engine ε ω} (punctual : Punctual notes engine.queue.now ledger)
    (later : engine.queue.now ≤ time) (timing : Timing engine ledger more time next) :
    Punctual (notes ++ more) time next := by
  cases timing with
  | pass registered begun issued timers =>
      have registered :
          timersIn (registeredIn (notes ++ more)) = timersIn (registeredIn notes) := by
        rw [registeredIn_append, timersIn_append, registered, List.append_nil]
      have begun : timersIn (begunIn (notes ++ more)) = timersIn (begunIn notes) := by
        rw [begunIn_append, timersIn_append, begun, List.append_nil]
      refine ⟨float_le_trans punctual.clock later, ?_, ?_, ?_, ?_, ?_⟩
      · rw [registered, begun, timers]
        exact punctual.account
      · rw [begun, timers]
        exact punctual.order
      · rw [begun]
        intro gone mem
        exact float_le_trans (punctual.due gone mem) later
      · rw [timers]
        exact punctual.waiting
      · rw [begun, timers]
        intro entry mem
        exact (punctual.issued entry mem).trans_le issued
  | set sets ahead => exact punctual.set ahead
  | fire first due => exact punctual.fire first later due

/-- If the first timer is not due, none is. -/
theorem gone_of_due (punctual : Punctual notes now ledger)
    (nothing : ∀ entry ∈ ledger.timers.head?, ¬ entry.item.due ≤ now) {entry : Entry (Timer ε)}
    (registered : entry ∈ timersIn (registeredIn notes)) (due : entry.item.due ≤ now) :
    entry ∈ timersIn (begunIn notes) := by
  rcases List.mem_append.mp (punctual.account.mem_iff.mp registered) with gone | waits
  · exact gone
  · obtain ⟨-, order, -⟩ := List.pairwise_append.mp punctual.order
    cases timers : ledger.timers with
    | nil =>
        rw [timers] at waits
        cases waits
    | cons first rest =>
        rw [timers] at waits order
        have early := nothing first (by rw [timers]; rfl)
        rcases List.mem_cons.mp waits with rfl | mem
        · exact absurd due early
        · have before := (List.pairwise_cons.mp order).1 entry mem
          exact absurd (float_le_trans before.1 due) early

end Punctual

/-- The moments of a run in which every step keeps time, each with its record. -/
inductive Timely (apply : ε → ExceptT φ (StateM ω) Unit) (start : Engine ε ω)
    (ledger : Ledger ε) : List (Note ε) → Engine ε ω → Ledger ε → Prop where
  | start : Timely apply start ledger [] start ledger
  | call {notes : List (Note ε)} {queue : Queue ε} {world : ω} {current : Ledger ε}
      (timely : Timely apply start ledger notes ⟨queue, world, []⟩ current) (script : Script ε) :
      Timely apply start ledger notes ⟨queue, world, [.script script]⟩ current
  | next {notes : List (Note ε)} {engine after : Engine ε ω} {current : Ledger ε}
      (timely : Timely apply start ledger notes engine current) (keeps : engine.KeepsTime)
      (taken : engine.step apply = .next after) :
      Timely apply start ledger (notes ++ (engine.record current).1) after
        (engine.record current).2
  | failed {notes : List (Note ε)} {engine : Engine ε ω} {current : Ledger ε}
      {trouble : Trouble φ} {queue : Queue ε} {world : ω}
      (timely : Timely apply start ledger notes engine current)
      (taken : engine.step apply = .failed trouble queue world) :
      Timely apply start ledger (notes ++ [.failed]) ⟨queue, world, []⟩ current.abandon

namespace Timely

variable {apply : ε → ExceptT φ (StateM ω) Unit} {start middle engine : Engine ε ω}
  {first ledger current : Ledger ε} {past notes : List (Note ε)}

theorem recorded (timely : Timely apply start ledger notes engine current) :
    Recorded apply start ledger notes engine current := by
  induction timely with
  | start => exact .start
  | call _ script before => exact before.call script
  | next _ _ taken before => exact before.next taken
  | failed _ taken before => exact before.failed taken

/-- What is timely may be followed by what is timely from there. -/
theorem trans (reached : Timely apply start first past middle ledger)
    (timely : Timely apply middle ledger notes engine current) :
    Timely apply start first (past ++ notes) engine current := by
  induction timely with
  | start =>
      rw [List.append_nil]
      exact reached
  | call _ script before => exact before.call script
  | next _ keeps taken before =>
      rw [← List.append_assoc]
      exact before.next keeps taken
  | failed _ taken before =>
      rw [← List.append_assoc]
      exact before.failed taken

/-- The clock goes on, and timers stay punctual. -/
theorem punctual (timely : Timely apply start ledger notes engine current)
    (fits : ledger.Fits start) (starts : Punctual past start.queue.now ledger) :
    start.queue.now ≤ engine.queue.now ∧ Punctual (past ++ notes) engine.queue.now current := by
  induction timely with
  | start =>
      rw [List.append_nil]
      exact ⟨le_refl_of_number (number_of_nonneg starts.clock), starts⟩
  | call _ _ before => exact before
  | next timely keeps taken before =>
      obtain ⟨later, punctual⟩ := before
      have moved := Engine.transition_of_step taken
      have onward := (moved.clock (number_of_nonneg punctual.clock)).2
      have timing := (timely.recorded.fits fits).timing moved keeps punctual.clock
      rw [← List.append_assoc]
      exact ⟨float_le_trans later onward, punctual.step onward timing⟩
  | failed _ taken before =>
      obtain ⟨later, punctual⟩ := before
      obtain ⟨rfl, -⟩ := Engine.of_failed taken
      have still := le_refl_of_number (number_of_nonneg punctual.clock)
      rw [← List.append_assoc]
      exact ⟨later, punctual.step still (.pass rfl rfl (le_refl _) rfl)⟩

/-- Every timer was set at some moment of the run. -/
theorem set_at (timely : Timely apply start ledger notes engine current)
    (fits : ledger.Fits start) (starts : Punctual past start.queue.now ledger)
    {entry : Entry (Timer ε)} (registered : entry ∈ timersIn (registeredIn notes)) :
    ∃ earlier later setting before, notes = earlier ++ .registered entry.asTimer :: later ∧
      Timely apply start ledger earlier setting before ∧ setting.sets? = some entry.item ∧
      entry.number = before.issued := by
  induction timely with
  | start => cases registered
  | call _ _ hypothesis => exact hypothesis registered
  | next timely keeps taken hypothesis =>
      rw [registeredIn_append, timersIn_append, List.mem_append] at registered
      rcases registered with old | new
      · obtain ⟨earlier, later, setting, before, rfl, set⟩ := hypothesis old
        exact ⟨earlier, _, setting, before, List.append_assoc _ _ _, set⟩
      · have clock := (timely.punctual fits starts).2.clock
        have timing := (timely.recorded.fits fits).timing (Engine.transition_of_step taken) keeps
          clock
        obtain ⟨alone, set⟩ := timing.set_of_registered new
        rw [alone]
        exact ⟨_, [], _, _, rfl, timely, set⟩
  | failed _ _ hypothesis =>
      rw [registeredIn_append, timersIn_append, List.mem_append] at registered
      rcases registered with old | new
      · obtain ⟨earlier, later, setting, before, rfl, set⟩ := hypothesis old
        exact ⟨earlier, _, setting, before, List.append_assoc _ _ _, set⟩
      · cases new

end Timely

/-- Nothing is begun twice. -/
theorem Recorded.begun_once {apply : ε → ExceptT φ (StateM ω) Unit} {world : ω}
    {engine : Engine ε ω} {current : Ledger ε} {notes : List (Note ε)}
    (recorded : Recorded apply ⟨.empty, world, []⟩ .empty notes engine current) :
    ((begunIn notes).map Entry.number).Nodup := by
  have conserved := recorded.conserved Ledger.fits_empty
  rw [Ledger.content_empty, add_zero] at conserved
  have begun := (Multiset.le_add_right _ _).trans conserved
  have once : ((registeredIn notes).map Entry.number).Nodup := by
    have numbered := recorded.numbered Ledger.fits_empty
    rw [← List.nil_append (List.map _ _)]
    exact numbered ▸ List.nodup_range
  exact Multiset.coe_nodup.mp
    (Multiset.nodup_of_le (Multiset.map_le_map begun) (Multiset.coe_nodup.mpr once))

/-- No timer is due when a tick is over. -/
theorem Ticking.nothing_due {frames : List (Entry (Script ε))} {base : List (Activity ε)}
    {begun : List (Entry (Item ε))} {engine : Engine ε ω} {ledger : Ledger ε}
    (ticking : Ticking frames base begun engine ledger) (ended : engine.stack = base) :
    ∀ timer ∈ engine.queue.timers.head?, ¬ timer.due ≤ engine.queue.now := by
  cases ticking with
  | underway stack =>
      have longer := stack.length_le
      rw [ended, List.length_cons] at longer
      omega
  | ended _ _ nothing => exact nothing

/--
In a run that keeps time the clock never goes back.  At every moment, and so
also right when it goes off, the clock has reached the time of every timer
that has gone off, and this is the time for which it was set.  Nothing goes
off twice.  When a tick is over, every timer that has come due has gone off.
And timers go off in the order of their times, those for the same time in the
order in which they were set, in which they are numbered.
-/
theorem timers_fire_on_time_in_order (apply : ε → ExceptT φ (StateM ω) Unit) (world : ω)
    (past notes : List (Note ε)) (middle engine : Engine ε ω) (ledger current : Ledger ε)
    (reached : Timely apply ⟨.empty, world, []⟩ .empty past middle ledger)
    (goesOn : Timely apply middle ledger notes engine current) :
    middle.queue.now ≤ engine.queue.now ∧
      (∀ timer ∈ timersIn (registeredIn notes), ∃ earlier later setting before,
        notes = earlier ++ .registered timer.asTimer :: later ∧
          Timely apply middle ledger earlier setting before ∧
          setting.sets? = some timer.item ∧ timer.number = before.issued) ∧
      (∀ timer ∈ timersIn (begunIn notes), timer.item.due ≤ engine.queue.now) ∧
      ((begunIn (past ++ notes)).map Entry.number).Nodup ∧
      (∀ base, During apply middle ledger base notes engine current → engine.stack = base →
        ∀ timer ∈ timersIn (registeredIn (past ++ notes)), timer.item.due ≤ engine.queue.now →
          timer ∈ timersIn (begunIn (past ++ notes))) ∧
      (registeredIn (past ++ notes)).map Entry.number = List.range current.issued ∧
      (timersIn (begunIn (past ++ notes))).Pairwise Entry.Before := by
  have fits := reached.recorded.fits Ledger.fits_empty
  have before := (reached.punctual Ledger.fits_empty .empty).2
  obtain ⟨later, punctual⟩ := goesOn.punctual fits before
  have whole := (reached.trans goesOn).recorded
  have numbered := whole.numbered Ledger.fits_empty
  refine ⟨later, fun timer registered => goesOn.set_at fits before registered, ?_,
    whole.begun_once, ?_, (List.nil_append _).symm.trans numbered,
    (List.pairwise_append.mp punctual.order).1⟩
  · intro timer begun
    refine punctual.due timer ?_
    rw [List.nil_append, begunIn_append, timersIn_append]
    exact List.mem_append_right _ begun
  · intro base during ended timer registered due
    have nothing := (during.ticking fits).1.nothing_due ended
    have early := Ledger.early_of_timers (goesOn.recorded.fits fits).timers nothing
    exact punctual.gone_of_due early registered due

/-- A bell was set for 2; the clock stands at 1, and the queue is about to tick. -/
def lastBell : Engine Nat Unit :=
  ⟨⟨1, [], false, [], [⟨2, [.effect 0]⟩]⟩, (), [.script [.tick 2]]⟩

/-- What has been entered before the last bell: a bell that was set later rang, and set another. -/
def lastBellNotes : List (Note Nat) :=
  [.registered ⟨0, .timer ⟨2, [.effect 0]⟩⟩, .registered ⟨1, .timer ⟨1, [.later 0 [.effect 2]]⟩⟩,
    .begun ⟨1, .timer ⟨1, [.later 0 [.effect 2]]⟩⟩ 1 1, .registered ⟨2, .timer ⟨1, [.effect 2]⟩⟩,
    .begun ⟨2, .timer ⟨1, [.effect 2]⟩⟩ 1 1]

/-- On the way to the last bell, a tick tells the clock to go back. -/
theorem lastBell_timely :
    Timely unseen ⟨.empty, (), []⟩ .empty lastBellNotes lastBell
      ⟨3, [], [], [⟨0, ⟨2, [.effect 0]⟩⟩], []⟩ := by
  have fresh : Timely unseen ⟨.empty, (), []⟩ .empty [] ⟨.empty, (), []⟩ .empty := .start
  have first := ((fresh.call [.later 2 [.effect 0]]).next rfl rfl).next trivial rfl
  have second := ((first.call [.later 1 [.later 0 [.effect 2]]]).next rfl rfl).next trivial rfl
  have rung := (((second.call [.tick 1]).next trivial rfl).next trivial rfl).next rfl rfl
  have again := ((rung.next trivial rfl).next trivial rfl).next trivial rfl
  have silent := ((again.next trivial rfl).next trivial rfl).next trivial rfl
  have back := (((silent.call [.tick 0]).next trivial rfl).next trivial rfl).next trivial rfl
  exact back.call [.tick 2]

/-- The bell that was set first rings last, and no bell is left out. -/
theorem lastBell_rings_in_order : ∃ notes engine current,
    Timely unseen lastBell ⟨3, [], [], [⟨0, ⟨2, [.effect 0]⟩⟩], []⟩ notes engine current ∧
      (timersIn (begunIn (lastBellNotes ++ notes))).map Entry.number = [1, 2, 0] ∧
      (timersIn (begunIn (lastBellNotes ++ notes))).Pairwise Entry.Before ∧
      ∀ timer ∈ timersIn (registeredIn (lastBellNotes ++ notes)),
        timer.item.due ≤ engine.queue.now →
          timer ∈ timersIn (begunIn (lastBellNotes ++ notes)) := by
  have fresh : Timely unseen lastBell ⟨3, [], [], [⟨0, ⟨2, [.effect 0]⟩⟩], []⟩ [] lastBell
    ⟨3, [], [], [⟨0, ⟨2, [.effect 0]⟩⟩], []⟩ := .start
  have rung := ((fresh.next trivial rfl).next trivial rfl).next trivial rfl
  have goesOn := (rung.next trivial rfl).next trivial rfl
  have started : During unseen lastBell ⟨3, [], [], [⟨0, ⟨2, [.effect 0]⟩⟩], []⟩ [.script []]
    _ _ _ := .first .call rfl
  have ended := (((started.next nofun rfl).next nofun rfl).next nofun rfl).next nofun rfl
  obtain ⟨-, -, -, -, all, -, order⟩ :=
    timers_fire_on_time_in_order unseen () _ _ _ _ _ _ lastBell_timely goesOn
  exact ⟨_, _, _, goesOn, rfl, order, all _ ended rfl⟩

end Logo.Animation
