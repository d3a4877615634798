import Logo.Proofs.Animation.Ledger

/-!
# What a tick runs

A tick takes out what waits for the frame before it begins any of it.  So
what is registered for a frame while the tick is under way waits for another
one.  Timers are not taken out: the tick begins the first of them for as long
as it has come due, whenever it was registered.

Scripts that a tick runs may tick or drain the queue themselves.  What such a
tick begins is told apart by how much is below it on the stack.
-/

namespace Logo.Animation

variable {ε ω φ : Type}

/-- What a loop with so many activities below it on the stack begins with a step. -/
def Note.begunAt? (depth : Nat) : Note ε → Option (Entry (Item ε))
  | .begun entry place _ => if place = depth then some entry else none
  | .registered _ | .failed => none

@[simp]
def Item.isFrame : Item ε → Bool
  | .frame _ => true
  | .task _ | .timer _ => false

/-- The scripts for a frame that such a loop has begun, in order. -/
def framesBegunAt (depth : Nat) (notes : List (Note ε)) : List (Entry (Item ε)) :=
  (notes.filterMap (Note.begunAt? depth)).filter (·.item.isFrame)

@[simp]
theorem framesBegunAt_append (depth : Nat) (notes more : List (Note ε)) :
    framesBegunAt depth (notes ++ more) =
      framesBegunAt depth notes ++ framesBegunAt depth more := by
  simp only [framesBegunAt, List.filterMap_append, List.filter_append]

theorem framesBegunAt_frame (entry : Entry (Script ε)) (depth : Nat) (now : Float) :
    framesBegunAt depth [.begun entry.asFrame depth now] = [entry.asFrame] := by
  simp [framesBegunAt, Note.begunAt?, Entry.asFrame]

theorem framesBegunAt_timer (entry : Entry (Timer ε)) (depth : Nat) (now : Float) :
    framesBegunAt depth [.begun entry.asTimer depth now] = [] := by
  simp [framesBegunAt, Note.begunAt?, Entry.asTimer]

/-- Where nothing is begun at a depth, no frame is. -/
theorem framesBegunAt_eq_nil {depth : Nat} {notes : List (Note ε)}
    (none : ∀ note ∈ notes, ∀ entry now, note ≠ .begun entry depth now) :
    framesBegunAt depth notes = [] := by
  have nothing : notes.filterMap (Note.begunAt? depth) = [] := by
    rw [List.filterMap_eq_nil_iff]
    intro note noted
    cases note with
    | begun entry place now =>
        rw [Note.begunAt?, if_neg]
        rintro rfl
        exact none _ noted entry now rfl
    | registered | failed => rfl
  rw [framesBegunAt, nothing, List.filter_nil]

/-- An engine that ticks with its next step, and what is on its stack when the tick is over. -/
inductive Engine.StartsTick : Engine ε ω → List (Activity ε) → Prop where
  | call {queue : Queue ε} {world : ω} {now : Float} {rest : Script ε}
      {stack : List (Activity ε)} :
      StartsTick ⟨queue, world, .script (.tick now :: rest) :: stack⟩ (.script rest :: stack)
  | drain {queue : Queue ε} {world : ω} {stack : List (Activity ε)}
      (working : queue.isIdle = false) :
      StartsTick ⟨queue, world, .drain :: stack⟩ (.drain :: stack)

/-- The moments of a tick, each with what has been entered in the ledger since it started. -/
inductive During (apply : ε → ExceptT φ (StateM ω) Unit) (start : Engine ε ω) (ledger : Ledger ε)
    (base : List (Activity ε)) : List (Note ε) → Engine ε ω → Ledger ε → Prop where
  | first {engine : Engine ε ω} (starts : start.StartsTick base)
      (taken : start.step apply = .next engine) :
      During apply start ledger base (start.record ledger).1 engine (start.record ledger).2
  | next {notes : List (Note ε)} {engine after : Engine ε ω} {current : Ledger ε}
      (during : During apply start ledger base notes engine current)
      (under : engine.stack ≠ base) (taken : engine.step apply = .next after) :
      During apply start ledger base (notes ++ (engine.record current).1) after
        (engine.record current).2

/-- What is noted during a tick is part of the record. -/
theorem During.recorded {apply : ε → ExceptT φ (StateM ω) Unit} {start engine : Engine ε ω}
    {ledger current : Ledger ε} {base : List (Activity ε)} {notes : List (Note ε)}
    (during : During apply start ledger base notes engine current) :
    Recorded apply start ledger notes engine current := by
  induction during with
  | first _ taken => exact Recorded.start.next taken
  | next _ _ taken recorded => exact recorded.next taken

/-! ## What happens above a tick on the stack -/

theorem framesOf_append (above below : List (Activity ε)) :
    framesOf (above ++ below) = framesOf above ++ framesOf below := by
  induction above with
  | nil => rfl
  | cons activity above hypothesis =>
      cases activity with
      | tick frames => exact congrArg (frames :: ·) hypothesis
      | _ => exact hypothesis

namespace Ledger

variable {ledger : Ledger ε} {entry : Entry (Item ε)} {depth place : Nat} {now time : Float}

theorem depth_of_beginTask (begun : .begun entry depth now ∈ (ledger.beginTask place time).1) :
    depth = place := by
  unfold beginTask at begun
  split at begun
  · cases begun
  · cases List.mem_singleton.mp begun
    rfl

theorem depth_of_beginFrame (begun : .begun entry depth now ∈ (ledger.beginFrame place time).1) :
    depth = place := by
  unfold beginFrame at begun
  split at begun
  · cases List.mem_singleton.mp begun
    rfl
  · cases begun

theorem depth_of_beginTimer (begun : .begun entry depth now ∈ (ledger.beginTimer place time).1) :
    depth = place := by
  unfold beginTimer at begun
  split at begun
  · cases begun
  · split at begun
    · cases List.mem_singleton.mp begun
      rfl
    · cases begun

theorem batches_beginTask (ledger : Ledger ε) (place : Nat) (time : Float) :
    (ledger.beginTask place time).2.batches = ledger.batches := by
  unfold beginTask
  split
  · rfl
  · rfl

/-- A tick that begins timers gives up its own batch at most. -/
theorem tail_suffix_beginTimer (ledger : Ledger ε) (place : Nat) (time : Float) :
    ledger.batches.tail <:+ (ledger.beginTimer place time).2.batches := by
  unfold beginTimer
  split
  · exact List.suffix_rfl
  · split
    · exact List.tail_suffix _
    · exact List.suffix_rfl

end Ledger

section

variable {queue : Queue ε} {world : ω} {activity : Activity ε} {stack : List (Activity ε)}
  {ledger : Ledger ε}

/-- A loop is as deep as what is below it on the stack. -/
theorem Engine.le_depth_of_record {entry : Entry (Item ε)} {depth : Nat} {now : Float}
    (begun : .begun entry depth now ∈ (record ⟨queue, world, activity :: stack⟩ ledger).1) :
    stack.length ≤ depth := by
  cases activity with
  | script rest =>
      cases rest with
      | nil => cases begun
      | cons action rest => cases action <;> simp [record] at begun
  | pump =>
      simp only [record] at begun
      split at begun
      · cases begun
      · exact (Ledger.depth_of_beginTask begun).ge
  | tick frames =>
      cases frames with
      | nil => exact (Ledger.depth_of_beginTimer begun).ge
      | cons frame frames => exact (Ledger.depth_of_beginFrame begun).ge
  | drain =>
      simp only [record] at begun
      split at begun
      · cases begun
      · split at begun
        · rw [Ledger.depth_of_beginTimer begun]
          exact Nat.le_succ _
        · cases begun

/-- The batches of the ticks below the top of the stack stay as they are. -/
theorem Ledger.Fits.kept_below {batches : List (List (Entry (Script ε)))}
    (fits : ledger.Fits ⟨queue, world, activity :: stack⟩)
    (below : batches <:+ ledger.batches) (few : batches.length ≤ (framesOf stack).length) :
    batches <:+ (Engine.record ⟨queue, world, activity :: stack⟩ ledger).2.batches := by
  cases activity with
  | script rest =>
      cases rest with
      | nil => exact below
      | cons action rest =>
          cases action with
          | tick now => exact below.trans (List.suffix_cons _ _)
          | _ => exact below
  | pump =>
      simp only [Engine.record]
      split
      · exact below
      · rw [batches_beginTask]
        exact below
  | tick frames =>
      obtain ⟨batch, rest, first, taken, rest_eq⟩ := List.map_eq_cons_iff.mp fits.batches
      have below : batches <:+ rest := by
        rw [first] at below
        rcases List.suffix_cons_iff.mp below with rfl | below
        · rw [← rest_eq, List.length_map, List.length_cons] at few
          omega
        · exact below
      cases frames with
      | nil =>
          refine below.trans ?_
          have tail := ledger.tail_suffix_beginTimer stack.length queue.now
          rw [first] at tail
          exact tail
      | cons frame frames =>
          obtain ⟨entry, batch, rfl, -, -⟩ := List.map_eq_cons_iff.mp taken
          rw [Engine.record_frame first]
          exact below.trans (List.suffix_cons _ _)
  | drain =>
      simp only [Engine.record]
      split
      · exact below
      · split
        · exact below.trans (ledger.detach.tail_suffix_beginTimer _ _)
        · exact below.trans (List.suffix_cons _ _)

end

/-! ## How far a tick has come -/

/--
A tick that took out some frames either has begun some of them and holds the
others, or it is over, has begun them all, and has left no timer that is due.
-/
inductive Ticking (frames : List (Entry (Script ε))) (base : List (Activity ε))
    (begun : List (Entry (Item ε))) (engine : Engine ε ω) (ledger : Ledger ε) : Prop where
  | underway {left : List (Script ε)} {batch : List (Entry (Script ε))}
      {others : List (List (Entry (Script ε)))}
      (stack : .tick left :: base <:+ engine.stack) (batches : batch :: others <:+ ledger.batches)
      (below : others.length = (framesOf base).length)
      (split : begun ++ batch.map Entry.asFrame = frames.map Entry.asFrame)
  | ended (stack : engine.stack = base) (all : begun = frames.map Entry.asFrame)
      (nothing : ∀ timer ∈ engine.queue.timers.head?, ¬ timer.due ≤ engine.queue.now)

/-- What a tick itself begins: frames that it took out, and timers that have come due. -/
def Note.IsOwn (frames : List (Entry (Script ε))) (depth : Nat) (note : Note ε) : Prop :=
  ∀ entry now, note = .begun entry depth now →
    entry ∈ frames.map Entry.asFrame ∨ ∃ timer, entry.item = .timer timer ∧ timer.due ≤ now

/-- A step leaves a tick in order, after what the tick has begun before. -/
structure TickStep (frames : List (Entry (Script ε))) (base : List (Activity ε))
    (begun : List (Entry (Item ε))) (entered : List (Note ε) × Ledger ε)
    (after : Engine ε ω) : Prop where
  ticking : Ticking frames base (begun ++ framesBegunAt base.length entered.1) after entered.2
  own : ∀ note ∈ entered.1, note.IsOwn frames base.length

section

variable {apply : ε → ExceptT φ (StateM ω) Unit} {engine after : Engine ε ω} {ledger : Ledger ε}
  {frames : List (Entry (Script ε))} {base : List (Activity ε)} {begun : List (Entry (Item ε))}

/-- While something is above a tick on the stack, the tick does not move. -/
theorem Ticking.step_above {queue : Queue ε} {world : ω} {activity : Activity ε}
    {stack : List (Activity ε)} {left : List (Script ε)} {batch : List (Entry (Script ε))}
    {others : List (List (Entry (Script ε)))}
    (fits : ledger.Fits ⟨queue, world, activity :: stack⟩)
    (taken : Engine.step apply ⟨queue, world, activity :: stack⟩ = .next after)
    (above : .tick left :: base <:+ stack) (batches : batch :: others <:+ ledger.batches)
    (below : others.length = (framesOf base).length)
    (split : begun ++ batch.map Entry.asFrame = frames.map Entry.asFrame) :
    TickStep frames base begun (Engine.record ⟨queue, world, activity :: stack⟩ ledger) after := by
  have few : (batch :: others).length ≤ (framesOf stack).length := by
    obtain ⟨upper, rfl⟩ := above
    simp [framesOf_append, framesOf, below]
  have deep : ∀ note ∈ (Engine.record ⟨queue, world, activity :: stack⟩ ledger).1,
      ∀ entry now, note ≠ .begun entry base.length now := by
    rintro _ noted entry now rfl
    have deeper := Engine.le_depth_of_record noted
    have longer : base.length + 1 ≤ stack.length := above.length_le
    omega
  constructor
  · rw [framesBegunAt_eq_nil deep, List.append_nil]
    have still := above.trans (Engine.step_suffix taken)
    exact .underway still (fits.kept_below batches few) below split
  · intro note noted entry now same
    exact absurd same (deep note noted entry now)

/-- A step of the tick itself begins the next frame or a timer, or ends the tick. -/
theorem Ticking.step_own {queue : Queue ε} {world : ω} {left : List (Script ε)}
    {events : List (Event ε)} {batch : List (Entry (Script ε))}
    {others : List (List (Entry (Script ε)))}
    (fits : ledger.Fits ⟨queue, world, .tick left :: base⟩)
    (moved : Engine.Transition apply ⟨queue, world, .tick left :: base⟩ events after)
    (batches : batch :: others <:+ ledger.batches)
    (below : others.length = (framesOf base).length)
    (split : begun ++ batch.map Entry.asFrame = frames.map Entry.asFrame) :
    TickStep frames base begun (Engine.record ⟨queue, world, .tick left :: base⟩ ledger) after := by
  have whole : batch :: others = ledger.batches := by
    refine batches.eq_of_length ?_
    have count := congrArg List.length fits.batches
    simp only [List.length_map, framesOf, List.length_cons] at count ⊢
    omega
  have held : batch.map Entry.item = left := by
    have same := fits.batches
    rw [← whole] at same
    exact (List.cons.inj same).1
  cases moved with
  | frame =>
      obtain ⟨entry, batch, rfl, -, -⟩ := List.map_eq_cons_iff.mp held
      rw [Engine.record_frame whole.symm]
      refine ⟨.underway (List.suffix_cons _ _) List.suffix_rfl below ?_, ?_⟩
      · rw [framesBegunAt_frame, List.append_assoc]
        exact split
      · rintro _ noted _ _ rfl
        cases List.mem_singleton.mp noted
        left
        rw [← split]
        exact List.mem_append_right _ List.mem_cons_self
  | ticked nothing =>
      cases List.map_eq_nil_iff.mp held
      rw [Engine.record_ticked (Ledger.early_of_timers fits.timers nothing)]
      refine ⟨.ended rfl ?_ nothing, List.forall_mem_nil _⟩
      rw [← split]
      rfl
  | fire first due =>
      obtain ⟨entry, rest, waiting, rfl, -⟩ := List.map_eq_cons_iff.mp (fits.timers.trans first)
      rw [Engine.record_fire waiting due]
      refine ⟨.underway (List.suffix_cons _ _) batches below ?_, ?_⟩
      · rw [framesBegunAt_timer, List.append_nil]
        exact split
      · rintro _ noted _ _ rfl
        cases List.mem_singleton.mp noted
        exact .inr ⟨entry.item, rfl, due⟩

/--
A step of a tick begins the next of its frames, or a timer that has come due,
or works for one of them.
-/
theorem Ticking.step (ticking : Ticking frames base begun engine ledger)
    (under : engine.stack ≠ base) (fits : ledger.Fits engine)
    (taken : engine.step apply = .next after) :
    TickStep frames base begun (engine.record ledger) after := by
  cases ticking with
  | ended stack => exact absurd stack under
  | underway stack batches below split =>
      obtain ⟨queue, world, activities⟩ := engine
      cases activities with
      | nil => cases List.suffix_nil.mp stack
      | cons activity activities =>
          rcases List.suffix_cons_iff.mp stack with same | above
          · cases same
            exact step_own fits (Engine.transition_of_step taken) batches below split
          · exact step_above fits taken above batches below split

/-- A tick starts by taking out what waits for the frame. -/
theorem Ticking.first {events : List (Event ε)} (starts : engine.StartsTick base)
    (fits : ledger.Fits engine) (moved : Engine.Transition apply engine events after) :
    TickStep ledger.frames base [] (engine.record ledger) after := by
  have count : ledger.batches.length = (framesOf engine.stack).length := by
    rw [← fits.batches, List.length_map]
  cases starts with
  | call =>
      cases moved
      exact ⟨.underway List.suffix_rfl List.suffix_rfl count rfl, List.forall_mem_nil _⟩
  | drain working =>
      cases moved with
      | drained idle => cases idle.symm.trans working
      | drainFrames _ waiting =>
          rw [Engine.record_drainFrames working waiting]
          exact ⟨.underway List.suffix_rfl List.suffix_rfl count rfl, List.forall_mem_nil _⟩
      | drainTimer _ none first due =>
          obtain ⟨entry, rest, waiting, rfl, -⟩ :=
            List.map_eq_cons_iff.mp (fits.timers.trans first)
          have empty : ledger.frames = [] := List.map_eq_nil_iff.mp (fits.frames.trans none)
          rw [Engine.record_drainTimer working none empty first waiting due, empty]
          refine ⟨.underway (List.suffix_cons _ _) List.suffix_rfl count ?_, ?_⟩
          · exact (List.append_nil _).trans (framesBegunAt_timer _ _ _)
          · rintro _ noted _ _ rfl
            cases List.mem_singleton.mp noted
            exact .inr ⟨entry.item, rfl, due⟩

end

/-- What holds of a tick from step to step holds until it is over. -/
theorem During.ticking {apply : ε → ExceptT φ (StateM ω) Unit} {start engine : Engine ε ω}
    {ledger current : Ledger ε} {base : List (Activity ε)} {notes : List (Note ε)}
    (during : During apply start ledger base notes engine current) (fits : ledger.Fits start) :
    Ticking ledger.frames base (framesBegunAt base.length notes) engine current ∧
      ∀ note ∈ notes, note.IsOwn ledger.frames base.length := by
  induction during with
  | first starts taken =>
      obtain ⟨ticking, own⟩ := Ticking.first starts fits (Engine.transition_of_step taken)
      exact ⟨ticking, own⟩
  | next during under taken before =>
      obtain ⟨ticking, own⟩ := before.1.step under (during.recorded.fits fits) taken
      rw [framesBegunAt_append]
      refine ⟨ticking, fun note noted => ?_⟩
      rcases List.mem_append.mp noted with noted | noted
      · exact before.2 note noted
      · exact own note noted

/--
The frames that a tick begins are those that waited when it started, in the
order in which they were registered; when it is over, it has begun them all.
What is registered while the tick is under way is begun by it only if it is a
timer that has come due; and a tick is not over while the first timer is due.
-/
theorem tick_begins_frames_before_it (apply : ε → ExceptT φ (StateM ω) Unit) (world : ω)
    (past notes : List (Note ε)) (start engine : Engine ε ω) (ledger current : Ledger ε)
    (base : List (Activity ε))
    (reached : Recorded apply ⟨.empty, world, []⟩ .empty past start ledger)
    (during : During apply start ledger base notes engine current) :
    (∃ left, framesBegunAt base.length notes ++ left = ledger.frames.map Entry.asFrame ∧
        (engine.stack = base → left = [])) ∧
      (ledger.frames.map Entry.asFrame).Sublist (registeredIn past) ∧
      (∀ entry now, .begun entry base.length now ∈ notes → entry ∈ registeredIn notes →
        ∃ timer, entry.item = .timer timer ∧ timer.due ≤ now) ∧
      (engine.stack = base →
        ∀ timer ∈ engine.queue.timers.head?, ¬ timer.due ≤ engine.queue.now) := by
  have fits := reached.fits Ledger.fits_empty
  obtain ⟨ticking, own⟩ := during.ticking fits
  have order := reached.frames_sublist Ledger.fits_empty (List.nil_sublist [])
  have late : ∀ entry now, .begun entry base.length now ∈ notes → entry ∈ registeredIn notes →
      ∃ timer, entry.item = .timer timer ∧ timer.due ≤ now := by
    intro entry now noted registered
    rcases own _ noted entry now rfl with before | timer
    · have old := (reached.lt_issued Ledger.fits_empty (order.mem before)).2
      have new := (during.recorded.lt_issued fits registered).1
      exact absurd old (Nat.not_lt.mpr new)
    · exact timer
  cases ticking with
  | underway stack batches below split =>
      have under : engine.stack ≠ base := by
        intro same
        have longer := stack.length_le
        rw [same, List.length_cons] at longer
        omega
      exact ⟨⟨_, split, fun same => absurd same under⟩, order, late,
        fun same => absurd same under⟩
  | ended stack all nothing =>
      exact ⟨⟨[], by rw [List.append_nil, all], fun _ => rfl⟩, order, late, fun _ => nothing⟩

/-- A script for a frame that asks for another frame. -/
def encore : Script Nat :=
  [.nextFrame [.effect 1]]

/-- The queue is about to tick, with an encore waiting for the frame. -/
def beforeEncore : Engine Nat Unit :=
  ⟨⟨0, [], false, [encore], []⟩, (), [.script [.tick 1]]⟩

/-- What an encore asks for waits for another tick. -/
theorem encore_waits : ∃ notes engine current,
    During unseen beforeEncore ⟨1, [], [⟨0, encore⟩], [], []⟩ [.script []] notes engine current ∧
      engine.stack = [.script []] ∧ ⟨1, .frame [.effect 1]⟩ ∈ registeredIn notes ∧
      framesBegunAt 1 notes = [⟨0, .frame encore⟩] ∧
      ∀ now, .begun ⟨1, .frame [.effect 1]⟩ 1 now ∉ notes := by
  have fresh : Recorded unseen ⟨.empty, (), []⟩ .empty [] ⟨.empty, (), []⟩ .empty := .start
  have reached : Recorded unseen ⟨.empty, (), []⟩ .empty [.registered ⟨0, .frame encore⟩]
      beforeEncore ⟨1, [], [⟨0, encore⟩], [], []⟩ :=
    (((fresh.call [.nextFrame encore]).next rfl).next rfl).call [.tick 1]
  have started : During unseen beforeEncore ⟨1, [], [⟨0, encore⟩], [], []⟩ [.script []] _ _ _ :=
    .first .call rfl
  have ended := (((started.next nofun rfl).next nofun rfl).next nofun rfl).next nofun rfl
  obtain ⟨⟨left, begun, all⟩, -, late, -⟩ :=
    tick_begins_frames_before_it unseen () _ _ _ _ _ _ _ reached ended
  refine ⟨_, _, _, ended, rfl, List.mem_cons_self, ?_, fun now noted => ?_⟩
  · rw [all rfl, List.append_nil] at begun
    exact begun
  · obtain ⟨timer, same, -⟩ := late _ now noted List.mem_cons_self
    cases same

/-- A film is shown to its end with the next tick, and a pause of no time waits behind it. -/
def lastPicture : Engine Nat Unit :=
  ⟨⟨0, [pause 0, job 2], true, [[.film 0 id]], []⟩, (), [.script [.tick 1]]⟩

/-- What has been entered in a ledger before the last picture. -/
def lastPictureNotes : List (Note Nat) :=
  [.registered ⟨0, .task [.film 1 id]⟩, .begun ⟨0, .task [.film 1 id]⟩ 1 0,
    .registered ⟨1, .frame [.film 0 id]⟩, .registered ⟨2, .task (pause 0)⟩,
    .registered ⟨3, .task (job 2)⟩]

/-- The timer of the pause is registered and run by the same tick. -/
theorem pause_over_in_same_tick :
    Recorded unseen ⟨.empty, (), []⟩ .empty lastPictureNotes lastPicture
        ⟨4, [⟨2, pause 0⟩, ⟨3, job 2⟩], [⟨1, [.film 0 id]⟩], [], []⟩ ∧
      ∃ engine current,
        During unseen lastPicture ⟨4, [⟨2, pause 0⟩, ⟨3, job 2⟩], [⟨1, [.film 0 id]⟩], [], []⟩
          [.script []]
          [.begun ⟨1, .frame [.film 0 id]⟩ 1 1, .begun ⟨2, .task (pause 0)⟩ 4 1,
            .registered ⟨4, .timer ⟨1, [.finish]⟩⟩, .begun ⟨4, .timer ⟨1, [.finish]⟩⟩ 1 1]
          engine current := by
  have fresh : Recorded unseen ⟨.empty, (), []⟩ .empty [] ⟨.empty, (), []⟩ .empty := .start
  have shown := ((((fresh.call [.submit [.film 1 id]]).next rfl).next rfl).next rfl).next rfl
  have filmed := ((((shown.next rfl).next rfl).next rfl).next rfl).next rfl
  have paused := (((filmed.call [.submit (pause 0)]).next rfl).next rfl).next rfl
  have waiting := (((paused.call [.submit (job 2)]).next rfl).next rfl).next rfl
  have started : During unseen lastPicture
      ⟨4, [⟨2, pause 0⟩, ⟨3, job 2⟩], [⟨1, [.film 0 id]⟩], [], []⟩ [.script []] _ _ _ :=
    .first .call rfl
  have finished := (((started.next nofun rfl).next nofun rfl).next nofun rfl).next nofun rfl
  have pausing := ((finished.next nofun rfl).next nofun rfl).next nofun rfl
  have idle := ((pausing.next nofun rfl).next nofun rfl).next nofun rfl
  exact ⟨waiting.call [.tick 1], _, _, (idle.next nofun rfl).next nofun rfl⟩

end Logo.Animation
