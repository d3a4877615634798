import Logo.Proofs.Animation.Ledger

/-!
# What a cancel reaches

A cancel drops everything that waits in the queue.  What a tick has taken out
for its frame does not wait in the queue any more, so a cancel that is called
while a tick is under way does not reach the rest of its batch.

The main statement says that this is the only exception.  Of all that was
registered before a cancel, what is begun after it is in the batch of a tick
that was under way; and unless something fails, everything in these batches
is begun.
-/

namespace Logo.Animation

variable {ε ω φ : Type}

/-- The batches of a stack are those of the ticks on it. -/
theorem mem_framesOf {stack : List (Activity ε)} {frames : List (Script ε)} :
    frames ∈ framesOf stack ↔ .tick frames ∈ stack := by
  induction stack with
  | nil => simp [framesOf]
  | cons activity rest hypothesis =>
      cases activity with
      | tick taken => simp [framesOf, hypothesis]
      | _ => simp [framesOf, hypothesis]

/-- Nothing is taken out but by ticks. -/
theorem Ledger.Fits.flatten_eq_nil {ledger : Ledger ε} {engine : Engine ε ω}
    (fits : ledger.Fits engine) (spent : ∀ frames, .tick frames ∈ engine.stack → frames = []) :
    ledger.batches.flatten = [] := by
  rw [List.flatten_eq_nil_iff]
  intro batch mem
  have taken : batch.map Entry.item ∈ framesOf engine.stack :=
    fits.batches ▸ List.mem_map_of_mem mem
  exact List.map_eq_nil_iff.mp (spent _ (mem_framesOf.mp taken))

theorem Ledger.mem_content_of_batches {ledger : Ledger ε} {entry : Entry (Script ε)}
    (taken : entry ∈ ledger.batches.flatten) : entry.asFrame ∈ ledger.content :=
  Multiset.mem_add.mpr (.inr (Multiset.mem_coe.mpr (List.mem_map_of_mem taken)))

/-- What is taken out for a frame is begun, unless a failure ends the tick. -/
theorem Ledger.Move.detached {ledger next : Ledger ε} {notes : List (Note ε)}
    (move : ledger.Move notes next) {entry : Entry (Script ε)}
    (taken : entry ∈ ledger.batches.flatten) :
    .failed ∈ notes ∨ entry.asFrame ∈ begunIn notes ∨ entry ∈ next.batches.flatten := by
  cases move with
  | quiet same => exact .inr (.inr (same ▸ taken))
  | detach => exact .inr (.inr (List.mem_append_right _ taken))
  | fail => exact .inl (List.mem_singleton_self _)
  | beginFrame depth now first =>
      rw [first, List.flatten_cons, List.cons_append, List.mem_cons] at taken
      rcases taken with rfl | taken
      · exact .inr (.inl (List.mem_singleton_self _))
      · exact .inr (.inr taken)
  | beginTimer depth now first same => exact .inr (.inr (same ▸ taken))
  | _ => exact .inr (.inr taken)

namespace Recorded

variable {apply : ε → ExceptT φ (StateM ω) Unit} {start first engine : Engine ε ω}
  {ledger current : Ledger ε} {notes : List (Note ε)}

/-- A record that does not end at once goes on from the first step. -/
theorem head (recorded : Recorded apply start ledger notes engine current)
    (taken : start.step apply = .next first) :
    notes = [] ∧ engine = start ∧ current = ledger ∨
      ∃ rest, notes = (start.record ledger).1 ++ rest ∧
        Recorded apply first (start.record ledger).2 rest engine current := by
  induction recorded with
  | start => exact .inl ⟨rfl, rfl, rfl⟩
  | call _ script before =>
      rcases before with ⟨-, rfl, -⟩ | ⟨rest, rfl, recorded⟩
      · cases taken
      · exact .inr ⟨rest, rfl, recorded.call script⟩
  | next _ stepped before =>
      rcases before with ⟨rfl, rfl, rfl⟩ | ⟨rest, rfl, recorded⟩
      · cases stepped.symm.trans taken
        exact .inr ⟨[], (List.append_nil _).symm, .start⟩
      · exact .inr ⟨_, List.append_assoc _ _ _, recorded.next stepped⟩
  | failed _ failed before =>
      rcases before with ⟨-, rfl, -⟩ | ⟨rest, rfl, recorded⟩
      · cases failed.symm.trans taken
      · exact .inr ⟨_, List.append_assoc _ _ _, recorded.failed failed⟩

/-- A callback in a batch is begun or stays in its batch, unless a failure ends the call. -/
theorem detached (recorded : Recorded apply start ledger notes engine current)
    (fits : ledger.Fits start) {entry : Entry (Script ε)}
    (taken : entry ∈ ledger.batches.flatten) :
    .failed ∈ notes ∨ entry.asFrame ∈ begunIn notes ∨ entry ∈ current.batches.flatten := by
  refine (recorded.invariant (motive := fun notes current =>
    .failed ∈ notes ∨ entry.asFrame ∈ begunIn notes ∨ entry ∈ current.batches.flatten) fits
    (.inr (.inr taken)) ?_).2
  intro notes current more next before move
  rw [begunIn_append, List.mem_append, List.mem_append]
  rcases before with failed | begun | taken
  · exact .inl (.inl failed)
  · exact .inr (.inl (.inl begun))
  · rcases move.detached taken with failed | begun | taken
    · exact .inl (.inr failed)
    · exact .inr (.inl (.inr begun))
    · exact .inr (.inr taken)

end Recorded

/--
Of all that was registered before a cancel, only what ticks had taken out for
their frames is begun after it, so nothing at all if no tick under way has
anything left.  Nor does the cancel stop any of this: unless something fails,
all of it is begun before the call is over.
-/
theorem cancel_spares_detached (apply : ε → ExceptT φ (StateM ω) Unit) (world shown : ω)
    (past future : List (Note ε)) (queue : Queue ε) (rest : Script ε)
    (stack : List (Activity ε)) (ledger current : Ledger ε) (engine : Engine ε ω)
    (reached : Recorded apply ⟨.empty, world, []⟩ .empty past
      ⟨queue, shown, .script (.cancel :: rest) :: stack⟩ ledger)
    (later : Recorded apply ⟨queue, shown, .script (.cancel :: rest) :: stack⟩ ledger future
      engine current) :
    (∀ entry ∈ registeredIn past, entry ∈ begunIn future →
        ∃ detached ∈ ledger.batches.flatten, entry = detached.asFrame) ∧
      ((∀ frames, .tick frames ∈ stack → frames = []) →
        ∀ entry ∈ registeredIn past, entry ∉ begunIn future) ∧
      ∀ detached ∈ ledger.batches.flatten,
        detached.asFrame ∈ registeredIn past ∧ detached.asFrame ∉ begunIn past ∧
          (engine.stack = [] → .failed ∉ future → detached.asFrame ∈ begunIn future) := by
  have fits := reached.fits Ledger.fits_empty
  have taken : Engine.step apply ⟨queue, shown, .script (.cancel :: rest) :: stack⟩ =
      .next ⟨queue.cancel, shown, .script rest :: stack⟩ := rfl
  have survivors : ∀ entry ∈ registeredIn past, entry ∈ begunIn future →
      ∃ detached ∈ ledger.batches.flatten, entry = detached.asFrame := by
    intro entry registered begun
    rcases later.head taken with ⟨rfl, -, -⟩ | ⟨notes, rfl, recorded⟩
    · cases begun
    · have fits := (fits.step (Engine.transition_of_step taken)).1
      rcases recorded.registered_or_waiting fits begun with again | waiting
      · have old := (reached.lt_issued Ledger.fits_empty registered).2
        have new := (recorded.lt_issued fits again).1
        exact absurd old (Nat.not_lt.mpr new)
      · have waiting : entry ∈ ledger.cancel.content := waiting
        rw [Ledger.content_cancel] at waiting
        obtain ⟨detached, mem, rfl⟩ := List.mem_map.mp (Multiset.mem_coe.mp waiting)
        exact ⟨detached, mem, rfl⟩
  refine ⟨survivors, ?_, ?_⟩
  · intro spent entry registered begun
    obtain ⟨detached, mem, -⟩ := survivors entry registered begun
    rw [fits.flatten_eq_nil (by simpa using spent)] at mem
    cases mem
  · intro detached mem
    obtain ⟨registered, fresh⟩ := reached.waiting (Ledger.mem_content_of_batches mem)
    refine ⟨registered, fresh, fun ended fine => ?_⟩
    rcases later.detached fits mem with failed | begun | left
    · exact absurd failed fine
    · exact begun
    · rw [(later.fits fits).flatten_eq_nil (by simp [ended])] at left
      cases left

/-- A timer that cancels goes off, and another one is due at the same time. -/
def alarm : Engine Nat Unit :=
  ⟨⟨1, [], false, [], [⟨1, [.effect 1]⟩]⟩, (), [.script [.cancel], .tick [], .script []]⟩

/-- What has been entered in a ledger when the alarm goes off. -/
def alarmNotes : List (Note Nat) :=
  [.registered ⟨0, .timer ⟨1, [.cancel]⟩⟩, .registered ⟨1, .timer ⟨1, [.effect 1]⟩⟩,
    .begun ⟨0, .timer ⟨1, [.cancel]⟩⟩ 1 1]

theorem alarm_recorded :
    Recorded unseen ⟨.empty, (), []⟩ .empty alarmNotes alarm
      ⟨2, [], [], [⟨1, ⟨1, [.effect 1]⟩⟩], [[]]⟩ := by
  have fresh : Recorded unseen ⟨.empty, (), []⟩ .empty [] ⟨.empty, (), []⟩ .empty := .start
  have first := ((fresh.call [.later 1 [.cancel]]).next rfl).next rfl
  have second := ((first.call [.later 1 [.effect 1]]).next rfl).next rfl
  exact ((second.call [.tick 1]).next rfl).next rfl

/-- The timer that was due at the same time is not run any more. -/
theorem alarm_cancels : ∃ notes engine current,
    Recorded unseen alarm ⟨2, [], [], [⟨1, ⟨1, [.effect 1]⟩⟩], [[]]⟩ notes engine current ∧
      engine.stack = [] ∧
      ⟨1, .timer ⟨1, [.effect 1]⟩⟩ ∈ registeredIn alarmNotes ∧
      ⟨1, .timer ⟨1, [.effect 1]⟩⟩ ∉ begunIn notes := by
  have fresh : Recorded unseen alarm ⟨2, [], [], [⟨1, ⟨1, [.effect 1]⟩⟩], [[]]⟩ [] alarm
    ⟨2, [], [], [⟨1, ⟨1, [.effect 1]⟩⟩], [[]]⟩ := .start
  have later := (((fresh.next rfl).next rfl).next rfl).next rfl
  have registered : ⟨1, .timer ⟨1, [.effect 1]⟩⟩ ∈ registeredIn alarmNotes :=
    List.mem_cons_of_mem _ (List.mem_cons_self)
  refine ⟨_, _, _, later, rfl, registered, ?_⟩
  refine (cancel_spares_detached unseen () () alarmNotes _ _ _ _ _ _ _ alarm_recorded later).2.1
    ?_ _ registered
  intro frames mem
  simpa using mem

/-- Two scripts have been taken out for a frame, and the first of them cancels. -/
def interruption : Engine Nat Unit :=
  ⟨⟨1, [], false, [], []⟩, (), [.script [.cancel], .tick [[.effect 1]], .script []]⟩

/-- What has been entered in a ledger when the interruption comes. -/
def interruptionNotes : List (Note Nat) :=
  [.registered ⟨0, .frame [.cancel]⟩, .registered ⟨1, .frame [.effect 1]⟩,
    .begun ⟨0, .frame [.cancel]⟩ 1 1]

/-- The second script is run although it was registered before the cancel and not begun. -/
theorem interruption_misses_detached :
    Recorded unseen ⟨.empty, (), []⟩ .empty interruptionNotes interruption
        ⟨2, [], [], [], [[⟨1, [.effect 1]⟩]]⟩ ∧
      ⟨1, .frame [.effect 1]⟩ ∈ registeredIn interruptionNotes ∧
      ⟨1, .frame [.effect 1]⟩ ∉ begunIn interruptionNotes ∧
      ∃ notes engine current,
        Recorded unseen interruption ⟨2, [], [], [], [[⟨1, [.effect 1]⟩]]⟩ notes engine current ∧
          ⟨1, .frame [.effect 1]⟩ ∈ begunIn notes := by
  have fresh : Recorded unseen ⟨.empty, (), []⟩ .empty [] ⟨.empty, (), []⟩ .empty := .start
  have first := ((fresh.call [.nextFrame [.cancel]]).next rfl).next rfl
  have second := ((first.call [.nextFrame [.effect 1]]).next rfl).next rfl
  have reached := ((second.call [.tick 1]).next rfl).next rfl
  have now : Recorded unseen interruption ⟨2, [], [], [], [[⟨1, [.effect 1]⟩]]⟩ [] interruption
    ⟨2, [], [], [], [[⟨1, [.effect 1]⟩]]⟩ := .start
  have later := ((now.next rfl).next rfl).next rfl
  refine ⟨reached, List.mem_cons_of_mem _ List.mem_cons_self, ?_, _, _, _, later,
    List.mem_cons_self⟩
  intro begun
  simp [begunIn, interruptionNotes] at begun

end Logo.Animation
