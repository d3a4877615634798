import Logo.Proofs.Machine.Bindings
import Logo.Proofs.Machine.Studio
import Logo.Proofs.Machine.Trees

/-!
# How runs end

A run with a journal can be called to account when it ends.  If it was ended
by `BYE`, then that is the latest entry of the journal, and nothing has
happened since.  If it ended in a fault, then the journal names a command that
went beyond what the language can say, unless a limit was reached or the stage
refused a request.  Any error is one that is to be expected.

All this is one conduct.  What it asks of a state is that the procedures are
well formed and that the program has not been ended, and how the state may
move is that the journal grows.  The laws for well-formed trees are then
shown for the few commands about which the conduct has something to say.
-/

namespace Logo

variable {σ : Type}

/-- Whether a command ends the program. -/
def Command.isBye : Command → Bool
  | .primitive .bye _ _ => true
  | _ => false

/-- Every procedure that can be called has a well-formed body. -/
def State.ProceduresWellFormed (state : State σ) : Prop :=
  ∀ name procedure, state.world.procedures.find? name = some procedure →
    StatementsWellFormed procedure.body

/--
A command that goes beyond what the language can say, the fault that comes of it, and the world
in which that happens: the one to which resolving the input of the command leads.
-/
inductive Moment.Escapes [Platform] [Stage σ] : Moment σ → Fault → World σ → Prop
  /-- A turtle cannot walk when its heading is infinite. -/
  | heading {primitive : Primitive} {input : Value} {origin : Origin} {state there : State σ}
      {callers : List Scope} {calls : Nat} {distance : Float}
      (walks : primitive = .forward ∨ primitive = .back)
      (resolved : ((input.input (.within calls)).number primitive.name).run state =
        (.ok distance, there))
      (infinite : there.world.studio.turtle.heading.isInf = true) :
      Escapes ⟨.primitive primitive [input] origin, state, callers⟩ .infiniteAngle there.world
  /-- A number that is not finite is no color. -/
  | color {primitive : Primitive} {input : Value} {origin : Origin} {state there : State σ}
      {callers : List Scope} {calls : Nat} {index : Float}
      (paints : primitive = .setPenColor ∨ primitive = .setBackground)
      (resolved : (input.input (.within calls)).value.run state = (.ok (.number index), there))
      (beyond : index.isFinite = false) :
      Escapes ⟨.primitive primitive [input] origin, state, callers⟩
        (if index.isNaN then .undefinedIndex else .infiniteIndex) there.world

namespace State

/-- No entry of the journal ends the program. -/
def IsUnderWay (state : State (Noted σ)) : Prop :=
  ∀ moment ∈ state.journal, moment.command.isBye = false

/-- The program was ended at a moment, and nothing has happened since. -/
structure EndedAt (state : State (Noted σ)) (moment : Moment σ) : Prop where
  isBye : moment.command.isBye = true
  latest : ∃ earlier, state.journal = moment :: earlier ∧
    ∀ other ∈ earlier, other.command.isBye = false
  world : state.bare.world = moment.state.world
  /-- The variables of all scopes that are left are as they were. -/
  scopes : (state.scope :: state.callers).map Scope.bindings <:+
    (moment.state.scope :: moment.callers).map Scope.bindings

variable [Platform] [Stage σ]

/-- A fault that has a reason, in the journal or outside the program. -/
def Explains (state : State (Noted σ)) (fault : Fault) : Prop :=
  fault.IsLimit ∨ Stage.Refuses σ fault ∨
    ∃ moment ∈ state.journal, moment.Escapes fault state.bare.world

/-- An exit of which the journal gives an account. -/
inductive Accounts (state : State (Noted σ)) : Exit → Prop
  | bye {moment : Moment σ} (ended : state.EndedAt moment) : Accounts state (.signal .bye)
  | error {error : Error} (expected : error.IsExpected) (underWay : state.IsUnderWay) :
      Accounts state (.mishap (.error error))
  | fault {fault : Fault} (explained : state.Explains fault) (underWay : state.IsUnderWay) :
      Accounts state (.mishap (.fault fault))

end State

/-- Requests leave the journal alone. -/
theorem Stage.leaves_journal [Stage σ] :
    Stage.Leaves (fun noted : Noted σ => (noted.callers, noted.journal)) := by
  intro request noted
  rfl

/-- The journal grows, and accounts for every exit. -/
def Conduct.accounted [Platform] [Stage σ] : Conduct Exit (State (Noted σ)) where
  holds state := state.bare.ProceduresWellFormed ∧ state.IsUnderWay
  moves before after := before.journal <:+ after.journal ∧ after.callers = before.callers
  leaves exit state := state.bare.ProceduresWellFormed ∧ state.Accounts exit
  refl _ := ⟨List.suffix_refl _, rfl⟩
  trans first second := ⟨first.1.trans second.1, second.2.trans first.2⟩

namespace Conduct.accounted

variable [Platform] [Stage σ]

/-- An exit stays accounted for while calls come back and nothing else happens. -/
theorem leaves_outside {inside outside : State (Noted σ)} {exit : Exit}
    (journal : outside.journal = inside.journal) (world : outside.bare.world = inside.bare.world)
    (scopes : (outside.scope :: outside.callers).map Scope.bindings <:+
      (inside.scope :: inside.callers).map Scope.bindings)
    (leaves : accounted.leaves exit inside) : accounted.leaves exit outside := by
  obtain ⟨known, accounts⟩ := leaves
  have goesOn : inside.IsUnderWay → outside.IsUnderWay := by
    rw [State.IsUnderWay, State.IsUnderWay, journal]
    exact id
  refine ⟨?_, ?_⟩
  · rw [State.ProceduresWellFormed, world]
    exact known
  · cases accounts with
    | bye ended =>
        refine .bye ⟨ended.isBye, ?_, world.trans ended.world, scopes.trans ended.scopes⟩
        rw [journal]
        exact ended.latest
    | error expected underWay => exact .error expected (goesOn underWay)
    | fault explained underWay =>
        refine .fault ?_ (goesOn underWay)
        rw [State.Explains, journal, world]
        exact explained

theorem permits : (accounted (σ := σ)).Permits where
  error common holds := ⟨holds.1, .error common.isExpected holds.2⟩
  limit limit holds := ⟨holds.1, .fault (Or.inl limit) holds.2⟩
  moves := by
    rintro ⟨⟨studio, _, _, _⟩, _⟩ ⟨⟨_, _, _, _⟩, _⟩ ⟨rfl, -⟩
    exact ⟨List.suffix_refl _, rfl⟩
  holds := by
    rintro ⟨⟨_, _, _, _⟩, _⟩ ⟨⟨_, _, _, _⟩, _⟩ ⟨rfl, rfl⟩ holds
    exact holds
  round _ := leaves_outside rfl rfl (List.suffix_refl _)

/-- Neither to stop nor to output is accounted for: it must have ended a procedure. -/
theorem contained {exit : Exit} {state : State (Noted σ)} (ends : exit.EndsProcedure) :
    ¬ accounted.leaves exit state := by
  rintro ⟨-, accounts⟩
  cases ends <;> cases accounts

/-- The turtle may be told anything, if the journal accounts for an infinite heading. -/
theorem tell_gives (room : Nat) (deed : Deed) {state : State (Noted σ)}
    (holds : accounted.holds state)
    (perilous : deed.isWalk = true → state.world.studio.turtle.heading.isInf = true →
      ∃ moment ∈ state.journal, moment.Escapes .infiniteAngle state.bare.world) :
    accounted.GivesAt (fun _ => True) (Machine.tell room deed) state := by
  obtain ⟨⟨studio, output, procedures, draws⟩, scope⟩ := state
  let peril (after : Studio (Noted σ)) : Prop :=
    ∃ moment ∈ studio.stage.journal, moment.Escapes .infiniteAngle
      (State.bare ⟨⟨after, output, procedures, draws⟩, scope⟩).world
  have performed :
      (Studio.faultsExplained _ peril).GivesAt _ (Studio.perform room deed) studio :=
    Studio.perform_gives Stage.leaves_journal deed perilous
  simp only [GivesAt, Machine.tell, ExceptT.run] at performed ⊢
  rcases ran : Studio.perform room deed studio with ⟨result, after⟩
  rw [ran] at performed
  obtain ⟨kept, ended⟩ := performed
  obtain ⟨sameCallers, sameJournal⟩ := Prod.mk.inj kept
  have underWay : ∀ moment ∈ after.stage.journal, moment.command.isBye = false := by
    rw [sameJournal]
    exact holds.2
  have moved : accounted.moves ⟨⟨studio, output, procedures, draws⟩, scope⟩
      ⟨⟨after, output, procedures, draws⟩, scope⟩ := by
    refine ⟨?_, sameCallers⟩
    show studio.stage.journal <:+ after.stage.journal
    rw [sameJournal]
  rcases result with (error | fault) | _
  · exact ⟨moved, holds.1, .error ended.isExpected underWay⟩
  · refine ⟨moved, holds.1, .fault ?_ underWay⟩
    rcases ended with ⟨request, stage, refused⟩ | rfl | ⟨rfl, moment, member, escapes⟩
    · exact Or.inr (Or.inl ⟨request, stage.stage, refused⟩)
    · exact Or.inl trivial
    · refine Or.inr (Or.inr ⟨moment, ?_, escapes⟩)
      show moment ∈ after.stage.journal
      rw [sameJournal]
      exact member
  · exact ⟨moved, trivial, holds.1, underWay⟩

/-- A definition is accounted for if its body is well formed. -/
theorem define (procedure : Procedure) (wellFormed : StatementsWellFormed procedure.body) :
    (accounted (σ := σ)).Keeps (Machine.define procedure) := by
  refine .change fun state holds => ⟨⟨List.suffix_refl _, rfl⟩, ?_, holds.2⟩
  intro name found finds
  rw [State.bare, Bindings.find?_insert] at finds
  split at finds
  · cases finds
    exact wellFormed
  · exact holds.1 name found finds

/-- A command that does not end the program may be entered in the journal. -/
theorem note {command : Command} (goesOn : command.isBye = false) :
    accounted.Keeps (Tracker.journal.note command : Machine (Noted σ) Unit) := by
  refine .change fun state holds => ⟨⟨List.suffix_cons _ _, rfl⟩, holds.1, ?_⟩
  intro moment member
  rcases List.mem_cons.mp member with rfl | earlier
  · exact goesOn
  · exact holds.2 moment earlier

/-! ## Calls -/

/-- A state in which a call has come back to the scope outside. -/
def back (outer : Scope) (inside : State (Noted σ)) : State (Noted σ) :=
  State.returned { inside with scope := outer }

theorem ends_back {outer : Scope} {callers : List Scope} {inside : State (Noted σ)}
    {result : Except Exit (Option Value)} (called : inside.callers = outer :: callers)
    (ended : accounted.statements.Ends (fun _ => True) (result, inside)) :
    accounted.statements.Ends (fun _ => True) (result, back outer inside) := by
  rcases result with exit | result
  · rcases ended with leaves | ⟨ends, holds⟩
    · have scopes : (outer :: inside.callers.tail).map Scope.bindings <:+
          (inside.scope :: inside.callers).map Scope.bindings := by
        rw [called]
        exact List.suffix_cons _ _
      have left : accounted.leaves exit (back outer inside) :=
        leaves_outside (by rfl) (by rfl) scopes leaves
      exact Or.inl left
    · exact Or.inr ⟨ends, holds⟩
  · exact ended

/-- A call gives what its body outputs, and passes on no signal but the end of the program. -/
theorem settled (procedure : Procedure) (asExpression : Bool) (inner : Scope)
    {body : Machine (Noted σ) (Option Value)} (keeps : accounted.statements.Keeps body) :
    accounted.Gives (fun result => asExpression = true → result.isSome = true) (do
      settle procedure asExpression (← Tracker.journal.within inner body)) := by
  refine Tracker.journal_settled permits contained procedure asExpression inner keeps id ?_
  rintro before inside result ⟨grown, called⟩ ended
  refine ⟨⟨grown, ?_⟩, ends_back called ended⟩
  show inside.callers.tail = before.callers
  rw [called]
  rfl

/-! ## Commands that a journal has to account for -/

/-- The end of the program leaves everything as it is. -/
theorem bye (origin : Origin) :
    accounted.Keeps (do
      Tracker.journal.note (.primitive .bye [] origin)
      Machine.leave .bye : Machine (Noted σ) (Option Value)) := by
  intro before holds
  have ended : (before.entered (.primitive .bye [] origin)).EndedAt
      ⟨.primitive .bye [] origin, before.bare, before.callers⟩ :=
    ⟨rfl, ⟨before.journal, rfl, holds.2⟩, rfl, List.suffix_refl _⟩
  exact ⟨⟨List.suffix_cons _ _, rfl⟩, holds.1, .bye ended⟩

/--
A command that first resolves its input.  When it goes on, its entry is still in the journal, and
resolving the input without a journal leads from there to the same place.
-/
theorem resolving {α β : Type} {good : β → Prop} {command : Command}
    (goesOn : command.isBye = false) {resolve : Machine (Noted σ) α} {plain : Machine σ α}
    (agrees : Agrees (Tie.unnoted.machines Eq) Eq resolve plain) (keeps : accounted.Keeps resolve)
    {rest : α → Machine (Noted σ) β}
    (others : ∀ (value : α) (moment : Moment σ) (there : State (Noted σ)),
      moment ∈ there.journal → moment.command = command →
      plain.run moment.state = (.ok value, there.bare) → accounted.holds there →
        accounted.GivesAt good (rest value) there) :
    accounted.Gives good (do
      Tracker.journal.note command
      let value ← resolve
      rest value) := by
  intro before holds
  refine (note goesOn before holds).sequence fun _ entered ran _ holdsEntered => ?_
  cases ran
  refine (keeps _ holdsEntered).sequence fun value there resolved _ holdsThere => ?_
  have grown := (keeps _ holdsEntered).1.1
  have same := agrees.run_bare (before.entered command)
  rw [resolved] at grown same
  exact others value ⟨command, before.bare, before.callers⟩ there
    (grown.subset List.mem_cons_self) rfl same holdsThere

variable {calls room : Nat} {value : Value} {input : Input (Noted σ)}

/--
A walk that ends in a fault was asked of a turtle with an infinite heading, and
this is on record.
-/
theorem walk (agrees : Input.Agree Tie.unnoted Eq input (value.input (.within calls)))
    (keeps : accounted.Keeps input.value) {primitive : Primitive}
    (walks : primitive = .forward ∨ primitive = .back) (deed : Float → Deed) (origin : Origin) :
    accounted.Keeps (do
      Tracker.journal.note (.primitive primitive [value] origin)
      Action.quietly do Machine.tell room (deed (← input.number primitive.name))) := by
  simp only [Action.quietly, bind_assoc]
  have goesOn : (Command.primitive primitive [value] origin).isBye = false := by
    rcases walks with rfl | rfl <;> rfl
  have resolves : permits.comparison.relates Eq input.value input.value := Comparison.related keeps
  refine resolving goesOn (agrees.number _) (Gives.keeps (resolves.number _)) ?_
  rintro distance ⟨_, state, callers⟩ there member rfl resolved holds
  refine (tell_gives room (deed distance) holds fun _ infinite => ?_).sequence
    fun _ _ _ _ holds => ?_
  · exact ⟨_, member, .heading walks resolved infinite⟩
  · exact Gives.value trivial _ holds

/--
A color that ends in a fault was asked for by a number that is not finite, and
this is on record.
-/
theorem color (agrees : Input.Agree Tie.unnoted Eq input (value.input (.within calls)))
    (keeps : accounted.Keeps input.value) {primitive : Primitive}
    (paints : primitive = .setPenColor ∨ primitive = .setBackground) (who : String)
    {deed : Color → Deed} (stays : ∀ color, (deed color).isWalk = false) (origin : Origin) :
    accounted.Keeps (do
      Tracker.journal.note (.primitive primitive [value] origin)
      Action.quietly do Machine.tell room (deed (← input.color who))) := by
  simp only [Action.quietly, Input.color, bind_assoc]
  have goesOn : (Command.primitive primitive [value] origin).isBye = false := by
    rcases paints with rfl | rfl <;> rfl
  refine resolving goesOn agrees.value keeps ?_
  rintro value ⟨_, state, callers⟩ there member rfl resolved holds
  have taken : accounted.GivesAt (fun _ => True) (Machine.orMishap (value.asColor who)) there := by
    rcases asked : value.asColor who with mishap | color
    · rcases Value.asColor_error asked with ⟨error, rfl, expected⟩ | ⟨index, rfl, missing, rfl⟩
      · exact permits.fail expected there holds
      · have beyond := (Number.whole?_eq_none_iff index).mp missing
        have explained : there.Explains _ :=
          Or.inr (Or.inr ⟨_, member, .color paints resolved beyond⟩)
        exact ⟨accounted.refl there, holds.1, .fault explained holds.2⟩
    · exact Gives.value trivial there holds
  refine taken.sequence fun color there _ _ holds => ?_
  refine (tell_gives room (deed color) holds fun walks => ?_).sequence fun _ _ _ _ holds => ?_
  · rw [stays] at walks
    cases walks
  · exact Gives.value trivial _ holds

/-- With a journal, every well-formed tree keeps to the conduct, if procedures do. -/
theorem upheld (calls : Nat)
    (bodies : ∀ body, StatementsWellFormed body →
      accounted.statements.Keeps (Tracker.journal.enter calls body : Machine (Noted σ) _)) :
    Tracker.journal.Upholds (accounted (σ := σ)) (Tracker.journal.depth calls)
      fun _ => True where
  permits := permits
  tell deed stays := fun state holds => tell_gives calls deed holds fun walks => by
    rw [stays] at walks
    cases walks
  note {command} _ safe := note <| by
    cases command with
    | primitive primitive => cases primitive <;> first | rfl | cases safe
    | define | call => rfl
  define _ wellFormed := define ⟨_, _, _⟩ wellFormed
  undefined _ holds _ := ⟨holds.1, .error trivial holds.2⟩
  settled known asExpression inner := by
    obtain ⟨name, state, holds, found⟩ := known
    exact settled _ asExpression inner (bodies _ (holds.1 name _ found))
  perilous := by
    intro primitive inputs inputs' origin _ perilous matched
    refine Gives.allowing ?_ _
    have agree (value : Value) :=
      Tracker.journal_input_agree (fun _ => rfl) (Tracker.journal_depth_agree (σ := σ) calls) value
    cases primitive with
    | forward =>
        obtain ⟨value, _, rfl, related⟩ := Tracker.inputs_of_one matched
        exact walk (agree value) (Gives.keeps related) (Or.inl rfl) .forward origin
    | back =>
        obtain ⟨value, _, rfl, related⟩ := Tracker.inputs_of_one matched
        exact walk (agree value) (Gives.keeps related) (Or.inr rfl) .back origin
    | setPenColor =>
        obtain ⟨value, _, rfl, related⟩ := Tracker.inputs_of_one matched
        exact color (agree value) (Gives.keeps related) (Or.inl rfl) _ (fun _ => rfl) origin
    | setBackground =>
        obtain ⟨value, _, rfl, related⟩ := Tracker.inputs_of_one matched
        exact color (agree value) (Gives.keeps related) (Or.inr rfl) _ (fun _ => rfl) origin
    | bye =>
        obtain rfl := Tracker.inputs_of_none matched
        exact bye origin
    | _ => cases perilous

/-- Bodies of procedures account for how they end, at any depth. -/
theorem bodies (calls : Nat) :
    ∀ body, StatementsWellFormed body →
      accounted.statements.Keeps (Tracker.journal.enter calls body : Machine (Noted σ) _) := by
  induction calls with
  | zero => exact fun _ _ => permits.statements.crash trivial
  | succ calls others =>
      exact fun _ wellFormed => (upheld calls others).statements none wellFormed fun _ _ => trivial

/-- The journal accounts for the end of every well-formed program. -/
theorem run {program : Program} (wellFormed : StatementsWellFormed program.commands) :
    (accounted.allowing (· = .signal .stop)).Keeps
      (Tracker.journal.run program : Machine (Noted σ) _) := by
  intro before holds
  obtain ⟨moved, ended⟩ :=
    (upheld Platform.calls (bodies Platform.calls)).statements none wellFormed
      (fun _ _ => trivial) before holds
  rw [GivesAt, Tracker.run, Effectful.run_tryCatch]
  generalize (Tracker.journal.runFrom (Tracker.journal.depth Platform.calls) none
    program.commands).run before = outcome at moved ended
  obtain ⟨result, after⟩ := outcome
  rcases result with exit | result
  · refine ⟨moved, ?_⟩
    rcases ended with leaves | ⟨ends, holds⟩
    · cases exit with
      | mishap mishap => exact Or.inl leaves
      | signal signal =>
          cases signal with
          | stop => exact absurd leaves (contained .stop)
          | output value => exact absurd leaves (contained (.output value))
          | bye => exact Or.inl leaves
    · cases ends with
      | stop => exact Or.inr ⟨rfl, holds⟩
      | output value => exact Or.inl (permits.error trivial holds)
  · exact ⟨moved, ended⟩

end Conduct.accounted

/-! ## Errors stay inside the language -/

/-- No procedure is known at first. -/
theorem State.proceduresWellFormed_initial (stage : σ) (sequence : Nat → Nat) :
    (State.initial stage sequence).ProceduresWellFormed := by
  intro name procedure found
  cases found

/-- The stage on which nothing is seen refuses nothing. -/
theorem Stage.not_refuses_unit (fault : Fault) : ¬ Stage.Refuses Unit fault := by
  rintro ⟨request, stage, refused⟩
  cases refused

namespace Moment.Escapes

variable [Stage σ]

theorem run_walk (room : Nat) {input : Input σ} {who : String} {deed : Float → Deed}
    {distance : Float}
    {state there : State σ} (walks : (deed distance).isWalk = true)
    (resolved : (input.number who).run state = (.ok distance, there))
    (infinite : there.world.studio.turtle.heading.isInf = true) :
    (Action.quietly do Machine.tell room (deed (← input.number who))).run state =
      (.error (.mishap (.fault .infiniteAngle)), there) := by
  have stuck := Machine.run_tell_of_isInf room walks infinite
  exact Effectful.run_bind_error ((Effectful.run_bind_ok resolved).trans stuck)

variable [Platform]

theorem run_color (room : Nat) {input : Input σ} {who : String} {deed : Color → Deed}
    {index : Float}
    {state there : State σ} (resolved : input.value.run state = (.ok (.number index), there))
    (beyond : index.isFinite = false) :
    (Action.quietly do Machine.tell room (deed (← input.color who))).run state =
      (.error (.mishap (.fault (if index.isNaN then .undefinedIndex else .infiniteIndex))),
        there) := by
  have missing := (Number.whole?_eq_none_iff index).mpr beyond
  have refused : (input.color who).run state =
      (.error (.mishap (.fault (if index.isNaN then .undefinedIndex else .infiniteIndex))),
        there) := by
    rw [Input.color, Effectful.run_bind_ok resolved, Value.asColor_of_whole?_eq_none who missing]
    rfl
  exact Effectful.run_bind_error (Effectful.run_bind_error refused)

/-- A command that escapes does end in that fault when it is run. -/
theorem execute {moment : Moment σ} {fault : Fault} {world : World σ}
    (escapes : moment.Escapes fault world) :
    ∃ calls there, there.world = world ∧
      (moment.command.execute (.within calls)).run moment.state =
        (.error (.mishap (.fault fault)), there) := by
  cases escapes with
  | heading walks resolved infinite =>
      rcases walks with rfl | rfl
      · exact ⟨_, _, rfl, run_walk _ rfl resolved infinite⟩
      · exact ⟨_, _, rfl, run_walk _ rfl resolved infinite⟩
  | color paints resolved beyond =>
      rcases paints with rfl | rfl
      · exact ⟨_, _, rfl, run_color _ resolved beyond⟩
      · exact ⟨_, _, rfl, run_color _ resolved beyond⟩

end Moment.Escapes

/--
A program that was read from a text, whatever the text is, ends with a result, with a signal to
stop or to end, or with an error that is to be expected.  It ends in a fault only if a limit was
reached, or if it came to a command that goes beyond what the language can say: to walk with an
infinite heading, or to take a number that is not finite for a color.
-/
theorem Program.run_stays_inside [Platform] (text : String) (sequence : Nat → Nat) :
    ∃ result after,
      (Tracker.journal.run (Program.ofText text)).run (State.initial () sequence).noted =
        (result, after) ∧
      (Program.ofText text).run.run (State.initial () sequence) = (result, after.bare) ∧
      (∀ signal, result = .error (.signal signal) → signal = .stop ∨ signal = .bye) ∧
      (∀ error, result = .error (.mishap (.error error)) → error.IsExpected) ∧
      (∀ fault, result = .error (.mishap (.fault fault)) →
        fault.IsLimit ∨ ∃ moment ∈ after.journal, moment.Escapes fault after.bare.world) ∧
      ∀ moment ∈ after.journal, ∀ fault world, moment.Escapes fault world →
        ∃ calls there, there.world = world ∧
          (moment.command.execute (.within calls)).run moment.state =
            (.error (.mishap (.fault fault)), there) := by
  have wellFormed : StatementsWellFormed (Program.ofText text).commands :=
    Program.ofTokens_wellFormed text (Program.genuine_scan text)
  have holds : Conduct.accounted.holds (State.initial () sequence).noted := by
    refine ⟨State.proceduresWellFormed_initial () sequence, fun moment member => ?_⟩
    cases member
  obtain ⟨-, ended⟩ := Conduct.accounted.run wellFormed _ holds
  have same := (Tracker.journal_run_agrees (Program.ofText text)).run_bare
    (State.initial () sequence).noted
  generalize (Tracker.journal.run (Program.ofText text)).run (State.initial () sequence).noted =
    outcome at ended same
  obtain ⟨result, after⟩ := outcome
  refine ⟨result, after, rfl, same, ?_, ?_, ?_, fun _ _ _ _ escapes => escapes.execute⟩
  · rintro signal rfl
    rcases ended with ⟨-, accounts⟩ | ⟨stops, -⟩
    · cases accounts
      exact Or.inr rfl
    · exact Or.inl (Exit.signal.inj stops)
  · rintro error rfl
    rcases ended with ⟨-, accounts⟩ | ⟨stops, -⟩
    · cases accounts with
      | error expected => exact expected
    · cases stops
  · rintro fault rfl
    rcases ended with ⟨-, accounts⟩ | ⟨stops, -⟩
    · cases accounts with
      | fault explained =>
          rcases explained with limit | refused | escape
          · exact Or.inl limit
          · exact absurd refused (Stage.not_refuses_unit fault)
          · exact Or.inr escape
    · cases stops

/--
Both escapes do happen.  Two large turns make the heading infinite, and what is
then reported of it is no number.
-/
example :
    letI := Platform.standard
    (match ((Program.ofText "RT \"1E308 RT \"1E308 FD 1").run.run
        (State.initial () fun _ => 0)).1 with
      | .error (.mishap (.fault fault)) => some fault
      | _ => none) = some .infiniteAngle := by
  decide +kernel

example :
    letI := Platform.standard
    (match ((Program.ofText "RT \"1E308 RT \"1E308 SETPC HEADING").run.run
        (State.initial () fun _ => 0)).1 with
      | .error (.mishap (.fault fault)) => some fault
      | _ => none) = some .undefinedIndex := by
  decide +kernel

end Logo
