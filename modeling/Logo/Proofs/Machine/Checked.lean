import Logo.Calls
import Logo.Proofs.Machine.Endings

/-!
# Programs without bad calls

The check of calls looks at a program and not at its runs.  This module shows
what it is worth when the program runs.

A run stays within its program.  Every command that it comes to is a node of
the tree, and every procedure that it comes to know was defined by one.  So if
no call of the program is bad, and no name has two definitions, then every
call that happens finds as many parameters as it has inputs, and only a
procedure whose definition is still to come can be missing.  If all
definitions come first, none is.
-/

namespace Logo

variable {σ : Type}

/-! ## Calls and definitions among the nodes -/

/-- The call that a node is, if it is one. -/
def Node.call? : Node → Option Call
  | .command (.call name inputs _ origin) => some ⟨name, inputs.length, origin⟩
  | _ => none

/-- What counts as a call is a call. -/
theorem Node.exists_of_call? {command : Command} {call : Call}
    (calls : (Node.command command).call? = some call) :
    ∃ inputs asExpression origin, command = .call call.name inputs asExpression origin := by
  cases command with
  | primitive | define => cases calls
  | call name inputs asExpression origin =>
      cases calls
      exact ⟨inputs, asExpression, origin, rfl⟩

/-- The definition that a node is, if it is one. -/
def Node.definition? (node : Node) : Option Definition :=
  node.procedure?.map fun procedure => ⟨Text.fold procedure.name, procedure.parameters.length⟩

mutual

theorem Value.calls_eq : ∀ value : Value, value.calls = value.nodes.filterMap Node.call?
  | .block commands => by
      simp [Value.calls, Value.nodes, List.filterMap_cons, Node.call?, callsOf_eq commands]
  | .operation _ left right => by
      simp [Value.calls, Value.nodes, List.filterMap_cons, Node.call?, left.calls_eq,
        right.calls_eq]
  | .reporter command => by
      simp [Value.calls, Value.nodes, List.filterMap_cons, Node.call?, command.calls_eq]
  | .number _ | .word _ | .truth _ | .list _ | .reference _ | .procedure _ _ _ => by
      simp [Value.calls, Value.nodes, Node.call?]

theorem callsIn_eq : ∀ values : List Value,
    callsIn values = (nodesOfValues values).filterMap Node.call?
  | [] => by simp [callsIn, nodesOfValues]
  | value :: rest => by simp [callsIn, nodesOfValues, value.calls_eq, callsIn_eq rest]

theorem Command.calls_eq : ∀ command : Command,
    command.calls = command.nodes.filterMap Node.call?
  | .primitive _ inputs _ => by
      simp [Command.calls, Command.nodes, List.filterMap_cons, Node.call?, callsIn_eq inputs]
  | .define _ _ body _ => by
      simp [Command.calls, Command.nodes, List.filterMap_cons, Node.call?, callsOf_eq body]
  | .call _ inputs _ _ => by simp [Command.calls, Command.nodes, Node.call?, callsIn_eq inputs]

/-- The calls of a program are those among its nodes. -/
theorem callsOf_eq : ∀ commands : List Command,
    callsOf commands = (nodesOf commands).filterMap Node.call?
  | [] => by simp [callsOf, nodesOf]
  | command :: rest => by simp [callsOf, nodesOf, command.calls_eq, callsOf_eq rest]

end

mutual

theorem Value.definitions_eq : ∀ value : Value,
    value.definitions = value.nodes.filterMap Node.definition?
  | .block commands => by
      simp [Value.definitions, Value.nodes, List.filterMap_cons, Node.definition?, Node.procedure?,
        definitionsOf_eq commands]
  | .operation _ left right => by
      simp [Value.definitions, Value.nodes, List.filterMap_cons, Node.definition?, Node.procedure?,
        left.definitions_eq, right.definitions_eq]
  | .reporter command => by
      simp [Value.definitions, Value.nodes, List.filterMap_cons, Node.definition?, Node.procedure?,
        command.definitions_eq]
  | .number _ | .word _ | .truth _ | .list _ | .reference _ | .procedure _ _ _ => by
      simp [Value.definitions, Value.nodes, Node.definition?, Node.procedure?]

theorem definitionsIn_eq : ∀ values : List Value,
    definitionsIn values = (nodesOfValues values).filterMap Node.definition?
  | [] => by simp [definitionsIn, nodesOfValues]
  | value :: rest => by
      simp [definitionsIn, nodesOfValues, value.definitions_eq, definitionsIn_eq rest]

theorem Command.definitions_eq : ∀ command : Command,
    command.definitions = command.nodes.filterMap Node.definition?
  | .primitive _ inputs _ | .call _ inputs _ _ => by
      simp [Command.definitions, Command.nodes, List.filterMap_cons, Node.definition?,
        Node.procedure?, definitionsIn_eq inputs]
  | .define _ _ body _ => by
      simp [Command.definitions, Command.nodes, Node.definition?, Node.procedure?,
        definitionsOf_eq body]

/-- The definitions of a program are those among its nodes. -/
theorem definitionsOf_eq : ∀ commands : List Command,
    definitionsOf commands = (nodesOf commands).filterMap Node.definition?
  | [] => by simp [definitionsOf, nodesOf]
  | command :: rest => by
      simp [definitionsOf, nodesOf, command.definitions_eq, definitionsOf_eq rest]

end

section

variable {commands : List Command}

/-- Every call in the tree is among those that are checked. -/
theorem mem_callsOf {name : String} {inputs : List Value} {asExpression : Bool} {origin : Origin}
    (member : .command (.call name inputs asExpression origin) ∈ nodesOf commands) :
    ⟨name, inputs.length, origin⟩ ∈ callsOf commands := by
  rw [callsOf_eq]
  exact List.mem_filterMap.mpr ⟨_, member, rfl⟩

/-- Every definition in the tree is among those that are checked. -/
theorem mem_definitionsOf {name : String} {parameters : List String} {body : List Command}
    {origin : Origin}
    (member : .command (.define name parameters body origin) ∈ nodesOf commands) :
    ⟨Text.fold name, parameters.length⟩ ∈ definitionsOf commands := by
  rw [definitionsOf_eq]
  exact List.mem_filterMap.mpr ⟨_, member, rfl⟩

/-! ## What the check says -/

/-- A call without flaws has a definition, which takes as many inputs as the call gives. -/
theorem Call.exists_of_flaw? {definitions : List Definition} {call : Call}
    (fine : call.flaw? definitions = none) :
    ∃ definition ∈ definitions, definition.key = Text.fold call.name ∧
      definition.inputs = call.inputs := by
  unfold Call.flaw? at fine
  split at fine
  · cases fine
  · rename_i definition last
    split at fine
    · rename_i same
      refine ⟨definition, ?_, ?_, (beq_iff_eq.mp same).symm⟩
      · exact List.mem_reverse.mp (List.mem_of_find?_eq_some last)
      · simpa using List.find?_some last
    · cases fine

variable {program : Program} {call : Call} (checked : program.badCalls = [])
include checked

/-- In a program without bad calls, every call has a definition with as many inputs. -/
theorem Program.exists_definition (member : call ∈ callsOf program.commands) :
    ∃ definition ∈ definitionsOf program.commands, definition.key = Text.fold call.name ∧
      definition.inputs = call.inputs := by
  have fine := List.filterMap_eq_nil_iff.mp checked call member
  exact Call.exists_of_flaw? (Option.map_eq_none_iff.mp fine)

/-- If names have one definition only, every definition of the name fits the call. -/
theorem Program.inputs_eq_of_key
    (distinct : ((definitionsOf program.commands).map Definition.key).Nodup)
    (member : call ∈ callsOf program.commands) {definition : Definition}
    (defined : definition ∈ definitionsOf program.commands)
    (key : definition.key = Text.fold call.name) : definition.inputs = call.inputs := by
  obtain ⟨other, listed, sameKey, inputs⟩ := exists_definition checked member
  rw [List.inj_on_of_nodup_map distinct defined listed (key.trans sameKey.symm)]
  exact inputs

end

/-! ## Runs stay within the program -/

/-- Every procedure that is known is defined in the commands, under its own name. -/
def State.DefinedBy (commands : List Command) (state : State σ) : Prop :=
  ∀ key procedure, state.world.procedures.find? key = some procedure →
    key = Text.fold procedure.name ∧ ∃ origin,
      .command (.define procedure.name procedure.parameters procedure.body origin) ∈
        nodesOf commands

/-- A moment in which a node of the program runs, and only its procedures are known. -/
structure Moment.IsWithin (commands : List Command) (moment : Moment σ) : Prop where
  command : .command moment.command ∈ nodesOf commands
  definedBy : moment.state.DefinedBy commands

/--
A state to which a program may come: its own procedures are known, some of them for certain, and
all moments of its journal are within the program.
-/
structure State.IsWithin (commands : List Command) (certain : List String)
    (state : State (Noted σ)) : Prop where
  definedBy : state.bare.DefinedBy commands
  certain : ∀ key ∈ certain, (state.world.procedures.find? key).isSome = true
  journal : ∀ moment ∈ state.journal, moment.IsWithin commands

/-- A procedure may be missing if it is called in the program and not known for certain. -/
def Exit.IsWithin (commands : List Command) (certain : List String) (exit : Exit) : Prop :=
  ∀ name, exit = .mishap (.error (.undefinedProcedure name)) →
    Text.fold name ∉ certain ∧ ∃ inputs asExpression origin,
      .command (.call name inputs asExpression origin) ∈ nodesOf commands

/-- The run stays within the program. -/
def Conduct.within (commands : List Command) (certain : List String) :
    Conduct Exit (State (Noted σ)) where
  holds := State.IsWithin commands certain
  moves _ _ := True
  leaves exit state :=
    state.IsWithin commands certain ∧ ¬ exit.EndsProcedure ∧ exit.IsWithin commands certain
  refl _ := trivial
  trans _ _ := trivial

theorem State.IsWithin.congr {commands : List Command} {certain : List String}
    {before after : State (Noted σ)} (within : before.IsWithin commands certain)
    (procedures : after.world.procedures = before.world.procedures)
    (journal : after.journal = before.journal) : after.IsWithin commands certain := by
  refine ⟨?_, ?_, ?_⟩
  · intro key procedure found
    exact within.definedBy key procedure (procedures ▸ found)
  · rw [procedures]
    exact within.certain
  · rw [journal]
    exact within.journal

namespace Conduct.within

variable {commands : List Command} {certain : List String}

theorem contained {exit : Exit} {state : State (Noted σ)} (ends : exit.EndsProcedure) :
    ¬ (within commands certain).leaves exit state :=
  fun leaves => leaves.2.1 ends

theorem leaves_error {error : Error} {state : State (Noted σ)} (common : error.IsCommon)
    (holds : (within commands certain).holds state) :
    (within commands certain).leaves (.mishap (.error error)) state := by
  refine ⟨holds, by rintro ⟨⟩, ?_⟩
  rintro name same
  cases same
  cases common

theorem leaves_fault (fault : Fault) {state : State (Noted σ)}
    (holds : (within commands certain).holds state) :
    (within commands certain).leaves (.mishap (.fault fault)) state :=
  ⟨holds, by rintro ⟨⟩, by rintro name ⟨⟩⟩

theorem permits : (within (σ := σ) commands certain).Permits where
  error := leaves_error
  limit _ := leaves_fault _
  moves _ := trivial
  holds unmoved holds := holds.congr unmoved.procedures (by rw [State.journal, unmoved.studio]; rfl)
  round _ leaves := ⟨leaves.1.congr rfl rfl, leaves.2⟩

theorem orMishap_asColor [Platform] (who : String) (value : Value) :
    (within (σ := σ) commands certain).Keeps (Machine.orMishap (value.asColor who)) := by
  rcases asked : value.asColor who with mishap | color
  · refine .exit fun state holds => ?_
    rcases Value.asColor_error asked with ⟨error, rfl, common⟩ | ⟨index, -, -, rfl⟩
    · exact leaves_error common holds
    · exact leaves_fault _ holds
  · exact .value trivial

theorem tell [Stage σ] (room : Nat) (deed : Deed) :
    (within (σ := σ) commands certain).Keeps (Machine.tell room deed) := by
  rintro ⟨⟨studio, output, procedures, draws⟩, scope⟩ holds
  have performed :
      (Studio.faultsExplained _ fun _ => True).GivesAt _ (Studio.perform room deed) studio :=
    Studio.perform_gives Stage.leaves_journal deed fun _ _ => trivial
  simp only [GivesAt, Machine.tell, ExceptT.run] at performed ⊢
  rcases ran : Studio.perform room deed studio with ⟨result, after⟩
  rw [ran] at performed
  obtain ⟨kept, ended⟩ := performed
  have stays : State.IsWithin commands certain ⟨⟨after, output, procedures, draws⟩, scope⟩ :=
    holds.congr rfl (Prod.mk.inj kept).2
  rcases result with (error | fault) | _
  · exact ⟨trivial, leaves_error ended stays⟩
  · exact ⟨trivial, leaves_fault fault stays⟩
  · exact ⟨trivial, trivial, stays⟩

/-- To note a command of the program stays within the program. -/
theorem note {command : Command} (inside : .command command ∈ nodesOf commands) :
    (within (σ := σ) commands certain).Keeps (Tracker.journal.note command) := by
  refine .change fun state holds => ⟨trivial, holds.definedBy, holds.certain, ?_⟩
  intro moment member
  rcases List.mem_cons.mp member with rfl | earlier
  · exact ⟨inside, holds.definedBy⟩
  · exact holds.journal moment earlier

/-- A definition of the program adds a procedure of the program, and one that is then certain. -/
theorem isWithin_define {state : State (Noted σ)} (holds : state.IsWithin commands certain)
    {name : String} {parameters : List String} {body : List Command} {origin : Origin}
    (inside : .command (.define name parameters body origin) ∈ nodesOf commands) :
    State.IsWithin commands (Text.fold name :: certain) { state with
      world := { state.world with
        procedures :=
          state.world.procedures.insert (Text.fold name) ⟨name, parameters, body⟩ } } := by
  refine ⟨?_, ?_, holds.journal⟩
  · intro key procedure found
    rw [State.bare, Bindings.find?_insert] at found
    split at found
    · rename_i same
      cases found
      exact ⟨same, origin, inside⟩
    · exact holds.definedBy key procedure found
  · intro key member
    rw [Bindings.find?_insert]
    split
    · rfl
    · rename_i other
      exact holds.certain key (List.mem_of_ne_of_mem other member)

/-- A definition of the program adds a procedure of the program. -/
theorem define {name : String} {parameters : List String} {body : List Command} {origin : Origin}
    (inside : .command (.define name parameters body origin) ∈ nodesOf commands) :
    (within (σ := σ) commands certain).Keeps (Machine.define ⟨name, parameters, body⟩) := by
  refine .change fun state holds => ⟨trivial, ?_⟩
  have defined := isWithin_define holds inside
  exact ⟨defined.definedBy, fun key member => defined.certain key (List.mem_cons_of_mem _ member),
    defined.journal⟩

theorem settled (procedure : Procedure) (asExpression : Bool) (inner : Scope)
    {body : Machine (Noted σ) (Option Value)}
    (keeps : (within commands certain).statements.Keeps body) :
    (within commands certain).Gives (fun result => asExpression = true → result.isSome = true) (do
      settle procedure asExpression (← Tracker.journal.within inner body)) := by
  refine Tracker.journal_settled permits contained procedure asExpression inner keeps
    (fun holds => holds.congr rfl rfl) ?_
  intro before inside result _ ended
  refine ⟨trivial, ?_⟩
  rcases result with exit | result
  · rcases ended with ⟨stays, leaves⟩ | ⟨ends, stays⟩
    · exact Or.inl ⟨stays.congr rfl rfl, leaves⟩
    · exact Or.inr ⟨ends, stays.congr rfl rfl⟩
  · exact ⟨trivial, ended.2.congr rfl rfl⟩

variable [Platform] [Stage σ]

/--
With a journal, every node of the program stays within it, if procedures do.  A
procedure that is known was defined by a node, so its body lies within the
program too.
-/
theorem upheld (wellFormed : StatementsWellFormed commands) (calls : Nat)
    (bodies : ∀ body, StatementsWellFormed body → nodesOf body ⊆ nodesOf commands →
      (within (σ := σ) commands certain).statements.Keeps (Tracker.journal.enter calls body)) :
    Tracker.journal.Upholds (within (σ := σ) commands certain) (Tracker.journal.depth calls)
      (· ∈ nodesOf commands) where
  permits := permits
  tell deed _ := tell calls deed
  note inside _ := note inside
  define inside _ := define inside
  undefined {name inputs asExpression origin state} here holds missing := by
    refine ⟨holds, by rintro ⟨⟩, ?_⟩
    rintro other same
    cases same
    refine ⟨fun member => ?_, inputs, asExpression, origin, here⟩
    have known := holds.certain _ member
    rw [missing] at known
    cases known
  settled {procedure} known asExpression inner := by
    obtain ⟨key, state, holds, found⟩ := known
    obtain ⟨-, origin, defined⟩ := holds.definedBy key procedure found
    refine settled procedure asExpression inner (bodies procedure.body ?_ ?_)
    · have node := wellFormed_of_mem_nodesOf commands wellFormed _ defined
      rwa [Node.WellFormed, Command.WellFormed] at node
    · have below := nodes_subset_of_mem_nodesOf defined
      rw [Node.nodes, Command.nodes] at below
      exact fun _ member => below (List.mem_cons_of_mem _ member)
  perilous inside := permits.perilous tell orMishap_asColor
    (fun state holds => ⟨holds, by rintro ⟨⟩, by rintro name ⟨⟩⟩) (note inside)

/-- The bodies of procedures stay within the program, however deep the calls are. -/
theorem bodies (wellFormed : StatementsWellFormed commands) (calls : Nat) :
    ∀ body, StatementsWellFormed body → nodesOf body ⊆ nodesOf commands →
      (within (σ := σ) commands certain).statements.Keeps (Tracker.journal.enter calls body) := by
  induction calls with
  | zero => exact fun _ _ _ => permits.statements.crash trivial
  | succ calls others =>
      intro body bodyWellFormed inside
      exact (upheld wellFormed calls others).statements none bodyWellFormed fun _ member =>
        inside member

/-- Commands of the program stay within it. -/
theorem statements (wellFormed : StatementsWellFormed commands) (calls : Nat)
    (previous : Option Value) {rest : List Command} (restWellFormed : StatementsWellFormed rest)
    (inside : nodesOf rest ⊆ nodesOf commands) :
    (within (σ := σ) commands certain).statements.Keeps
      (Tracker.journal.runFrom (Tracker.journal.depth calls) previous rest) :=
  (upheld wellFormed calls (bodies wellFormed calls)).statements previous restWellFormed
    fun _ member => inside member

end Conduct.within

/-! ## Definitions that come first -/

/--
Whether all definitions come first: they stand at the top level, with no definitions inside, and
before all other commands.
-/
def definesFirst : List Command → Bool
  | .define _ _ body _ :: rest => (definitionsOf body).isEmpty && definesFirst rest
  | commands => (definitionsOf commands).isEmpty

section

variable [Platform] [Stage σ] {commands : List Command}

/-- A definition at the top level is certain to be known from then on. -/
theorem Conduct.within.run_define {deeper : Depth (Noted σ)}
    {certain : List String} {state : State (Noted σ)} (holds : state.IsWithin commands certain)
    {name : String} {parameters : List String} {body : List Command} {origin : Origin}
    (inside : .command (.define name parameters body origin) ∈ nodesOf commands)
    (previous : Option Value) (rest : List Command) :
    ∃ after, after.IsWithin commands (Text.fold name :: certain) ∧
      (Tracker.journal.runFrom deeper previous (.define name parameters body origin :: rest)).run
        state = (Tracker.journal.runFrom deeper none rest).run after := by
  let noted := state.entered (.define name parameters body origin)
  let defined : State (Noted σ) := { noted with
    world := { noted.world with
      procedures := noted.world.procedures.insert (Text.fold name) ⟨name, parameters, body⟩ } }
  refine ⟨{ defined with scope := { defined.scope with lastResult := none } }, ?_, ?_⟩
  · have entered : noted.IsWithin commands certain := (note inside state holds).2.2
    exact (isWithin_define entered inside).congr rfl rfl
  · rw [Tracker.runFrom, Tracker.execute]
    rfl

/--
If all definitions come first, then all are certain for what comes after them. 
Along the definitions at the front, what is certain grows by one name each.
-/
theorem Conduct.within.first (wellFormed : StatementsWellFormed commands) (calls : Nat)
    {rest : List Command} (first : definesFirst rest = true)
    (restWellFormed : StatementsWellFormed rest) (inside : nodesOf rest ⊆ nodesOf commands)
    (previous : Option Value) {certain : List String} {state : State (Noted σ)}
    (holds : state.IsWithin commands certain)
    (covers : ∀ definition ∈ definitionsOf commands,
      definition.key ∈ certain ∨ definition ∈ definitionsOf rest) :
    ∃ known, (∀ definition ∈ definitionsOf commands, definition.key ∈ known) ∧
      (within commands known).statements.Ends (fun _ => True)
        ((Tracker.journal.runFrom (Tracker.journal.depth calls) previous rest).run state) := by
  fun_induction definesFirst rest generalizing previous certain state with
  | case1 name parameters body origin rest induction =>
      rw [Bool.and_eq_true, List.isEmpty_iff] at first
      rw [StatementsWellFormed] at restWellFormed
      rw [nodesOf, Command.nodes] at inside
      obtain ⟨after, within, ran⟩ :=
        run_define holds (inside List.mem_cons_self) previous rest
      rw [ran]
      refine induction first.2 restWellFormed.2.2 ?_ none within fun definition member => ?_
      · exact fun _ member => inside (List.mem_append_right _ member)
      · rcases covers definition member with known | late
        · exact Or.inl (List.mem_cons_of_mem _ known)
        · rw [definitionsOf, Command.definitions, first.1] at late
          rcases List.mem_cons.mp late with rfl | later
          · exact Or.inl List.mem_cons_self
          · exact Or.inr later
  | case2 rest other =>
      rw [List.isEmpty_iff] at first
      refine ⟨certain, fun definition member => ?_, ?_⟩
      · rcases covers definition member with known | late
        · exact known
        · rw [first] at late
          cases late
      · exact (statements wellFormed calls previous restWellFormed inside state holds).2

/--
What a whole run within a program has come to when it ends.  A whole program
refuses an output, which changes the exit, but to no missing procedure.
-/
theorem Conduct.within.run {program : Program} {certain : List String} {state : State (Noted σ)}
    (ended : (within program.commands certain).statements.Ends (fun _ => True)
      ((Tracker.journal.runFrom (Tracker.journal.depth Platform.calls) none
        program.commands).run state)) :
    ((Tracker.journal.run program).run state).2.IsWithin program.commands certain ∧
      ∀ exit, ((Tracker.journal.run program).run state).1 = .error exit →
        exit.IsWithin program.commands certain := by
  rw [Tracker.run, Effectful.run_tryCatch]
  generalize (Tracker.journal.runFrom (Tracker.journal.depth Platform.calls) none
    program.commands).run state = outcome at ended
  obtain ⟨exit | result, after⟩ := outcome
  · have within : after.IsWithin program.commands certain ∧
        (refuseOutput exit).IsWithin program.commands certain := by
      rcases ended with ⟨stays, contained, leaves⟩ | ⟨ends, stays⟩
      · refine ⟨stays, ?_⟩
        cases exit with
        | mishap mishap => exact leaves
        | signal signal =>
            cases signal with
            | output value => exact absurd (.output value) contained
            | stop | bye => exact leaves
      · refine ⟨stays, ?_⟩
        cases ends with
        | stop => rintro name ⟨⟩
        | output value => rintro name ⟨⟩
    refine ⟨within.1, fun other left => ?_⟩
    cases left
    exact within.2
  · exact ⟨ended.2, fun exit left => by cases left⟩

end

/-! ## Calls that happen -/

/--
A procedure takes exactly the values that it is given: no parameter is without a value, of which
a call would warn, no value is left over, and every parameter starts with its own value.
-/
structure Procedure.TakesExactly (procedure : Procedure) (values : List Value) : Prop where
  noneMissing : procedure.parameters.drop values.length = []
  allPaired : (procedure.parameters.zip values).unzip = (procedure.parameters, values)
  bound : ∀ parameter value, (parameter, value) ∈ procedure.parameters.zip values →
    (Scope.ofInputs procedure.parameters values).bindings.find? (Text.fold parameter) = some value

/-- With as many values as distinct parameters, each value is bound to its own. -/
theorem Procedure.takesExactly {procedure : Procedure} {values : List Value}
    (fits : procedure.parameters.length = values.length)
    (distinct : (procedure.parameters.map Text.fold).Nodup) : procedure.TakesExactly values where
  noneMissing := by rw [← fits, List.drop_length]
  allPaired := List.unzip_zip fits
  bound _ _ pair := Scope.find?_ofInputs_of_mem distinct fits pair

/-- There are as many values as inputs. -/
theorem length_of_resolveInputs {inputs : List (Input σ)} {state after : State σ}
    {values : List Value} (resolved : (resolveInputs inputs).run state = (.ok values, after)) :
    values.length = inputs.length := by
  induction inputs generalizing state values with
  | nil =>
      cases resolved
      rfl
  | cons input rest induction =>
      rw [resolveInputs, Effectful.run_bind_eq_ok_iff] at resolved
      obtain ⟨value, there, -, resolved⟩ := resolved
      rw [Effectful.run_bind_eq_ok_iff] at resolved
      obtain ⟨others, last, resolvedRest, gave⟩ := resolved
      cases gave
      rw [List.length_cons, List.length_cons, induction resolvedRest]

theorem length_inputsOf [Platform] [Stage σ] (deeper : Depth σ) (values : List Value) :
    (inputsOf deeper values).length = values.length := by
  induction values with
  | nil => rw [inputsOf, List.length_nil, List.length_nil]
  | cons value rest induction => rw [inputsOf, List.length_cons, List.length_cons, induction]

/-- In a program without bad calls, a call that happens within it finds what it needs. -/
theorem Moment.IsWithin.parameters_eq {program : Program} (checked : program.badCalls = [])
    (distinct : ((definitionsOf program.commands).map Definition.key).Nodup) {moment : Moment σ}
    (within : moment.IsWithin program.commands) {name : String} {inputs : List Value}
    {asExpression : Bool} {origin : Origin} {procedure : Procedure}
    (calls : moment.command = .call name inputs asExpression origin)
    (found : moment.state.world.procedures.find? (Text.fold name) = some procedure) :
    procedure.parameters.length = inputs.length := by
  obtain ⟨key, written, defined⟩ := within.definedBy _ _ found
  have called := within.command
  rw [calls] at called
  exact Program.inputs_eq_of_key checked distinct (mem_callsOf called) (mem_definitionsOf defined)
    key.symm

/--
If no call of a program is bad and no name is defined twice, then in every run of the program the
calls that happen give their procedures as many inputs as these have parameters, so that no call
warns, and no procedure is missing but one that is defined in the program.  A procedure whose
parameters are distinct then takes exactly the inputs that it is given.  If moreover all
definitions come first, then no procedure is missing at all.
-/
theorem Program.calls_fit_of_badCalls_eq_nil [Platform] [Stage σ] (text : String)
    (checked : (Program.ofText text).badCalls = [])
    (distinct : ((definitionsOf (Program.ofText text).commands).map Definition.key).Nodup)
    (state : State σ) (known : state.DefinedBy (Program.ofText text).commands) :
    ∃ result after,
      (Tracker.journal.run (Program.ofText text)).run state.noted = (result, after) ∧
      (Program.ofText text).run.run state = (result, after.bare) ∧
      (∀ moment ∈ after.journal, ∀ name inputs asExpression origin procedure,
        moment.command = .call name inputs asExpression origin →
        moment.state.world.procedures.find? (Text.fold name) = some procedure →
          procedure.parameters.length = inputs.length ∧
          ∀ (deeper : Depth σ) (values : List Value) there,
            (resolveInputs (inputsOf deeper inputs)).run moment.state = (.ok values, there) →
              procedure.parameters.drop values.length = [] ∧
                ((procedure.parameters.map Text.fold).Nodup → procedure.TakesExactly values)) ∧
      (∀ name, result = .error (.mishap (.error (.undefinedProcedure name))) →
        ∃ definition ∈ definitionsOf (Program.ofText text).commands,
          definition.key = Text.fold name) ∧
      (definesFirst (Program.ofText text).commands = true →
        ∀ name, result ≠ .error (.mishap (.error (.undefinedProcedure name)))) := by
  have wellFormed : StatementsWellFormed (Program.ofText text).commands :=
    Program.ofTokens_wellFormed text (Program.genuine_scan text)
  have begun : state.noted.IsWithin (Program.ofText text).commands [] :=
    ⟨known, fun _ member => absurd member List.not_mem_nil, fun _ member =>
      absurd member List.not_mem_nil⟩
  obtain ⟨stays, leaves⟩ := Conduct.within.run
    (Conduct.within.statements wellFormed Platform.calls none wellFormed (fun _ => id) _ begun).2
  have same := (Tracker.journal_run_agrees (Program.ofText text)).run_bare state.noted
  have defined {name : String} {certain : List String}
      (missing : Exit.IsWithin (Program.ofText text).commands certain
        (.mishap (.error (.undefinedProcedure name)))) :
      Text.fold name ∉ certain ∧ ∃ definition ∈ definitionsOf (Program.ofText text).commands,
        definition.key = Text.fold name := by
    obtain ⟨uncertain, _, _, _, called⟩ := missing name rfl
    obtain ⟨definition, member, key, -⟩ :=
      Program.exists_definition checked (mem_callsOf called)
    exact ⟨uncertain, definition, member, key⟩
  refine ⟨_, _, rfl, same, ?_, ?_, ?_⟩
  · intro moment member name inputs asExpression origin procedure calls found
    have fits := (stays.journal moment member).parameters_eq checked distinct calls found
    refine ⟨fits, fun deeper values there resolved => ?_⟩
    have given : procedure.parameters.length = values.length := by
      rw [fits, length_of_resolveInputs resolved, length_inputsOf]
    exact ⟨by rw [← given, List.drop_length], Procedure.takesExactly given⟩
  · intro name missing
    exact (defined (leaves _ missing)).2
  · intro first name missing
    obtain ⟨certain, covers, ended⟩ := Conduct.within.first wellFormed Platform.calls first
      wellFormed (fun _ => id) none begun fun _ => Or.inr
    obtain ⟨uncertain, definition, member, key⟩ :=
      defined ((Conduct.within.run ended).2 _ missing)
    exact uncertain (key ▸ covers definition member)

/-- A procedure that calls itself inside a block, with both of its inputs. -/
theorem Program.calls_fit_of_countdown :
    letI := Platform.standard
    ∃ result after moment name inputs asExpression origin procedure,
      (Program.ofText "TO DOWN :N :M IF :N > 0 [DOWN :N - 1 :M] END DOWN 1 \"A").run.run
        (State.initial () fun _ => 0) = (result, State.bare after) ∧
      moment ∈ after.journal ∧ moment.command = .call name inputs asExpression origin ∧
      moment.state.world.procedures.find? (Text.fold name) = some procedure ∧
      procedure.parameters.length = inputs.length ∧
      ∀ name, result ≠ .error (.mishap (.error (.undefinedProcedure name))) := by
  let _ := Platform.standard
  obtain ⟨result, after, ran, same, fits, -, never⟩ := Program.calls_fit_of_badCalls_eq_nil
    "TO DOWN :N :M IF :N > 0 [DOWN :N - 1 :M] END DOWN 1 \"A" (by decide +kernel)
    (by decide +kernel) (State.initial () fun _ => 0) (fun _ _ found => by cases found)
  have called : (((Tracker.journal.run (Program.ofText
      "TO DOWN :N :M IF :N > 0 [DOWN :N - 1 :M] END DOWN 1 \"A")).run
        (State.initial () fun _ => 0).noted).2.journal.any fun moment =>
          (Node.command moment.command).call?.any fun call =>
            (moment.state.world.procedures.find? (Text.fold call.name)).isSome) = true := by
    decide +kernel
  rw [ran] at called
  obtain ⟨moment, member, calls⟩ := List.any_eq_true.mp called
  obtain ⟨call, calls, known⟩ := (Option.any_eq_true _ _).mp calls
  obtain ⟨inputs, asExpression, origin, command⟩ := Node.exists_of_call? calls
  obtain ⟨procedure, found⟩ := Option.isSome_iff_exists.mp known
  exact ⟨result, after, moment, call.name, inputs, asExpression, origin, procedure, same, member,
    command, found, (fits moment member call.name inputs asExpression origin procedure command
      found).1, never (by decide +kernel)⟩

/-- A text in which a procedure has the same parameter twice. -/
def Program.twinParameters : String :=
  "TO F :A :A PRINT :A END F \"X \"Y"

/-- Whether what happens is that a procedure with a parameter twice is called with two words. -/
def Moment.isTwinCall [Platform] (moment : Moment Unit) : Bool :=
  match moment.command with
  | .call name inputs _ _ =>
      ((moment.state.world.procedures.find? (Text.fold name)).any fun procedure =>
        procedure.parameters = ["A", "A"]) &&
      match ((resolveInputs (inputsOf (.within 1) inputs)).run moment.state).1 with
      | .ok [.word first, .word second] => first = "X" && second = "Y"
      | _ => false
  | _ => false

/-- The first of two values for the same parameter is lost. -/
theorem Procedure.not_takesExactly_twins {procedure : Procedure}
    (twins : procedure.parameters = ["A", "A"]) :
    ¬procedure.TakesExactly [.word "X", .word "Y"] := by
  intro takes
  have bound := takes.bound
  rw [twins] at bound
  have clash : Value.word "Y" = .word "X" :=
    Option.some.inj (bound "A" (.word "X") List.mem_cons_self)
  exact absurd (Value.word.inj clash) (by decide)

/--
A procedure with the same parameter twice is in order for the check, and so is a call with two
inputs.  But when the call happens, its first input is lost.
-/
theorem Program.twinParameters_lose_input :
    letI := Platform.standard
    (Program.ofText twinParameters).isClean = true ∧
      (Program.ofText twinParameters).badCalls = [] ∧
      ((definitionsOf (Program.ofText twinParameters).commands).map Definition.key).Nodup ∧
      ∃ moment ∈ ((Tracker.journal.run (Program.ofText twinParameters)).run
          (State.initial () fun _ => 0).noted).2.journal,
        ∃ name inputs asExpression origin procedure values there,
          moment.command = .call name inputs asExpression origin ∧
          moment.state.world.procedures.find? (Text.fold name) = some procedure ∧
          (resolveInputs (inputsOf (.within 1) inputs)).run moment.state = (.ok values, there) ∧
          ¬procedure.TakesExactly values := by
  let _ := Platform.standard
  refine ⟨by decide +kernel, by decide +kernel, by decide +kernel, ?_⟩
  have called : (((Tracker.journal.run (Program.ofText twinParameters)).run
      (State.initial () fun _ => 0).noted).2.journal.any Moment.isTwinCall) = true := by
    decide +kernel
  obtain ⟨moment, member, calls⟩ := List.any_eq_true.mp called
  refine ⟨moment, member, ?_⟩
  rw [Moment.isTwinCall] at calls
  split at calls
  case h_2 => cases calls
  rename_i name inputs asExpression origin command
  rw [Bool.and_eq_true, Option.any_eq_true] at calls
  obtain ⟨⟨procedure, found, twins⟩, gives⟩ := calls
  rcases resolved : (resolveInputs (inputsOf (.within 1) inputs)).run moment.state with
    ⟨result, there⟩
  rw [resolved] at gives
  split at gives
  case h_2 => cases gives
  rename_i first second values
  simp only [Bool.and_eq_true, decide_eq_true_eq] at gives twins
  obtain ⟨rfl, rfl⟩ := gives
  cases values
  exact ⟨name, inputs, asExpression, origin, procedure, _, there, command, found, resolved,
    Procedure.not_takesExactly_twins twins⟩

/-- A definition that comes too late is in order for the check, but not yet known to the call. -/
example :
    letI := Platform.standard
    (Program.ofText "F TO F PRINT 1 END").badCalls = [] ∧
      (match ((Program.ofText "F TO F PRINT 1 END").run.run (State.initial () fun _ => 0)).1 with
        | .error (.mishap (.error error)) => some error
        | _ => none) = some (.undefinedProcedure "F") := by
  decide +kernel

end Logo
