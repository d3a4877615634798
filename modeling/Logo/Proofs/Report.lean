import Logo.Proofs.Machine.Checked
import Logo.Proofs.Program.Paths
import Logo.Report

/-!
# What a check reports

A call of a program is bad in the light of all definitions of the program, those
that come later included.  This module says so about paths in the tree, without
the lists that the check makes: a call has no definition if no path leads to a
definition of its name, and otherwise the definition with the last path counts.

The check reports exactly these calls, each of them once and in the order of
their paths.  A report with a limit stops with the finding that reaches it.
-/

namespace Logo

/-! ## Reports with a limit -/

namespace Report

theorem upTo_snoc (limit : Int) (findings : List Finding) (finding : Finding) :
    upTo limit (findings ++ [finding]) = (upTo limit findings).add limit finding := by
  rw [upTo, List.foldl_append]
  rfl

/-- A limit below one is none. -/
theorem upTo_of_lt_one {limit : Int} (below : limit < 1) (findings : List Finding) :
    upTo limit findings = ⟨findings, false⟩ := by
  induction findings using List.reverseRecOn with
  | nil => rfl
  | append_singleton findings finding induction =>
      have short : (((findings ++ [finding]).length : Int) == limit) = false := by
        rw [List.length_append, List.length_singleton, beq_eq_false_iff_ne]
        omega
      rw [upTo_snoc, induction, add]
      simp only [Bool.false_eq_true, if_false, short]

/--
A report takes findings until they are as many as its limit, and the last of
these ends it.  A report that gave up before leaves the finding out.
-/
theorem upTo_natCast {limit : Nat} (positive : 1 ≤ limit) (findings : List Finding) :
    upTo limit findings = ⟨findings.take limit, decide (limit ≤ findings.length)⟩ := by
  induction findings using List.reverseRecOn with
  | nil =>
      have short : decide (limit ≤ ([] : List Finding).length) = false := by
        simpa using Nat.ne_of_gt positive
      rw [short, List.take_nil]
      rfl
  | append_singleton findings finding induction =>
      rw [upTo_snoc, induction, add]
      by_cases full : limit ≤ findings.length
      · have still : limit ≤ (findings ++ [finding]).length := by
          rw [List.length_append]
          omega
        simp only [full, still, decide_true, if_true, List.take_append_of_le_length full]
      · have room : (findings ++ [finding]).length ≤ limit := by
          rw [List.length_append, List.length_singleton]
          omega
        have last : (((findings ++ [finding]).length : Int) == limit) =
            decide (limit ≤ (findings ++ [finding]).length) := by
          rw [Bool.eq_iff_iff, beq_iff_eq, decide_eq_true_iff]
          omega
        simp only [full, decide_false, Bool.false_eq_true, if_false,
          List.take_of_length_le (Nat.le_of_not_le full), last, List.take_of_length_le room]

end Report

/-! ## Definitions along paths -/

namespace Program

/-- The tree of a program: its commands are the parts of one block. -/
def root (program : Program) : Node :=
  .value (.block program.commands)

/-- The call that a path leads to. -/
def callAt? (program : Program) (path : List Nat) : Option Call :=
  (program.root.at? path).bind Node.call?

/-- The definition that a path leads to. -/
def definitionAt? (program : Program) (path : List Nat) : Option Definition :=
  (program.root.at? path).bind Node.definition?

theorem callAt?_eq_some_iff {program : Program} {path : List Nat} {call : Call} :
    program.callAt? path = some call ↔
      ∃ node, ⟨path, node⟩ ∈ program.root.walk ∧ node.call? = some call := by
  simp only [callAt?, Option.bind_eq_some_iff, Node.mem_walk_iff]

theorem definitionAt?_eq_some_iff {program : Program} {path : List Nat} {definition : Definition} :
    program.definitionAt? path = some definition ↔
      ∃ node, ⟨path, node⟩ ∈ program.root.walk ∧ node.definition? = some definition := by
  simp only [definitionAt?, Option.bind_eq_some_iff, Node.mem_walk_iff]

end Program

/--
What is wrong with a call of a program.  Either no path leads to a definition
of its name, or the definition with the last path takes another number of inputs.
-/
inductive Call.HasFlaw (program : Program) (call : Call) : CallFlaw → Prop where
  | undefined
      (nowhere : ∀ path definition, program.definitionAt? path = some definition →
        definition.key ≠ Text.fold call.name) :
      HasFlaw program call .undefined
  | takes {path : List Nat} {definition : Definition}
      (defined : program.definitionAt? path = some definition)
      (named : definition.key = Text.fold call.name)
      (last : ∀ later other, path < later → program.definitionAt? later = some other →
        other.key ≠ Text.fold call.name)
      (differs : call.inputs ≠ definition.inputs) :
      HasFlaw program call (.takes definition.inputs)

/-- The last definition of a name is one with no other after it. -/
theorem lastDefinition?_eq_some_iff_append {definitions : List Definition} {name : String}
    {definition : Definition} :
    lastDefinition? definitions name = some definition ↔
      definition.key = Text.fold name ∧
        ∃ before after, definitions = before ++ definition :: after ∧
          ∀ other ∈ after, other.key ≠ Text.fold name := by
  rw [lastDefinition?, List.find?_eq_some_iff_append, beq_iff_eq]
  refine and_congr_right fun _ => ⟨?_, ?_⟩
  · rintro ⟨after, before, split, others⟩
    refine ⟨before.reverse, after.reverse, ?_, fun other member => ?_⟩
    · rw [← List.reverse_reverse definitions, split]
      simp
    · simpa using others other (List.mem_reverse.mp member)
  · rintro ⟨before, after, rfl, others⟩
    refine ⟨after.reverse, before.reverse, by simp, fun other member => ?_⟩
    simpa using others other (List.mem_reverse.mp member)

section

variable {program : Program} (wellFormed : StatementsWellFormed program.commands)
include wellFormed

theorem Program.filterMap_nodesOf {α : Type} {own : Node → Option α}
    (plain : ∀ value, own (.value value) = none) :
    (nodesOf program.commands).filterMap own =
      program.root.walk.filterMap fun location => own location.node := by
  have whole : program.root.WellFormed := wellFormed
  rw [Node.filterMap_walk plain whole, root, Node.nodes, Value.nodes,
    List.filterMap_cons_none (plain _)]

/-- Calls are listed in the order of the walk. -/
theorem Program.callsOf_eq_walk :
    callsOf program.commands =
      program.root.walk.filterMap fun location => location.node.call? := by
  rw [callsOf_eq, filterMap_nodesOf wellFormed fun _ => rfl]

theorem Program.definitionsOf_eq_walk :
    definitionsOf program.commands =
      program.root.walk.filterMap fun location => location.node.definition? := by
  rw [definitionsOf_eq, filterMap_nodesOf wellFormed fun _ => rfl]

theorem Program.lastDefinition?_eq_none_iff {name : String} :
    lastDefinition? (definitionsOf program.commands) name = none ↔
      ∀ path definition, program.definitionAt? path = some definition →
        definition.key ≠ Text.fold name := by
  rw [definitionsOf_eq_walk wellFormed, lastDefinition?, List.find?_eq_none]
  constructor
  · intro none path definition defined
    obtain ⟨node, member, defines⟩ := definitionAt?_eq_some_iff.mp defined
    simpa using none definition
      (List.mem_reverse.mpr (List.mem_filterMap.mpr ⟨_, member, defines⟩))
  · intro nowhere definition member
    obtain ⟨location, inside, defines⟩ := List.mem_filterMap.mp (List.mem_reverse.mp member)
    simpa using nowhere location.path definition
      (definitionAt?_eq_some_iff.mpr ⟨location.node, inside, defines⟩)

/--
The last definition of a name is the one on the last path.  A cut in the list
of definitions is a cut in the walk, and there the paths decide.
-/
theorem Program.lastDefinition?_eq_some_iff {name : String} {definition : Definition} :
    lastDefinition? (definitionsOf program.commands) name = some definition ↔
      definition.key = Text.fold name ∧ ∃ path, program.definitionAt? path = some definition ∧
        ∀ later other, path < later → program.definitionAt? later = some other →
          other.key ≠ Text.fold name := by
  rw [definitionsOf_eq_walk wellFormed, lastDefinition?_eq_some_iff_append]
  refine and_congr_right fun _ => ⟨?_, ?_⟩
  · rintro ⟨before, after, split, others⟩
    obtain ⟨first, rest, walk, rfl, tail⟩ := List.filterMap_eq_append_iff.mp split
    obtain ⟨skipped, location, behind, rfl, -, defines, rfl⟩ := List.filterMap_eq_cons_iff.mp tail
    rw [← List.append_assoc] at walk
    refine ⟨location.path, definitionAt?_eq_some_iff.mpr ⟨location.node, ?_, defines⟩, ?_⟩
    · rw [walk]
      simp
    · intro later other follows defined
      obtain ⟨node, member, definesOther⟩ := definitionAt?_eq_some_iff.mp defined
      have listed := (Node.mem_after_iff walk).mpr ⟨member, follows⟩
      exact others other (List.mem_filterMap.mpr ⟨_, listed, definesOther⟩)
  · rintro ⟨path, defined, last⟩
    obtain ⟨node, member, defines⟩ := definitionAt?_eq_some_iff.mp defined
    obtain ⟨before, after, walk⟩ := List.append_of_mem member
    refine ⟨before.filterMap fun location => location.node.definition?,
      after.filterMap fun location => location.node.definition?, ?_, fun other listed => ?_⟩
    · simp only [walk, List.filterMap_append, List.filterMap_cons, defines]
    · obtain ⟨later, behind, definesOther⟩ := List.mem_filterMap.mp listed
      obtain ⟨inside, follows⟩ := (Node.mem_after_iff walk).mp behind
      exact last later.path other follows
        (definitionAt?_eq_some_iff.mpr ⟨later.node, inside, definesOther⟩)

/-- The check finds the flaw that a call has, and finds none in other calls. -/
theorem Call.flaw?_eq_some_iff {call : Call} {flaw : CallFlaw} :
    call.flaw? (definitionsOf program.commands) = some flaw ↔ call.HasFlaw program flaw := by
  unfold Call.flaw?
  constructor
  · intro found
    split at found
    · rename_i missing
      cases found
      exact .undefined ((Program.lastDefinition?_eq_none_iff wellFormed).mp missing)
    · rename_i definition present
      obtain ⟨named, path, defined, last⟩ :=
        (Program.lastDefinition?_eq_some_iff wellFormed).mp present
      split at found
      · cases found
      · rename_i differs
        cases found
        exact .takes defined named last (by simpa using differs)
  · intro flawed
    cases flawed with
    | undefined nowhere =>
        rw [(Program.lastDefinition?_eq_none_iff wellFormed).mpr nowhere]
    | takes defined named last differs =>
        rw [(Program.lastDefinition?_eq_some_iff wellFormed).mpr ⟨named, _, defined, last⟩]
        simp [differs]

end

/-! ## Bad calls along paths -/

/-- A bad call, with the path that leads to it. -/
structure FlawedCall where
  path : List Nat
  call : Call
  flaw : CallFlaw

namespace FlawedCall

/-- What a report says about a bad call. -/
def finding (flawed : FlawedCall) : Finding :=
  .badCall flawed.call flawed.flaw

/-- The call stands in the program where the path leads, and has the flaw. -/
structure OccursIn (program : Program) (flawed : FlawedCall) : Prop where
  here : program.callAt? flawed.path = some flawed.call
  flawed : flawed.call.HasFlaw program flawed.flaw

end FlawedCall

/-- The bad call at a location, if there is one, in the light of some definitions. -/
def Location.flawedCall? (definitions : List Definition) (location : Location) :
    Option FlawedCall :=
  location.node.call?.bind fun call =>
    (call.flaw? definitions).map fun flaw => ⟨location.path, call, flaw⟩

theorem Location.path_of_flawedCall? {definitions : List Definition} {location : Location}
    {flawed : FlawedCall} (found : location.flawedCall? definitions = some flawed) :
    flawed.path = location.path := by
  obtain ⟨call, -, found⟩ := Option.bind_eq_some_iff.mp found
  obtain ⟨flaw, -, rfl⟩ := Option.map_eq_some_iff.mp found
  rfl

namespace Program

/-- The bad calls that a walk through a program comes to. -/
def flawedCalls (program : Program) : List FlawedCall :=
  program.root.walk.filterMap (Location.flawedCall? (definitionsOf program.commands))

/-- Bad calls are listed in the order of their paths. -/
theorem flawedCalls_ordered (program : Program) :
    program.flawedCalls.Pairwise fun earlier later => earlier.path < later.path := by
  refine program.root.walk_ordered.filterMap _ fun _ _ before left first right second => ?_
  rw [Location.path_of_flawedCall? first, Location.path_of_flawedCall? second]
  exact before

section

variable {program : Program} (wellFormed : StatementsWellFormed program.commands)
include wellFormed

/-- The bad calls that are listed are those that occur. -/
theorem mem_flawedCalls_iff {flawed : FlawedCall} :
    flawed ∈ program.flawedCalls ↔ flawed.OccursIn program := by
  rw [flawedCalls, List.mem_filterMap]
  constructor
  · rintro ⟨⟨path, node⟩, member, found⟩
    obtain ⟨call, calls, found⟩ := Option.bind_eq_some_iff.mp found
    obtain ⟨flaw, known, rfl⟩ := Option.map_eq_some_iff.mp found
    exact ⟨callAt?_eq_some_iff.mpr ⟨node, member, calls⟩,
      (Call.flaw?_eq_some_iff wellFormed).mp known⟩
  · rintro ⟨here, flaw⟩
    obtain ⟨node, member, calls⟩ := callAt?_eq_some_iff.mp here
    refine ⟨⟨flawed.path, node⟩, member, ?_⟩
    rw [Location.flawedCall?, calls, Option.bind_some, (Call.flaw?_eq_some_iff wellFormed).mpr flaw]
    rfl

theorem callFindings_eq : program.callFindings = program.flawedCalls.map FlawedCall.finding := by
  rw [callFindings, badCalls, callsOf_eq_walk wellFormed, flawedCalls, List.filterMap_filterMap,
    List.map_filterMap, List.map_filterMap]
  refine List.filterMap_congr fun location _ => ?_
  rw [Location.flawedCall?]
  cases location.node.call? with
  | none => rfl
  | some call => simp [Function.comp_def, FlawedCall.finding]

end

/--
The check of a text without issues reports exactly its bad calls.  They make up
one row: a call is in the row just if its path leads to it and it has the flaw,
wherever in the tree that is, and the paths come in order.  Without a limit the
findings are these calls, one finding for each.  With a limit they are the first
of these, as many as the limit allows, and the report gives up just if the bad
calls are no fewer than the limit.
-/
theorem check_reports_flawed_calls (text : String) (clean : (ofText text).isClean = true) :
    ∃ flawed : List FlawedCall,
      (flawed.Pairwise fun earlier later => earlier.path < later.path) ∧
      (∀ call, call ∈ flawed ↔ call.OccursIn (ofText text)) ∧
      (∀ limit < 1, (ofText text).check limit = ⟨flawed.map FlawedCall.finding, false⟩) ∧
      ∀ limit : Nat, 1 ≤ limit →
        ((ofText text).check limit).findings =
            (flawed.map FlawedCall.finding).take (min limit flawed.length) ∧
          (((ofText text).check limit).overflow = true ↔ limit ≤ flawed.length) := by
  have wellFormed : StatementsWellFormed (ofText text).commands :=
    ofTokens_wellFormed text (genuine_scan text)
  have checked (limit : Int) : (ofText text).check limit =
      .upTo limit ((ofText text).flawedCalls.map FlawedCall.finding) := by
    rw [check, if_pos clean, callFindings_eq wellFormed]
  refine ⟨(ofText text).flawedCalls, flawedCalls_ordered _,
    fun call => mem_flawedCalls_iff wellFormed, fun limit below => ?_, fun limit positive => ?_⟩
  · rw [checked, Report.upTo_of_lt_one below]
  · rw [checked, Report.upTo_natCast positive, List.length_map]
    constructor
    · rw [List.take_eq_take_min, List.length_map]
    · exact decide_eq_true_iff

/--
Bad calls in a body, in a block and in the input of a call that is an input
itself.  The definition that counts comes last and writes its name otherwise.
-/
theorem check_reports_scattered_calls :
    let text := "TO F :A G END REPEAT 2 [F 1 H] to f :a :b end PRINT F 1 K"
    (ofText text).isClean = true ∧ ∃ flawed : List FlawedCall,
      (flawed.Pairwise fun earlier later => earlier.path < later.path) ∧
      (∀ call, call ∈ flawed ↔ call.OccursIn (ofText text)) ∧
      flawed.map (fun call => call.finding.mark?) =
        [some (8, 9, ""), some (24, 25, "F takes 2 inputs, but got 1 here."), some (28, 29, ""),
          some (56, 57, "")] ∧
      ((ofText text).check 4).overflow = true ∧ ((ofText text).check 5).overflow = false := by
  intro text
  have clean : (ofText text).isClean = true := by decide +kernel
  have marks : ((ofText text).check 0).findings.map Finding.mark? =
      [some (8, 9, ""), some (24, 25, "F takes 2 inputs, but got 1 here."), some (28, 29, ""),
        some (56, 57, "")] := by
    decide +kernel
  obtain ⟨flawed, ordered, listed, whole, limited⟩ := check_reports_flawed_calls text clean
  rw [whole 0 (by decide), List.map_map] at marks
  have four : flawed.length = 4 := by simpa using congrArg List.length marks
  refine ⟨clean, flawed, ordered, listed, marks, ?_, ?_⟩
  · exact (limited 4 (by decide)).2.mpr four.ge
  · exact Bool.eq_false_iff.mpr fun full => absurd ((limited 5 (by decide)).2.mp full) (by omega)

end Program

end Logo
