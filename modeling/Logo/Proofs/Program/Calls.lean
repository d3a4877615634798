import Logo.Proofs.Program.Continuation

/-!
# Calls and the definitions before them

A call takes as many inputs as the nearest definition before it has parameters,
and a call with no definition before it takes inputs up to where none can begin.

Both are read off one walk through the nodes of a tree in the order of the text.
The walk carries the arities that are known so far and the tokens that are still
ahead.  Each command begins with one of these tokens, each definition adds to
the arities, and each call is read with the arities that are known when it
begins.  So the nearest definition before a call is the last one on the walk,
which is the one that is found when the name is looked up.

That a call never ends at an input that could not be read holds only without
issues: what follows there would be neither an input nor a statement.
-/

namespace Logo

/-- Where the command at a node begins. -/
def Node.start? : Node → Option Nat
  | .value _ => none
  | .command tree => some tree.origin.start

/-- The command at the first node, if both have one, begins before the one at the second. -/
def Node.Precedes (first second : Node) : Prop :=
  ∀ place ∈ first.start?, ∀ later ∈ second.start?, place < later

/-- The name and the arity that a definition announces. -/
def Node.announcement? : Node → Option (String × Nat)
  | .command (.define name parameters _ _) => some (name, parameters.length)
  | _ => none

/-- A node announces a name. -/
def Node.Announces (name : String) (node : Node) : Prop :=
  ∃ arity, node.announcement? = some (name, arity)

/-- Only a definition announces a name. -/
theorem Node.exists_of_announcement? {node : Node} {name : String} {arity : Nat}
    (told : node.announcement? = some (name, arity)) :
    ∃ parameters body origin, node = .command (.define name parameters body origin) := by
  unfold announcement? at told
  split at told
  · cases told
    exact ⟨_, _, _, rfl⟩
  · cases told

namespace Program

/-- The arities that the definitions before a place announce, the nearest one first. -/
def announcedBefore (commands : List Command) (place : Nat) : Arities :=
  (((nodesOf commands).filter fun node => node.start?.any (· < place)).filterMap
    Node.announcement?).reverse

/-- The definition of a name that begins before a place and after all others that do. -/
def IsNearestBefore (commands : List Command) (name : String) (place : Nat)
    (parameters : List String) : Prop :=
  ∃ body origin, .command (.define name parameters body origin) ∈ nodesOf commands ∧
    origin.start < place ∧
      ∀ otherParameters otherBody otherOrigin,
        .command (.define name otherParameters otherBody otherOrigin) ∈ nodesOf commands →
          otherOrigin.start < place → otherOrigin.start ≤ origin.start

namespace Grammar

/--
One node in the order of the text: what is known and what is ahead before it,
and after its own token has been read.  A value has no token of its own.
-/
inductive NodeRead : Arities → List Token → Node → Arities → List Token → Prop where
  | value {known : Arities} {ahead rest : List Token} {value : Value} (suffix : rest <:+ ahead) :
      NodeRead known ahead (.value value) known rest
  | primitive {known : Arities} {ahead rest : List Token} {token : Token} {primitive : Primitive}
      {inputs : List Value} (suffix : token :: rest <:+ ahead) :
      NodeRead known ahead (.command (.primitive primitive inputs (originOf token))) known rest
  | call {known : Arities} {ahead rest : List Token} {token : Token} {name : String}
      {inputs : List Value} {asExpression : Bool} {stop : Cursor}
      (suffix : token :: rest <:+ ahead) (kind : token.kind = .procedure name)
      (taken : Inputs known (.ofCall known name) ⟨token, rest⟩ inputs stop)
      (quiet : stop.IsQuiet known) :
      NodeRead known ahead (.command (.call name inputs asExpression (originOf token))) known rest
  | define {known : Arities} {ahead rest : List Token} {token : Token} {name : String}
      {parameters : List String} {body : List Command} (suffix : token :: rest <:+ ahead) :
      NodeRead known ahead (.command (.define name parameters body (originOf token)))
        ((name, parameters.length) :: known) rest

/-- A walk through nodes in the order of the text. -/
inductive NodesRead : Arities → List Token → List Node → Arities → List Token → Prop where
  | done {known : Arities} {ahead last : List Token} (suffix : last <:+ ahead) :
      NodesRead known ahead [] known last
  | step {known middle after : Arities} {ahead between last : List Token} {node : Node}
      {nodes : List Node} (first : NodeRead known ahead node middle between)
      (others : NodesRead middle between nodes after last) :
      NodesRead known ahead (node :: nodes) after last

/-- A node may be read from further back. -/
theorem NodeRead.widen {known middle : Arities} {ahead longer between : List Token} {node : Node}
    (read : NodeRead known ahead node middle between) (suffix : ahead <:+ longer) :
    NodeRead known longer node middle between := by
  cases read with
  | value own => exact .value (own.trans suffix)
  | primitive own => exact .primitive (own.trans suffix)
  | call own kind taken quiet => exact .call (own.trans suffix) kind taken quiet
  | define own => exact .define (own.trans suffix)

namespace NodesRead

variable {known middle after : Arities} {ahead longer between shorter last : List Token}
  {nodes more front back : List Node} {node : Node}

theorem widen (walk : NodesRead known ahead nodes after last) (suffix : ahead <:+ longer) :
    NodesRead known longer nodes after last := by
  cases walk with
  | done own => exact .done (own.trans suffix)
  | step first others => exact .step (first.widen suffix) others

/-- Two walks make one if the second begins where the first one ends. -/
theorem append (walk : NodesRead known ahead nodes middle between)
    (others : NodesRead middle between more after last) :
    NodesRead known ahead (nodes ++ more) after last := by
  induction walk with
  | done suffix => exact others.widen suffix
  | step first _ hypothesis => exact .step first (hypothesis others)

/-- A walk may end later. -/
theorem narrow (walk : NodesRead known ahead nodes after last) (suffix : shorter <:+ last) :
    NodesRead known ahead nodes after shorter := by
  simpa using walk.append (.done suffix)

/-- A walk can be interrupted at any node. -/
theorem split (walk : NodesRead known ahead (front ++ back) after last) :
    ∃ middle between, NodesRead known ahead front middle between ∧
      NodesRead middle between back after last := by
  induction front generalizing known ahead with
  | nil => exact ⟨known, ahead, .done (List.suffix_refl ahead), walk⟩
  | cons node front hypothesis =>
      cases walk with
      | step first others =>
          obtain ⟨middle, between, before, further⟩ := hypothesis others
          exact ⟨middle, between, .step first before, further⟩

theorem value {value : Value} (walk : NodesRead known ahead nodes after last) :
    NodesRead known ahead (.value value :: nodes) after last :=
  .step (.value (List.suffix_refl ahead)) walk

/--
A sign adds no node that reads a token.  A minus makes another number of a
number, and an operation of anything else.
-/
theorem applySign {operand : Value} (walk : NodesRead known ahead operand.nodes after last)
    (glyph : String) : NodesRead known ahead (applySign glyph operand).nodes after last := by
  unfold Program.applySign
  split
  · exact walk
  · split
    · rw [Value.nodes] at walk ⊢
      cases walk with
      | step first others =>
          cases first with
          | value suffix => exact (others.widen suffix).value
    · rw [Value.nodes, Value.nodes]
      exact walk.value.value

end NodesRead

/-! ## Trees are walked through -/

mutual

/-- Reading an expression meets its nodes in the order of the text. -/
theorem Expression.nodesRead {arities : Arities} {cursor last : Cursor} {value : Value} :
    Expression arities cursor value last → last.IsQuiet arities →
      NodesRead arities cursor.ahead value.nodes arities last.ahead
  | .single first _, quiet => first.nodesRead quiet
  | .operation first kind _ second _ allowed, quiet => by
      have before := first.nodesRead (isQuiet_operator kind second allowed)
      rw [Value.nodes]
      exact ((before.narrow (List.suffix_cons _ _)).append (second.nodesRead quiet)).value

theorem Primary.nodesRead {arities : Arities} {cursor last : Cursor} {value : Value} :
    Primary arities cursor value last → last.IsQuiet arities →
      NodesRead arities cursor.ahead value.nodes arities last.ahead
  | .number _ _, _ | .word _, _ | .reference _, _ => by
      rw [Value.nodes]
      exact (NodesRead.done (List.suffix_cons _ _)).value
  | .list _ inside, _ => by
      rw [Value.nodes]
      exact (NodesRead.done (inside.isPast.suffix.trans (List.suffix_cons _ _))).value
  | .parenthesis _ inside closes, _ =>
      ((inside.nodesRead (isQuiet_of_kind (by rw [closes]; rfl))).narrow
        (List.suffix_cons _ _)).widen (List.suffix_cons _ _)
  | .sign _ _ signed _, quiet =>
      ((signed.nodesRead quiet).applySign _).widen (List.suffix_cons _ _)
  | .reporter _ _ inputs, quiet => by
      rw [Value.nodes, Command.nodes]
      exact (NodesRead.step (.primitive (List.suffix_refl _)) (inputs.nodesRead quiet)).value
  | .call kind inputs, quiet => by
      rw [Value.nodes, Command.nodes]
      exact (NodesRead.step (.call (List.suffix_refl _) kind inputs quiet)
        (inputs.nodesRead quiet)).value

theorem Inputs.nodesRead {arities : Arities} {intake : Intake} {cursor last : Cursor}
    {values : List Value} :
    Inputs arities intake cursor values last → last.IsQuiet arities →
      NodesRead arities cursor.ahead (nodesOfValues values) arities last.ahead
  | .none, _ | .stop _, _ => .done (List.suffix_refl _)
  | .each _ first _ others, quiet | .further _ first others, quiet => by
      rw [nodesOfValues]
      exact (first.nodesRead (others.isQuiet quiet)).append (others.nodesRead quiet)

end

mutual

/-- Reading a statement meets its nodes in the order of the text. -/
theorem Statement.nodesRead {record after : Record} {token : Token} {rest : List Token}
    {command : Command} {last : Cursor} :
    Statement record token rest command last after → after.issues = [] →
      last.IsQuiet after.arities → last.EndsExpression →
        NodesRead record.arities (token :: rest) command.nodes after.arities last.ahead
  | .primitive _ inputs, clean, quiet, complete => by
      rw [Command.nodes]
      exact .step (.primitive (List.suffix_refl _))
        (inputs.nodesRead clean (blocksLast_slots _) quiet complete)
  | .call kind inputs, _, quiet, _ => by
      rw [Command.nodes]
      exact .step (.call (List.suffix_refl _) kind inputs quiet) (inputs.nodesRead quiet)
  | .define _ _ taken inside, clean, _, _ => by
      rw [Command.nodes]
      have body := inside.nodesRead clean
      exact .step (.define (List.suffix_refl _))
        (body.widen ((parameters_suffix taken).trans (List.suffix_cons _ _)))

theorem Slots.nodesRead {record after : Record} {slots : List Slot} {cursor last : Cursor}
    {values : List Value} :
    Slots record slots cursor values last after → after.issues = [] → blocksLast slots = true →
      last.IsQuiet after.arities → last.EndsExpression →
        NodesRead record.arities cursor.ahead (nodesOfValues values) after.arities last.ahead
  | .none, _, _, _, _ => .done (List.suffix_refl _)
  | .datum _ first _ others, clean, ordered, quiet, complete => by
      have further := blocksLast_tail ordered
      rw [nodesOfValues]
      exact (first.nodesRead (others.isQuiet clean further quiet complete)).append
        (others.nodesRead clean further quiet complete)
  | .block _ inside others, clean, ordered, quiet, complete => by
      have block := inside.nodesRead (others.clean_before clean)
      rw [nodesOfValues, Value.nodes]
      exact ((block.widen (List.suffix_cons _ _)).append
        (others.nodesRead clean (blocksLast_tail ordered) quiet complete)).value

/-- So does reading commands in a row. -/
theorem Commands.nodesRead {place : Place} {record after : Record} {cursor last : Cursor}
    {commands : List Command} :
    Commands place record cursor commands last after → after.issues = [] →
      NodesRead record.arities cursor.ahead (nodesOf commands) after.arities last.ahead
  | .close _, _ => .done (List.suffix_cons _ _)
  | .finish, _ => .done (List.suffix_refl _)
  | .command _ first others, clean => by
      rw [nodesOf]
      exact (first.nodesRead (others.clean_before clean) (others.isQuiet clean)
        (others.endsExpression clean)).append (others.nodesRead clean)
  | .skip _ noted others, clean => (noted (others.clean_before clean)).elim
  | .abandon noted, clean => (noted clean).elim

end

/-! ## What the walk says of a call -/

theorem Inputs.length_eq {arities : Arities} {intake : Intake} {cursor last : Cursor}
    {values : List Value} : Inputs arities intake cursor values last →
      ∀ shapes, intake = .each shapes → values.length = shapes.length
  | .none, _, rfl => rfl
  | .stop _, _, same => by cases same
  | .each _ _ _ others, _, rfl => congrArg (· + 1) (others.length_eq _ rfl)
  | .further _ _ _, _, same => by cases same

/-- A call of a known procedure takes the inputs that the procedure is known to have. -/
theorem Inputs.length_of_known {known : Arities} {name : String} {cursor stop : Cursor}
    {inputs : List Value} {arity : Nat}
    (taken : Inputs known (.ofCall known name) cursor inputs stop)
    (found : known.lookup name = some arity) : inputs.length = arity := by
  have each : Intake.ofCall known name = .each (List.replicate arity .anything) := by
    rw [Intake.ofCall, found]
  rw [taken.length_eq _ each, List.length_replicate]

/-- Where no readable input begins, a call of an unknown procedure ends before what is no input. -/
theorem Inputs.atInput_of_unknown {known : Arities} {name : String} {cursor stop : Cursor}
    {inputs : List Value} (taken : Inputs known (.ofCall known name) cursor inputs stop)
    (quiet : stop.IsQuiet known) (unknown : known.lookup name = .none) : stop.atInput = false := by
  have following : Intake.ofCall known name = .following := by
    rw [Intake.ofCall, unknown]
  exact Bool.eq_false_iff.mpr fun begins => quiet begins (taken.refused following begins)

namespace NodeRead

variable {known middle : Arities} {ahead between : List Token} {node : Node}

theorem suffix (read : NodeRead known ahead node middle between) : between <:+ ahead := by
  cases read with
  | value suffix => exact suffix
  | primitive suffix | call suffix _ _ _ | define suffix =>
      exact (List.suffix_cons _ _).trans suffix

/-- A node that is read adds what it announces to what is known. -/
theorem arities_eq (read : NodeRead known ahead node middle between) :
    middle = node.announcement?.toList ++ known := by
  cases read <;> rfl

theorem exists_token (read : NodeRead known ahead node middle between) {place : Nat}
    (starts : place ∈ node.start?) : ∃ token, token :: between <:+ ahead ∧ token.start = place := by
  cases read with
  | value => cases starts
  | primitive suffix | call suffix _ _ _ | define suffix =>
      cases starts
      exact ⟨_, suffix, rfl⟩

end NodeRead

namespace NodesRead

variable {known after : Arities} {ahead last : List Token} {nodes : List Node}

theorem suffix (walk : NodesRead known ahead nodes after last) : last <:+ ahead := by
  induction walk with
  | done suffix => exact suffix
  | step first _ hypothesis => exact hypothesis.trans first.suffix

/-- What is known after a walk is what was known before and what its nodes have announced. -/
theorem arities_eq (walk : NodesRead known ahead nodes after last) :
    after = (nodes.filterMap Node.announcement?).reverse ++ known := by
  induction walk with
  | done _ => rfl
  | @step _ _ _ _ _ _ node nodes first _ hypothesis =>
      rw [hypothesis, first.arities_eq, List.filterMap_cons]
      cases node.announcement? <;> simp

/-- Every node that has a place begins with a token of the text. -/
theorem exists_token (walk : NodesRead known ahead nodes after last) {node : Node}
    (member : node ∈ nodes) {place : Nat} (starts : place ∈ node.start?) :
    ∃ token ∈ ahead, token.start = place := by
  induction walk with
  | done _ => cases member
  | step first _ hypothesis =>
      rcases List.mem_cons.mp member with rfl | member
      · obtain ⟨token, suffix, same⟩ := first.exists_token starts
        exact ⟨token, suffix.subset (List.mem_cons_self ..), same⟩
      · obtain ⟨token, inside, same⟩ := hypothesis member
        exact ⟨token, first.suffix.subset inside, same⟩

/-- Commands are read in the order in which they begin. -/
theorem pairwise_precedes (walk : NodesRead known ahead nodes after last)
    (order : ahead.Pairwise fun first second => first.start < second.start) :
    nodes.Pairwise Node.Precedes := by
  induction walk with
  | done _ => exact .nil
  | step first others hypothesis =>
      refine .cons ?_ (hypothesis (order.sublist first.suffix.sublist))
      rintro node member place starts later begins
      obtain ⟨token, suffix, rfl⟩ := first.exists_token starts
      obtain ⟨next, inside, rfl⟩ := others.exists_token member begins
      exact List.rel_of_pairwise_cons (order.sublist suffix.sublist) inside

/-- How a call is read at its place in the text. -/
theorem exists_inputs {name : String} {inputs : List Value} {asExpression : Bool}
    {origin : Origin}
    (walk : NodesRead known ahead (.command (.call name inputs asExpression origin) :: nodes) after
      last) :
    ∃ token rest stop, token :: rest <:+ ahead ∧ token.kind = .procedure name ∧
      originOf token = origin ∧ Inputs known (.ofCall known name) ⟨token, rest⟩ inputs stop ∧
        stop.IsQuiet known := by
  cases walk with
  | step first _ =>
      cases first with
      | call suffix kind taken quiet => exact ⟨_, _, _, suffix, kind, rfl, taken, quiet⟩

end NodesRead

end Grammar

open Grammar

/-! ## The nearest definition -/

/-- A node that does not announce a name does not change what is known of it. -/
theorem lookup_announced_append (nodes : List Node) {node : Node} {name : String}
    (silent : ¬node.Announces name) :
    ((nodes ++ [node]).filterMap Node.announcement?).reverse.lookup name =
      (nodes.filterMap Node.announcement?).reverse.lookup name := by
  rw [List.filterMap_append, List.reverse_append]
  cases told : node.announcement? with
  | none => simp [told]
  | some announced =>
      obtain ⟨other, arity⟩ := announced
      have different : (name == other) = false := by
        rw [beq_eq_false_iff_ne]
        rintro rfl
        exact silent ⟨arity, told⟩
      simp [told, List.lookup, different]

/--
A name is looked up in what was announced last under it.  The last node is the
first one that is looked at.
-/
theorem lookup_announced (nodes : List Node) (name : String) :
    (∀ node ∈ nodes, ¬node.Announces name) ∧
        (nodes.filterMap Node.announcement?).reverse.lookup name = none ∨
      ∃ front parameters body origin back,
        nodes = front ++ .command (.define name parameters body origin) :: back ∧
          (∀ node ∈ back, ¬node.Announces name) ∧
            (nodes.filterMap Node.announcement?).reverse.lookup name = some parameters.length := by
  induction nodes using List.reverseRecOn with
  | nil => exact .inl ⟨by simp, rfl⟩
  | append_singleton nodes node hypothesis =>
      by_cases announces : node.Announces name
      · obtain ⟨arity, told⟩ := announces
        obtain ⟨parameters, body, origin, rfl⟩ := Node.exists_of_announcement? told
        refine .inr ⟨nodes, parameters, body, origin, [], rfl, by simp, ?_⟩
        simp [Node.announcement?]
      · have same := lookup_announced_append nodes announces
        rcases hypothesis with
          ⟨silent, unknown⟩ | ⟨front, parameters, body, origin, back, rfl, silent, found⟩
        · refine .inl ⟨?_, same.trans unknown⟩
          simpa [or_imp, forall_and] using ⟨silent, announces⟩
        · refine .inr ⟨front, parameters, body, origin, back ++ [node], by simp, ?_,
            same.trans found⟩
          simpa [or_imp, forall_and] using ⟨silent, announces⟩

/-- The nodes of a tree in the order of the text, cut in two at a place. -/
structure Cut (commands : List Command) (place : Nat) (front back : List Node) : Prop where
  whole : nodesOf commands = front ++ back
  order : (nodesOf commands).Pairwise Node.Precedes
  earlier : ∀ node ∈ front, ∀ start ∈ node.start?, start < place
  later : ∀ node ∈ back, ∀ start ∈ node.start?, place ≤ start

namespace Cut

variable {commands : List Command} {front back : List Node} {place : Nat}

/-- The place where a command begins cuts the nodes before the command. -/
theorem of_start {node : Node} (order : (nodesOf commands).Pairwise Node.Precedes)
    (whole : nodesOf commands = front ++ node :: back) (starts : node.start? = some place) :
    Cut commands place front (node :: back) where
  whole := whole
  order := order
  earlier other member start begins := by
    rw [whole] at order
    exact (List.pairwise_append.mp order).2.2 other member node (List.mem_cons_self ..) start begins
      place starts
  later other member start begins := by
    rw [whole] at order
    rcases List.mem_cons.mp member with rfl | further
    · cases begins.symm.trans starts
      exact Nat.le_refl _
    · have behind := List.rel_of_pairwise_cons (List.pairwise_append.mp order).2.1 further
      exact Nat.le_of_lt (behind place starts start begins)

theorem mem_front (cut : Cut commands place front back) {node : Node}
    (member : node ∈ nodesOf commands) {start : Nat} (starts : node.start? = some start)
    (before : start < place) : node ∈ front := by
  rw [cut.whole] at member
  rcases List.mem_append.mp member with inFront | inBack
  · exact inFront
  · exact absurd before (Nat.not_lt.mpr (cut.later node inBack start starts))

/-- What is announced before a place is announced by the nodes in front of the cut. -/
theorem announcedBefore_eq (cut : Cut commands place front back) :
    announcedBefore commands place = (front.filterMap Node.announcement?).reverse := by
  rw [announcedBefore, List.filterMap_filter, cut.whole, List.filterMap_append]
  have told : front.filterMap (fun node => if node.start?.any (· < place) then
      node.announcement? else none) = front.filterMap Node.announcement? := by
    refine List.filterMap_congr fun node member => ?_
    cases node with
    | value tree => rfl
    | command tree => exact if_pos (decide_eq_true (cut.earlier _ member _ rfl))
  have silent : back.filterMap (fun node => if node.start?.any (· < place) then
      node.announcement? else none) = [] := by
    refine List.filterMap_eq_nil_iff.mpr fun node member => ?_
    cases node with
    | value tree => rfl
    | command tree =>
        refine if_neg fun early => ?_
        exact Nat.not_lt.mpr (cut.later _ member _ rfl) (of_decide_eq_true early)
  rw [told, silent, List.append_nil]

/--
The last definition of a name before a place is the nearest one, and the only
nearest one.  What else defines the name before the place comes before this
definition.
-/
theorem isNearestBefore_iff (cut : Cut commands place front back) {early late : List Node}
    {name : String} {parameters others : List String} {body : List Command} {origin : Origin}
    (split : front = early ++ .command (.define name parameters body origin) :: late)
    (silent : ∀ node ∈ late, ¬node.Announces name) :
    IsNearestBefore commands name place others ↔ others = parameters := by
  have inFront : .command (.define name parameters body origin) ∈ front := by simp [split]
  have inTree : .command (.define name parameters body origin) ∈ nodesOf commands := by
    rw [cut.whole]
    exact List.mem_append_left back inFront
  have before := cut.earlier _ inFront _ rfl
  have earlier {names : List String} {inside : List Command} {own : Origin}
      (member : .command (.define name names inside own) ∈ nodesOf commands)
      (start : own.start < place) :
      own.start < origin.start ∨ names = parameters ∧ own = origin := by
    have found := cut.mem_front member rfl start
    have order := cut.order
    rw [cut.whole, split, List.append_assoc] at order
    rw [split] at found
    rcases List.mem_append.mp found with inEarly | inLate
    · have across := (List.pairwise_append.mp order).2.2 _ inEarly _ (List.mem_cons_self ..)
      exact .inl (across _ rfl _ rfl)
    · rcases List.mem_cons.mp inLate with same | inLate
      · cases same
        exact .inr ⟨rfl, rfl⟩
      · exact (silent _ inLate ⟨_, rfl⟩).elim
  constructor
  · rintro ⟨inside, own, member, start, nearest⟩
    rcases earlier member start with less | ⟨same, -⟩
    · exact absurd less (Nat.not_lt.mpr (nearest _ _ _ inTree before))
    · exact same
  · rintro rfl
    refine ⟨body, origin, inTree, before, fun names inside own member start => ?_⟩
    rcases earlier member start with less | ⟨-, rfl⟩
    · exact Nat.le_of_lt less
    · exact Nat.le_refl _

end Cut

/--
In a text without issues, every call begins with its name and is read with what
the definitions before it have announced.  It has as many inputs as the nearest
definition of its name before it has parameters, be it the definition that the
call stands in.  If there is none, the inputs end where the text ends or where
no input can begin.  The words of a list are data and define nothing.
-/
theorem call_inputs_of_nearest (text : String) (clean : (ofText text).isClean = true)
    {name : String} {inputs : List Value} {asExpression : Bool} {origin : Origin}
    (member : .command (.call name inputs asExpression origin) ∈ nodesOf (ofText text).commands) :
    ∃ before token arguments behind after,
      Token.scan text = before ++ token :: (arguments ++ after) ∧
      token.kind = .procedure name ∧ originOf token = origin ∧
      (∀ budget, (Cursor.mk token (arguments ++ after)).demand + 2 ≤ budget →
        callInputs none (announcedBefore (ofText text).commands origin.start) name token budget
          ⟨token, arguments ++ after⟩ = .ok (inputs, ⟨behind, after⟩)) ∧
      (∀ parameters, IsNearestBefore (ofText text).commands name origin.start parameters →
        inputs.length = parameters.length) ∧
      ((∀ parameters, ¬IsNearestBefore (ofText text).commands name origin.start parameters) →
        ∀ next ∈ after.head?, beginsInput next.kind = false) := by
  obtain ⟨last, final, read, issues⟩ := commands_of_ofTokens text (Token.scan text)
  have unmarked : final.issues = [] := by
    rw [← List.reverse_eq_nil_iff, ← issues]
    exact List.isEmpty_iff.mp clean
  have walk := read.nodesRead unmarked
  have order : (Token.scan text).Pairwise fun first second => first.start < second.start :=
    (Token.pairwise_scan text).imp_of_mem fun inFirst _ apart =>
      Nat.lt_of_lt_of_le (Token.start_lt_stop inFirst) apart
  obtain ⟨front, back, whole⟩ := List.append_of_mem member
  have cut : Cut (ofText text).commands origin.start front _ :=
    .of_start (walk.pairwise_precedes order) whole rfl
  rw [show nodesOf (ofTokens none text (Token.scan text)).commands = _ from whole] at walk
  obtain ⟨known, between, before, here⟩ := walk.split
  have told : known = (front.filterMap Node.announcement?).reverse :=
    before.arities_eq.trans (List.append_nil _)
  obtain ⟨token, rest, stop, suffix, kind, origin_eq, taken, quiet⟩ := here.exists_inputs
  obtain ⟨skipped, tokens⟩ := suffix.trans before.suffix
  obtain ⟨arguments, rfl⟩ := taken.suffix
  refine ⟨skipped, token, arguments, stop.behind, stop.ahead, tokens.symm, kind, origin_eq, ?_, ?_⟩
  · rw [cut.announcedBefore_eq, ← told]
    rintro (_ | budget) enough
    · cases enough
    · exact callInputs_of_given (taken.reads budget (Nat.le_of_succ_le_succ enough)) token
  rcases lookup_announced front name with
    ⟨silent, unknown⟩ | ⟨early, parameters, body, own, late, split, silent, found⟩
  · refine ⟨fun parameters nearest => ?_, fun _ next ahead => ?_⟩
    · obtain ⟨body, own, inTree, start, -⟩ := nearest
      exact (silent _ (cut.mem_front inTree rfl start) ⟨_, rfl⟩).elim
    · rw [← told] at unknown
      have ends := taken.atInput_of_unknown quiet unknown
      obtain ⟨behind, _ | ⟨first, others⟩⟩ := stop
      · cases ahead
      · cases ahead
        exact ends
  · rw [← told] at found
    refine ⟨fun parameters nearest => ?_, fun none => ?_⟩
    · rw [(cut.isNearestBefore_iff split silent).mp nearest]
      exact taken.length_of_known found
    · exact (none parameters ((cut.isNearestBefore_iff split silent).mpr rfl)).elim

/-- A call before a definition takes what follows; one in the body takes what was announced. -/
theorem calls_around_definition :
    let text := "f :a [b] to f :x f :x end"
    (ofText text).isClean = true ∧
      .command (.call "F" [.reference "a", .list [.word "b"]] false ⟨0, 0, 1⟩) ∈
        nodesOf (ofText text).commands ∧
      .command (.call "F" [.reference "x"] false ⟨0, 17, 18⟩) ∈ nodesOf (ofText text).commands ∧
      IsNearestBefore (ofText text).commands "F" 17 ["x"] ∧
      [Value.reference "x"].length = ["x"].length ∧
      ∃ before token arguments behind after,
        Token.scan text = before ++ token :: (arguments ++ after) ∧ originOf token = ⟨0, 0, 1⟩ ∧
        (∀ budget, (Cursor.mk token (arguments ++ after)).demand + 2 ≤ budget →
          callInputs none (announcedBefore (ofText text).commands 0) "F" token budget
            ⟨token, arguments ++ after⟩ =
              .ok ([.reference "a", .list [.word "b"]], ⟨behind, after⟩)) ∧
        ∀ next ∈ after.head?, beginsInput next.kind = false := by
  intro text
  have clean : (ofText text).isClean = true := by decide +kernel
  have tokens : Token.scan text =
      [⟨.procedure "F", "f", 0, 1⟩, ⟨.reference "a", ":a", 2, 4⟩, ⟨.openBracket, "[", 5, 6⟩,
        ⟨.procedure "B", "b", 6, 7⟩, ⟨.closeBracket, "]", 7, 8⟩, ⟨.toWord, "to", 9, 11⟩,
        ⟨.procedure "F", "f", 12, 13⟩, ⟨.reference "x", ":x", 14, 16⟩,
        ⟨.procedure "F", "f", 17, 18⟩, ⟨.reference "x", ":x", 19, 21⟩,
        ⟨.endWord, "end", 22, 25⟩] := by
    decide +kernel
  have tree : (ofText text).commands =
      [.call "F" [.reference "a", .list [.word "b"]] false ⟨0, 0, 1⟩,
        .define "F" ["x"] [.call "F" [.reference "x"] false ⟨0, 17, 18⟩] ⟨0, 9, 11⟩] := by
    rw [ofText, tokens]
    rfl
  have outer : .command (.call "F" [.reference "a", .list [.word "b"]] false ⟨0, 0, 1⟩) ∈
      nodesOf (ofText text).commands := by
    simp [tree, nodesOf, Command.nodes]
  have inner : .command (.call "F" [.reference "x"] false ⟨0, 17, 18⟩) ∈
      nodesOf (ofText text).commands := by
    simp [tree, nodesOf, Command.nodes]
  have nearest : IsNearestBefore (ofText text).commands "F" 17 ["x"] := by
    refine ⟨[.call "F" [.reference "x"] false ⟨0, 17, 18⟩], ⟨0, 9, 11⟩, ?_, by decide, ?_⟩
    · simp [tree, nodesOf, Command.nodes]
    · intro parameters body origin member _
      obtain ⟨-, -, rfl⟩ : parameters = ["x"] ∧
          body = [.call "F" [.reference "x"] false ⟨0, 17, 18⟩] ∧ origin = ⟨0, 9, 11⟩ := by
        simpa [tree, nodesOf, Command.nodes, nodesOfValues, Value.nodes] using member
      exact Nat.le_refl _
  obtain ⟨before, token, arguments, behind, after, whole, -, origin, given, -, ends⟩ :=
    call_inputs_of_nearest text clean outer
  obtain ⟨-, -, -, -, -, -, -, -, -, announced, -⟩ := call_inputs_of_nearest text clean inner
  refine ⟨clean, outer, inner, nearest, announced _ nearest, before, token, arguments, behind,
    after, whole, origin, given, ends fun parameters first => ?_⟩
  obtain ⟨body, own, -, start, -⟩ := first
  exact absurd start (Nat.not_lt_zero _)

end Program

end Logo
