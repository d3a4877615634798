import Logo.Platform
import Logo.Proofs.Number.Plain
import Logo.Proofs.Program.Nodes
import Logo.Proofs.Program.Parallel.Statements
import Logo.Proofs.Program.Room

/-!
# Reading makes progress

Every reader that is given a token of a text comes back.  It complains about a
token of this text, or it stands further on than before and not beyond the end;
or else there was no room on the stack for the readers inside it.  But for
that, no reader ever fails on account of itself: a token is called a command or
a number only if it stands for one, and a budget, once it is large enough for
the tokens ahead, makes no difference to what is read.

This is read off two readers at work side by side on the same tokens in the
same places, which differ in their budgets alone, or in their room alone.
-/

namespace Logo

open Effectful

/-! ## What tokens stand for -/

/-- A token that is called a command or a number stands for one. -/
structure Token.IsFounded (token : Token) : Prop where
  command (primitive : Primitive) : token.kind = .command primitive →
    Primitive.find? token.text = some primitive
  number : token.kind = .number → ∃ value, Number.read? token.text = some value

theorem Kind.find?_of_ofName {text : String} {primitive : Primitive}
    (kind : ofName text = .command primitive) : Primitive.find? text = some primitive := by
  unfold ofName at kind
  grind

/-- A primitive is found by its name. -/
theorem Primitive.find?_name (primitive : Primitive) : find? primitive.name = some primitive := by
  have kind := primitive.ofText_name
  rw [primitive.isName_name.ofText_eq] at kind
  exact Kind.find?_of_ofName kind

theorem Kind.isNumeral_of_ofText {text : String} (kind : ofText text = .number) :
    isNumeral text.toList = true := by
  have spelled := Kind.spelled text
  rw [kind] at spelled
  cases spelled with
  | number numeral => exact numeral

/-- A genuine token that is called a command or a number stands for one. -/
theorem Token.IsGenuine.isFounded {token : Token} (genuine : token.IsGenuine) :
    token.IsFounded where
  command primitive kind := by
    rw [Token.text, kind]
    exact primitive.find?_name
  number kind := by
    have numeral := Kind.isNumeral_of_ofText (genuine.symm.trans kind)
    rw [Token.text, kind]
    exact Number.exists_read?_of_isNumeral numeral

theorem Issue.IsAbout.of_subset {tokens others : List Token} {issue : Issue}
    (about : issue.IsAbout tokens) (wider : tokens ⊆ others) : issue.IsAbout others :=
  ⟨about.fair, wider about.points⟩

namespace Program

/-- What a relocation has to suit is the seams; genuine numbers can be read. -/
theorem Grammar.Genuine.suits {relocation : Relocation} {tokens : List Token}
    (genuine : Genuine tokens) (seams : tokens.IsChain relocation.KeepsSeam) :
    relocation.Suits tokens where
  spelled token member kind := by
    have founded := (genuine token member).isFounded.number kind
    rwa [Token.text, kind] at founded
  seams := seams

theorem Grammar.Genuine.suits_stay {tokens : List Token} (genuine : Genuine tokens) :
    Relocation.stay.Suits tokens :=
  genuine.suits (List.pairwise_of_forall Relocation.keepsSeam_stay).isChain

/-! ## Productions -/

end Program

/-- The same node, its commands placed elsewhere. -/
def Node.mapOrigins (place : Origin → Origin) : Node → Node
  | .value tree => .value (tree.mapOrigins place)
  | .command tree => .command (tree.mapOrigins place)

@[simp]
theorem Node.mapOrigins_id (node : Node) : node.mapOrigins id = node := by
  cases node with
  | value tree => rw [mapOrigins, tree.mapOrigins_id]
  | command tree => rw [mapOrigins, tree.mapOrigins_id]

namespace Program

/-- What a reader can be asked to read, beginning with a given token. -/
inductive Production where
  | statement
  | invocation (primitive : Primitive)
  | argument (primitive : Primitive) (slot : Slot)
  | block
  | definition
  | call (name : String) (asExpression : Bool)
  | expression
  | primary
  | report (primitive : Primitive) (shapes : List Shape)
  | list

namespace Production

/-- How large a budget reading takes, given the tokens from its first one on. -/
def demand (ahead : List Token) : Production → Nat
  | .expression => 4 * ahead.length + 2
  | .primary => 4 * ahead.length + 1
  | .argument _ _ => 4 * ahead.length + 3
  | .statement => 4 * ahead.length + 1
  | .invocation _ | .report _ _ | .block | .definition | .call _ _ | .list => 4 * ahead.length

/-- Read a production that begins with a token; `behind` is whatever stands before it. -/
def read (room : Option Nat) (budget : Nat) (behind token : Token) (rest : List Token) :
    Production → Reader (Node × Cursor)
  | .statement => do
      let (command, last) ← Program.statement room budget token rest
      return (.command command, last)
  | .invocation primitive => do
      let (inputs, last) ← slotInputs room primitive token budget primitive.spec.slots ⟨token, rest⟩
      return (.command (.primitive primitive inputs (originOf token)), last)
  | .argument primitive slot => do
      let (value, last) ← slotInput room primitive budget slot ⟨behind, token :: rest⟩
      return (.value value, last)
  | .block => do
      let (commands, last) ← blockCommands room token budget ⟨token, rest⟩
      return (.value (.block commands), last)
  | .definition => do
      let (command, last) ← Program.definition room budget token rest
      return (.command command, last)
  | .call name asExpression => do
      let (inputs, last) ← withArities fun arities =>
        callInputs room arities name token budget ⟨token, rest⟩
      return (.command (.call name inputs asExpression (originOf token)), last)
  | .expression => do
      let (value, last) ← withArities fun arities =>
        Program.expression room arities budget ⟨behind, token :: rest⟩
      return (.value value, last)
  | .primary => do
      let (value, last) ← withArities fun arities =>
        Program.primary room arities budget ⟨behind, token :: rest⟩
      return (.value value, last)
  | .report primitive shapes => do
      let (inputs, last) ← withArities fun arities =>
        reporterInputs room arities primitive token budget shapes ⟨token, rest⟩
      return (.value (.reporter (.primitive primitive inputs (originOf token))), last)
  | .list => do
      let (items, last) ← withArities fun _ => listItems room token budget ⟨token, rest⟩
      return (.value (.list items), last)

/-- Productions fit as their readers do. -/
theorem readersFit (budget room : Nat) (behind token : Token) (rest : List Token)
    (production : Production) :
    ReadersFit budget room (production.read (some room) budget behind token rest)
      (production.read none budget behind token rest) := by
  have statements := statementsFit budget
  have expressions arities := expressionsFit arities budget
  cases production with
  | statement => exact .bind (statements.statement room token rest) fun _ => .given _
  | invocation primitive => exact .bind (statements.slots room _ _ _ _) fun _ => .given _
  | argument primitive slot => exact .bind (statements.slot room _ _ _) fun _ => .given _
  | block => exact .bind (statements.block room _ _) fun _ => .given _
  | definition => exact .bind (statements.definition room token rest) fun _ => .given _
  | call name asExpression =>
      exact .bind (.withArities fun arities => (expressions arities).call room _ _ _) fun _ =>
        .given _
  | expression =>
      exact .bind (.withArities fun arities => (expressions arities).expression room _) fun _ =>
        .given _
  | primary =>
      exact .bind (.withArities fun arities => (expressions arities).primary room _) fun _ =>
        .given _
  | report primitive shapes =>
      exact .bind (.withArities fun arities => (expressions arities).reporter room _ _ _ _)
        fun _ => .given _
  | list => exact .bind (.withArities fun _ => listItems_fit _ _ room _) fun _ => .given _

/-- A reader that has a token ahead does not look at what is behind it. -/
theorem read_behind (budget : Nat) (behind other token : Token) (rest : List Token)
    (production : Production) :
    production.read none budget behind token rest =
      production.read none budget other token rest := by
  have first arities (budget : Nat) :
      Program.primary none arities budget ⟨behind, token :: rest⟩ =
        Program.primary none arities budget ⟨other, token :: rest⟩ := by
    cases budget <;> rfl
  have whole arities (budget : Nat) :
      Program.expression none arities budget ⟨behind, token :: rest⟩ =
        Program.expression none arities budget ⟨other, token :: rest⟩ := by
    cases budget with
    | zero => rfl
    | succ budget =>
        simp only [Program.expression, descend_none, first]
        rfl
  cases production with
  | argument primitive slot =>
      obtain _ | budget := budget
      · rfl
      cases slot with
      | block => rfl
      | datum shape =>
          rw [read, read, slotInput, slotInput]
          simp only [descend_none, whole]
          rfl
  | expression => simp only [read, whole]
  | primary => simp only [read, first]
  | _ => rfl

/-- Productions are read side by side. -/
theorem sideBySide {sides : Sides} (suits : sides.relocation.Suits sides.tokens)
    {behind token : Token} {rest : List Token} {budget budget' : Nat} (production : Production)
    (place : behind :: token :: rest <:+ sides.tokens)
    (enough : production.demand (token :: rest) ≤ budget)
    (enough' : production.demand (token :: rest) ≤ budget') :
    sides.Read (Node.mapOrigins sides.relocation.origin) (token :: rest)
      (production.read none budget behind token rest)
      (production.read none budget' (behind.relocate sides.relocation)
        (token.relocate sides.relocation)
        (rest.map (Token.relocate sides.relocation))) := by
  have outside : Cursor.row ⟨behind, token :: rest⟩ <:+ sides.tokens := place
  have here := Cursor.row_tail outside
  have inside : Cursor.row ⟨token, rest⟩ <:+ sides.tokens := here
  have member : token ∈ sides.tokens := here.subset (List.mem_cons_self ..)
  have statements := Sides.readStatements suits (4 * (token :: rest).length + 3)
  have expressions arities := readSideBySide suits arities (4 * (token :: rest).length + 3)
  have shorter : 4 * rest.length + 4 = 4 * (token :: rest).length := rfl
  cases production with
  | statement =>
      refine (statements.statement here (by omega) enough enough').andThen ?_
      intro command last further
      exact .given further
  | invocation primitive =>
      refine (statements.slots primitive primitive.spec.slots member inside (by dsimp only; omega)
        enough enough').andThen ?_
      intro inputs last further
      exact .given further
  | argument primitive slot =>
      refine (statements.slot primitive slot outside (Nat.le_refl _) enough enough').andThen ?_
      intro value last further
      exact .given further
  | block =>
      simp only [demand] at enough enough'
      refine (statements.block member inside (by dsimp only; omega) (by dsimp only; omega)
        (by dsimp only; omega)).andThen ?_
      intro commands last further
      exact .given (further.trans (List.suffix_cons token rest))
  | definition =>
      refine (statements.definition here (by omega) enough enough').andThen ?_
      intro command last further
      exact .given further
  | call name asExpression =>
      have called arities :=
        (expressions arities).call name member inside (by dsimp only; omega) enough enough'
      refine (Sides.Readers.withArities called).andThen ?_
      intro inputs last further
      exact .given further
  | expression =>
      have whole arities :=
        (expressions arities).expression outside (Nat.le_succ _) enough enough'
      refine (Sides.Readers.withArities whole).andThen ?_
      intro value last further
      exact .given further
  | primary =>
      have first arities :=
        (expressions arities).primary outside (by dsimp only; omega) enough enough'
      refine (Sides.Readers.withArities first).andThen ?_
      intro value last further
      exact .given further
  | report primitive shapes =>
      have reported arities :=
        (expressions arities).each primitive shapes member inside (by dsimp only; omega)
          (Nat.le_of_succ_le enough) (Nat.le_of_succ_le enough')
      refine (Sides.Readers.withArities reported).andThen ?_
      intro inputs last further
      exact .given further
  | list =>
      simp only [demand] at enough enough'
      have items (_ : Arities) :=
        listItems_parallel suits member inside (show rest.length < budget by omega)
          (show rest.length < budget' by omega)
      refine (Sides.Readers.withArities items).andThen ?_
      intro values last further
      exact .given (further.trans (List.suffix_cons token rest))

end Production

/-! ## Progress -/

/--
What may come of reading at some tokens: an issue with one of them, or a place
that is at least one token further on, and not beyond the last one.
-/
inductive Progress (ahead : List Token) : Except Issue (Node × Cursor) → Prop where
  | forward {node : Node} {last : Cursor} (count : Nat) (some : 1 ≤ count)
      (within : count ≤ ahead.length) (behind : ahead[count - 1]? = .some last.behind)
      (remaining : last.ahead = ahead.drop count) : Progress ahead (.ok (node, last))
  | stop {issue : Issue} (about : issue.IsAbout ahead) : Progress ahead (.error issue)

theorem Progress.of_row {ahead : List Token} {node : Node} {last : Cursor}
    (further : last.row <:+ ahead) : Progress ahead (.ok (node, last)) := by
  obtain ⟨front, rfl⟩ := further
  refine .forward (front.length + 1) (Nat.le_add_left ..) ?_ ?_ ?_
  · simp [Cursor.row]
  · simp [Cursor.row]
  · simp [Cursor.row]

/-- Reading at some tokens has made progress, and whatever it noted is about them. -/
structure Returned (ahead : List Token) (before : Record)
    (outcome : Except Issue (Node × Cursor) × Record) : Prop where
  progress : Progress ahead outcome.1
  noted : ∃ noted, outcome.2.issues = noted ++ before.issues ∧
    ∀ issue ∈ noted, issue.IsAbout ahead

@[simp]
theorem Cursor.relocate_stay (cursor : Cursor) : cursor.relocate .stay = cursor := by
  rw [Cursor.relocate, Token.relocate_stay, List.map_id, id]

/-- In the same places, readers side by side keep one record. -/
theorem Sides.Records.eq_of_stay {tokens : List Token} {before : List Issue}
    {record record' : Record}
    (records : Sides.Records ⟨.stay, tokens, before, before⟩ record record') :
    record' = record := by
  obtain ⟨noted, left, right, -⟩ := records.noted
  have issues : record'.issues = record.issues := by
    rw [left, right, Issue.relocate_stay, List.map_id]
  obtain ⟨arities, noted⟩ := record
  obtain rfl : record'.arities = arities := records.arities
  obtain rfl : record'.issues = noted := issues
  rfl

/-- What a single reader can do, as it is seen from two of them in the same places. -/
structure Settled (tokens row : List Token) (before : Record) {α : Type}
    (outcome : Except Issue (α × Cursor) × Record) : Prop where
  further : ∀ result last, outcome.1 = .ok (result, last) → last.row <:+ row
  about : ∀ issue, outcome.1 = .error issue → issue.IsAbout tokens
  noted : ∃ noted, outcome.2.issues = noted ++ before.issues ∧
    ∀ issue ∈ noted, issue.IsAbout tokens

/-- Readers that agree with themselves are settled. -/
theorem Sides.Readers.settled {α : Type} {image : α → α} {tokens row : List Token}
    {record : Record} {left right : Reader (α × Cursor)} (same : ∀ result, image result = result)
    (read : Sides.Read ⟨.stay, tokens, record.issues, record.issues⟩ image row left right) :
    Settled tokens row record (left.run record) ∧ right.run record = left.run record := by
  obtain ⟨parallel, records⟩ := read record record (.refl _ _ _)
  obtain ⟨noted, issues, -, about⟩ := records.noted
  have kept := records.eq_of_stay
  rcases ran : left.run record with ⟨result, after⟩
  rcases ran' : right.run record with ⟨result', after'⟩
  rw [ran, ran'] at parallel kept
  rw [ran] at issues
  subst kept
  cases parallel with
  | @value placed _ corresponds =>
      obtain ⟨result, last⟩ := placed
      obtain ⟨further, rfl⟩ := corresponds
      refine ⟨⟨?_, ?_, noted, issues, about⟩, ?_⟩
      · rintro _ _ ⟨⟩
        exact further
      · rintro _ ⟨⟩
      · rw [same, Cursor.relocate_stay]
  | issue trouble =>
      refine ⟨⟨?_, ?_, noted, issues, about⟩, rfl⟩
      · rintro _ _ ⟨⟩
      · rintro _ ⟨⟩
        exact trouble

/--
A reader with a large enough budget makes progress, and a larger one changes
nothing.  What is behind does not matter, so it may be the token itself.
-/
theorem Production.returned {token : Token} {rest : List Token}
    (genuine : Grammar.Genuine (token :: rest)) (production : Production) (behind : Token)
    (record : Record) {budget budget' : Nat} (enough : production.demand (token :: rest) ≤ budget)
    (enough' : production.demand (token :: rest) ≤ budget') :
    Returned (token :: rest) record ((production.read none budget behind token rest).run record) ∧
      (production.read none budget' behind token rest).run record =
        (production.read none budget behind token rest).run record := by
  have narrow : token :: token :: rest ⊆ token :: rest := by simp
  have suits : Relocation.stay.Suits (token :: token :: rest) :=
    Grammar.Genuine.suits_stay fun other member => genuine other (narrow member)
  rw [production.read_behind budget behind token, production.read_behind budget' behind token]
  obtain ⟨settled, same⟩ := Sides.Readers.settled Node.mapOrigins_id
    (production.sideBySide suits (List.suffix_refl _) enough enough')
  obtain ⟨noted, issues, about⟩ := settled.noted
  refine ⟨⟨?_, noted, issues, fun issue member => (about issue member).of_subset narrow⟩, ?_⟩
  · rcases ran : ((production.read none budget token token rest).run record).1 with
      issue | ⟨node, last⟩
    · exact .stop ((settled.about issue ran).of_subset narrow)
    · exact .of_row (settled.further node last ran)
  · simpa using same

/-- A statement is settled, and a larger budget changes nothing. -/
theorem statement_settled {token : Token} {rest : List Token}
    (genuine : Grammar.Genuine (token :: rest)) (record : Record) {budget budget' : Nat}
    (enough : 4 * rest.length + 5 ≤ budget) (enough' : 4 * rest.length + 5 ≤ budget') :
    Settled (token :: rest) (token :: rest) record ((statement none budget token rest).run record) ∧
      (statement none budget' token rest).run record =
        (statement none budget token rest).run record := by
  obtain ⟨settled, same⟩ := Sides.Readers.settled Command.mapOrigins_id
    ((Sides.readStatements genuine.suits_stay _).statement (List.suffix_refl _) (Nat.le_refl _)
      enough enough')
  exact ⟨settled, by simpa using same⟩

/-! ## The loop over a text -/

/--
Statements are read one after the other, each with whatever budget its tokens
need, until none are left.  An issue is noted, and reading goes on one token
further, or ends if it is fatal.
-/
inductive Loop : Record → List Token → List Command → Record → Prop where
  | finish {record : Record} : Loop record [] [] record
  | command {record middle after : Record} {token : Token} {rest : List Token} {next : Cursor}
      {command : Command} {commands : List Command}
      (read : (statement none (budgetFor (token :: rest)) token rest).run record =
        (.ok (command, next), middle))
      (others : Loop middle next.ahead commands after) :
      Loop record (token :: rest) (command :: commands) after
  | recover {record middle after : Record} {token : Token} {rest : List Token} {issue : Issue}
      {commands : List Command}
      (read : (statement none (budgetFor (token :: rest)) token rest).run record =
        (.error issue, middle))
      (mild : issue.complaint.isFatal = false)
      (others : Loop (middle.note issue) rest commands after) :
      Loop record (token :: rest) commands after
  | abandon {record middle : Record} {token : Token} {rest : List Token} {issue : Issue}
      (read : (statement none (budgetFor (token :: rest)) token rest).run record =
        (.error issue, middle))
      (fatal : issue.complaint.isFatal = true) :
      Loop record (token :: rest) [] (middle.note issue)

/-- The loop comes to an end, since every statement goes forward. -/
theorem loop_statements {tokens : List Token} (genuine : Grammar.Genuine tokens) {budget : Nat}
    (enough : 4 * tokens.length + 2 ≤ budget) (record : Record) :
    Loop record tokens ((statements none budget tokens).run record).1
      ((statements none budget tokens).run record).2 := by
  induction budget generalizing tokens record with
  | zero => cases enough
  | succ budget hypothesis =>
      obtain _ | ⟨token, rest⟩ := tokens
      · exact .finish
      simp only [List.length_cons] at enough
      have demand : 4 * rest.length + 5 ≤ budgetFor (token :: rest) := by
        rw [budgetFor, List.length_cons]
        omega
      obtain ⟨settled, same⟩ := statement_settled genuine record
        (show 4 * rest.length + 5 ≤ budget by omega) demand
      rcases ran : (statement none budget token rest).run record with
        ⟨issue | ⟨command, next⟩, middle⟩
      · rw [ran] at same
        rw [run_statements_error none ran]
        cases fatal : issue.complaint.isFatal with
        | true => exact .abandon same fatal
        | false => exact .recover same fatal (hypothesis genuine.tail (by omega) _)
      · rw [ran] at same
        have further := settled.further command next (by rw [ran])
        have shorter := Cursor.length_lt_of_row further
        simp only [List.length_cons] at shorter
        rw [run_statements_ok none ran]
        exact .command same (hypothesis (genuine.suffix (ahead_suffix further)) (by omega) middle)

/-- The program that is read with any room has issues with its text only. -/
theorem isAbout_of_mem_issues (text : String) :
    ∀ issue ∈ (ofText text).issues, issue.IsAbout (Token.scan text) :=
  (run_statements_relocate (genuine_scan text).suits_stay [] text
    (Grammar.enough_budgetFor _)).2.2

/-- Reading gives the program that is read with any room, or there is no room for the readers. -/
theorem parse_eq (room : Nat) (text : String) :
    parse room text = .ok (ofText text) ∨
      room < budgetFor (Token.scan text) ∧ parse room text = .error .tooManyCalls := by
  have cutShort (program : Program) :
      program.isCutShort = true ↔ ∃ issue ∈ program.issues, issue.complaint = .noRoom := by
    simp [isCutShort]
  rcases run_statements_fit (budgetFor (Token.scan text)) room (Token.scan text) .empty with
    same | ⟨short, issue, noted, complaint⟩
  · left
    have whole : ofTokens (some room) text (Token.scan text) = ofText text := by
      simp only [ofText, ofTokens, same]
    rw [parse, whole, if_neg]
    rw [cutShort]
    rintro ⟨issue, member, complaint⟩
    have fair := (isAbout_of_mem_issues text issue member).fair
    rw [complaint] at fair
    cases fair
  · right
    refine ⟨short, ?_⟩
    rw [parse, if_pos]
    exact (cutShort _).mpr ⟨issue, List.mem_reverse.mpr noted, complaint⟩

/--
Reading a text always ends, and but for the stack it never trips.  Its commands
and numbers stand for something.  Every production that begins with one of its
tokens finds no room for the readers inside it, or ends in an issue with one of
the tokens from there on, or stands at least one token further on and not
beyond the last.  It does so within a budget in proportion to the tokens ahead,
above which the budget makes no difference; and there is always room if there
is room for the budget.  So the loop over the text ends in the program that is
read, and its issues all point into the text, unless there is no room, which
the text has to be long enough for.
-/
theorem reading_makes_progress (text : String) :
    (∀ token ∈ Token.scan text, token.IsFounded) ∧
    (∀ (production : Production) (behind token : Token) (rest : List Token) (record : Record)
        (budget : Nat),
      token :: rest <:+ Token.scan text → production.demand (token :: rest) ≤ budget →
        Returned (token :: rest) record
            ((production.read none budget behind token rest).run record) ∧
          (production.read none budget behind token rest).run record =
            (production.read none (production.demand (token :: rest)) behind token
              rest).run record ∧
          ∀ room, (production.read (some room) budget behind token rest).run record =
              (production.read none budget behind token rest).run record ∨
            room < budget ∧ ∃ place after,
              (production.read (some room) budget behind token rest).run record =
                (.error ⟨.noRoom, place⟩, after)) ∧
    (∃ commands after, Loop .empty (Token.scan text) commands after ∧
      (∀ issue ∈ after.issues, issue.IsAbout (Token.scan text)) ∧
      ∀ room, parse room text = .ok ⟨commands, text, after.issues.reverse⟩ ∨
        room < budgetFor (Token.scan text) ∧ parse room text = .error .tooManyCalls) := by
  have genuine := genuine_scan text
  refine ⟨fun token member => (genuine token member).isFounded, ?_, ?_⟩
  · intro production behind token rest record budget place enough
    obtain ⟨returned, same⟩ :=
      production.returned (genuine.suffix place) behind record enough (Nat.le_refl _)
    refine ⟨returned, same.symm, fun room => ?_⟩
    have fits := production.readersFit budget room behind token rest record
    generalize (production.read (some room) budget behind token rest).run record = limited at *
    cases fits with
    | same roomy => exact .inl rfl
    | cut short roomy => exact .inr ⟨short, _, _, rfl⟩
  · refine ⟨_, _, loop_statements genuine (Grammar.enough_budgetFor _) .empty,
      fun issue noted => ?_, fun room => parse_eq room text⟩
    exact isAbout_of_mem_issues text issue (List.mem_reverse.mpr noted)

/--
The call takes no input after all, since its parenthesis does not close; what
is left over is no command, and is pointed at token by token.
-/
theorem open_parenthesis_makes_progress :
    let text := "show f (3 +"
    let token : Token := ⟨.openParen, "(", 7, 8⟩
    let rest : List Token := [⟨.number, "3", 8, 9⟩, ⟨.operator "+", "+", 10, 11⟩]
    (ofText text).issues.map Issue.complaint = [.notCommand "(", .notCommand "3", .notCommand "+"] ∧
      (∃ program, parse 64 text = .ok program) ∧
      token :: rest <:+ Token.scan text ∧
      Production.expression.demand (token :: rest) ≤ 20 ∧
      Returned (token :: rest) .empty
        ((Production.expression.read none 20 token token rest).run .empty) := by
  intro text token rest
  have progress := reading_makes_progress text
  obtain ⟨commands, after, -, -, reads⟩ := progress.2.2
  refine ⟨by decide +kernel, ?_, by decide +kernel, by decide,
    (progress.2.1 _ _ _ _ _ _ (by decide +kernel) (by decide)).1⟩
  rcases reads 64 with read | ⟨short, -⟩
  · exact ⟨_, read⟩
  · exact absurd short (by decide +kernel)

/-! ## A text for which there is no room -/

/-- Reading has run out of room. -/
def OutOfRoom {α : Type} (result : Except Issue α) : Prop :=
  ∃ token, result = .error ⟨.noRoom, token⟩

namespace OutOfRoom

variable {α β : Type} {room : Nat}

/-- What comes after a reader without room is not reached. -/
theorem bind {first : Except Issue α} (cut : OutOfRoom first) (next : α → Except Issue β) :
    OutOfRoom (first >>= next) := by
  obtain ⟨token, rfl⟩ := cut
  exact ⟨token, rfl⟩

theorem bindReader {first : Reader α} {record : Record} (cut : OutOfRoom (first.run record).1)
    (next : α → Reader β) : OutOfRoom ((first >>= next).run record).1 := by
  rw [Effectful.run_bind]
  obtain ⟨token, given⟩ := cut
  rcases ran : first.run record with ⟨issue | value, after⟩
  · rw [ran] at given
    cases given
    exact ⟨token, rfl⟩
  · rw [ran] at given
    cases given

/-- A reader inside another runs out of room, or there is no room even for it. -/
theorem descend {read : Option Nat → Except Issue α} (token : Token)
    (inner : ∀ left, room = left + 1 → OutOfRoom (read (some left))) :
    OutOfRoom (descend (some room) token read) := by
  cases room with
  | zero => exact ⟨token, rfl⟩
  | succ left => exact inner left rfl

theorem descendReader {read : Option Nat → Reader α} {record : Record} (token : Token)
    (inner : ∀ left, room = left + 1 → OutOfRoom ((read (some left)).run record).1) :
    OutOfRoom ((Program.descend (some room) token read).run record).1 := by
  cases room with
  | zero => exact ⟨token, rfl⟩
  | succ left => exact inner left rfl

end OutOfRoom

/-- So many opening parentheses come first. -/
def OpensWith : Nat → List Token → Prop
  | 0, _ => True
  | _ + 1, [] => False
  | depth + 1, token :: rest => token.kind = .openParen ∧ OpensWith depth rest

theorem OpensWith.le_length {depth : Nat} {tokens : List Token} (opens : OpensWith depth tokens) :
    depth ≤ tokens.length := by
  induction depth generalizing tokens with
  | zero => exact Nat.zero_le _
  | succ depth hypothesis =>
      obtain _ | ⟨token, rest⟩ := tokens
      · exact opens.elim
      · exact Nat.succ_le_succ (hypothesis opens.2)

/-- It takes two readers to read a parenthesis: one of the expression and one of what it is in. -/
theorem outOfRoom_expression (arities : Arities) {depth room budget : Nat} {cursor : Cursor}
    (opens : OpensWith depth cursor.ahead) (short : room ≤ 2 * depth) (enough : room < budget) :
    OutOfRoom (expression (some room) arities budget cursor) := by
  induction depth generalizing room budget cursor with
  | zero =>
      obtain ⟨budget, rfl⟩ := Nat.exists_eq_add_of_lt enough
      obtain rfl : room = 0 := by omega
      rw [expression]
      exact (OutOfRoom.descend _ (by rintro _ ⟨⟩)).bind _
  | succ depth hypothesis =>
      obtain ⟨behind, _ | ⟨token, rest⟩⟩ := cursor
      · exact opens.elim
      obtain ⟨kind, opens⟩ := opens
      obtain ⟨budget, rfl⟩ : ∃ fewer, budget = fewer + 1 := ⟨budget - 1, by omega⟩
      rw [expression]
      refine (OutOfRoom.descend _ ?_).bind _
      rintro room rfl
      obtain ⟨budget, rfl⟩ : ∃ fewer, budget = fewer + 1 := ⟨budget - 1, by omega⟩
      simp only [primary, kind]
      refine (OutOfRoom.descend _ ?_).bind _
      rintro room rfl
      exact hypothesis opens (by omega) (by omega)

/-- A command to print something in parentheses takes four more readers. -/
theorem outOfRoom_print {token : Token} {rest : List Token} {depth room budget : Nat}
    (kind : token.kind = .command .print) (opens : OpensWith (depth + 1) rest)
    (short : room ≤ 2 * (depth + 1)) (enough : room ≤ budget) (record : Record) :
    OutOfRoom ((descend (some room) token fun room =>
      statement room budget token rest).run record).1 := by
  obtain _ | ⟨opener, inside⟩ := rest
  · exact opens.elim
  refine .descendReader _ ?_
  rintro room rfl
  obtain ⟨budget, rfl⟩ : ∃ fewer, budget = fewer + 1 := ⟨budget - 1, by omega⟩
  simp only [statement, kind]
  refine .bindReader (.descendReader _ ?_) _
  rintro room rfl
  obtain ⟨budget, rfl⟩ : ∃ fewer, budget = fewer + 1 := ⟨budget - 1, by omega⟩
  have notAtEnd : ¬ (⟨token, opener :: inside⟩ : Cursor).atEnd = true := by
    simp only [Cursor.atEnd, opens.1]
    exact Bool.false_ne_true
  rw [show Primitive.print.spec.slots = [.datum .anything] from rfl, slotInputs, if_neg notAtEnd]
  refine .bindReader (.descendReader _ ?_) _
  rintro room rfl
  obtain ⟨budget, rfl⟩ : ∃ fewer, budget = fewer + 1 := ⟨budget - 1, by omega⟩
  rw [slotInput]
  refine .bindReader ?_ _
  rw [run_withArities]
  dsimp only
  refine .descend _ ?_
  rintro room rfl
  exact outOfRoom_expression _ opens (by omega) (by omega)

/-- A number in so many parentheses, to be printed. -/
def inParentheses (depth : Nat) : String :=
  "PRINT " ++ String.ofList (List.replicate depth '(' ++ '1' :: List.replicate depth ')')

theorem kind_openParen (position : Nat) :
    (Token.ofLexeme ⟨"(", position⟩).kind = .openParen := by
  have kind : Kind.ofText "(" = .openParen := by decide
  simp only [Token.ofLexeme, kind]

/-- Openers in a row are what comes first. -/
theorem opensWith_layout (depth position : Nat) (others : List Piece) :
    OpensWith depth (Piece.layout position (List.replicate depth ⟨[], "("⟩ ++ others)) := by
  induction depth generalizing position with
  | zero => trivial
  | succ depth hypothesis => exact ⟨kind_openParen _, hypothesis _⟩

/-- The pieces of such a text. -/
def piecesInParentheses (depth : Nat) : List Piece :=
  ⟨[], "PRINT"⟩ :: ⟨[' '], "("⟩ :: (List.replicate depth ⟨[], "("⟩ ++
    ⟨[], "1"⟩ :: List.replicate (depth + 1) ⟨[], ")"⟩)

theorem written_replicate {lexeme : String} {character : Char}
    (single : lexeme.toList = [character]) (count : Nat) :
    Piece.written (List.replicate count ⟨[], lexeme⟩) = List.replicate count character := by
  induction count with
  | zero => rfl
  | succ count hypothesis =>
      rw [List.replicate_succ, List.replicate_succ, ← hypothesis]
      simp [Piece.written, single]

theorem written_piecesInParentheses (depth : Nat) :
    String.ofList (Piece.written (piecesInParentheses depth)) = inParentheses (depth + 1) := by
  apply String.toList_injective
  have openers := written_replicate (show "(".toList = ['('] by decide) depth
  have closers := written_replicate (show ")".toList = [')'] by decide) depth
  unfold Piece.written at openers closers
  simp [piecesInParentheses, Piece.written, inParentheses, List.replicate_succ, openers, closers]

/-- Such a text begins with the command and then has its opening parentheses. -/
theorem scan_inParentheses (depth : Nat) :
    ∃ token tokens, Token.scan (inParentheses (depth + 1)) = token :: tokens ∧
      token.kind = .command .print ∧ OpensWith (depth + 1) tokens := by
  have opener : Token.IsLexeme "(" := .glyph rfl rfl
  have closer : Token.IsLexeme ")" := .glyph rfl rfl
  have number : Token.IsLexeme "1" :=
    Token.isLexeme_of_mem_scan
      (show (⟨.number, "1", 0, 1⟩ : Token) ∈ Token.scan "1" by decide +kernel)
  have proper : ∀ piece ∈ piecesInParentheses depth, piece.IsProper := by
    simp only [piecesInParentheses, List.mem_cons, List.mem_append, List.mem_replicate]
    rintro _ (rfl | rfl | ⟨-, rfl⟩ | rfl | ⟨-, rfl⟩)
    · exact ⟨nofun, Primitive.isLexeme_name .print⟩
    · exact ⟨List.forall_mem_singleton.mpr rfl, opener⟩
    · exact ⟨nofun, opener⟩
    · exact ⟨nofun, number⟩
    · exact ⟨nofun, closer⟩
  have joins : (piecesInParentheses depth).IsChain Piece.Joins := by
    have afterOpener {gap : List Char} {others : List Piece} (chain : others.IsChain Piece.Joins) :
        List.IsChain Piece.Joins (⟨gap, "("⟩ :: others) :=
      List.isChain_cons.mpr ⟨fun _ _ => .inr (.inl rfl), chain⟩
    have closers : List.IsChain Piece.Joins
        (⟨[], "1"⟩ :: List.replicate (depth + 1) ⟨[], ")"⟩) := by
      refine List.isChain_cons.mpr ⟨?_, List.isChain_replicate_of_rel _ (.inr (.inr (.inl rfl)))⟩
      rintro _ ⟨⟩
      exact .inr (.inr (.inl rfl))
    have openers (count : Nat) : List.IsChain Piece.Joins (List.replicate count ⟨[], "("⟩ ++
        ⟨[], "1"⟩ :: List.replicate (depth + 1) ⟨[], ")"⟩) := by
      induction count with
      | zero => exact closers
      | succ count hypothesis => exact afterOpener hypothesis
    refine List.isChain_cons.mpr ⟨?_, afterOpener (openers depth)⟩
    rintro _ ⟨⟩
    exact .inl (List.cons_ne_nil _ _)
  rw [← written_piecesInParentheses, Piece.scan_written proper joins]
  exact ⟨_, _, rfl, Primitive.ofText_name .print, kind_openParen _, opensWith_layout _ _ _⟩

/-- There is no room for a number in more than half as many parentheses as readers. -/
theorem parse_inParentheses {room depth : Nat} (short : room ≤ 2 * (depth + 1)) :
    parse room (inParentheses (depth + 1)) = .error .tooManyCalls := by
  obtain ⟨token, rest, scanned, kind, opens⟩ := scan_inParentheses depth
  have longer : depth + 1 ≤ rest.length := opens.le_length
  have budget : budgetFor (token :: rest) = 8 * rest.length + 15 + 1 := by
    rw [budgetFor, List.length_cons]
    omega
  obtain ⟨place, cut⟩ := outOfRoom_print kind opens short
    (show room ≤ 8 * rest.length + 15 by omega) .empty
  have ended := run_statements_error (some room) (Prod.ext cut rfl)
  rw [if_pos (show Complaint.noRoom.isFatal = true from rfl)] at ended
  rw [parse, scanned, if_pos]
  simp [isCutShort, ofTokens, budget, ended, Record.note]

/-- On the platform on which programs are run, six hundred parentheses are too many. -/
theorem parse_inParentheses_standard :
    parse Platform.standard.readers (inParentheses 600) = .error .tooManyCalls :=
  parse_inParentheses (by decide)

end Program

end Logo
