import Logo.Proofs.Program.Statements

/-!
# Reading with limited room

A reader whose room on the stack is limited gives what it would give with as
much room as it likes, or it complains that there was no room.  The complaint
goes through everything around it, also through a call that gives up inputs it
cannot read, and so it reaches the top.  A reader never goes deeper than its
budget is large, so with room for its budget it does not complain.  With as
much room as it likes it does not complain either.
-/

namespace Logo.Program

open Effectful

/-- An outcome is not that there was no room. -/
def IsRoomy {α : Type} (result : Except Issue α) : Prop :=
  ∀ issue, result = .error issue → issue.complaint ≠ .noRoom

theorem isRoomy_ok {α : Type} (value : α) : IsRoomy (.ok value : Except Issue α) := by
  rintro _ ⟨⟩

theorem isRoomy_error {α : Type} {issue : Issue} (mild : issue.complaint ≠ .noRoom) :
    IsRoomy (.error issue : Except Issue α) := by
  rintro _ ⟨⟩
  exact mild

/--
What is read with limited room, held against what is read with any: the same,
or else there was no room, which happens only if the room is less than the
budget.  What is left behind by a reader, if anything, is compared as well.
-/
inductive Fits (budget room : Nat) {α rest : Type} :
    Except Issue α × rest → Except Issue α × rest → Prop where
  | same {outcome : Except Issue α × rest} (roomy : IsRoomy outcome.1) :
      Fits budget room outcome outcome
  | cut {token : Token} {after : rest} {outcome : Except Issue α × rest} (short : room < budget)
      (roomy : IsRoomy outcome.1) : Fits budget room (.error ⟨.noRoom, token⟩, after) outcome

namespace Fits

variable {α β rest : Type} {budget room : Nat}

/-- A reader with any room does not complain of a lack of it. -/
theorem roomy {limited outcome : Except Issue α × rest} (fits : Fits budget room limited outcome) :
    IsRoomy outcome.1 := by
  cases fits with
  | same roomy => exact roomy
  | cut short roomy => exact roomy

/-- A part of a reader needs no more room than the whole. -/
theorem weaken {limited outcome : Except Issue α × rest}
    (fits : Fits budget room limited outcome) : Fits (budget + 1) room limited outcome := by
  cases fits with
  | same roomy => exact .same roomy
  | cut short roomy => exact .cut (Nat.lt_succ_of_lt short) roomy

/-- One place more of the budget makes up for one place more of the room. -/
theorem succ {limited outcome : Except Issue α × rest} (fits : Fits budget room limited outcome) :
    Fits (budget + 1) (room + 1) limited outcome := by
  cases fits with
  | same roomy => exact .same roomy
  | cut short roomy => exact .cut (Nat.succ_lt_succ short) roomy

end Fits

/-- Results of readers of expressions fit. -/
abbrev ResultsFit (budget room : Nat) {α : Type} (limited unlimited : Except Issue α) : Prop :=
  Fits budget room (limited, ()) (unlimited, ())

/-- Readers of statements fit, whatever they remember. -/
def ReadersFit (budget room : Nat) {α : Type} (limited unlimited : Reader α) : Prop :=
  ∀ record, Fits budget room (limited.run record) (unlimited.run record)

namespace ResultsFit

variable {α β : Type} {budget room : Nat}

theorem refl {result : Except Issue α} (roomy : IsRoomy result) :
    ResultsFit budget room result result :=
  .same roomy

theorem given (value : α) : ResultsFit budget room (.ok value) (.ok value) :=
  .same (isRoomy_ok value)

/-- Results fit if those of both parts do. -/
theorem bind {limited unlimited : Except Issue α} {next next' : α → Except Issue β}
    (first : ResultsFit budget room limited unlimited)
    (others : ∀ value, ResultsFit budget room (next value) (next' value)) :
    ResultsFit budget room (limited >>= next) (unlimited >>= next') := by
  cases first with
  | same roomy =>
      cases limited with
      | error issue => exact .same (isRoomy_error (roomy issue rfl))
      | ok value => exact others value
  | cut short roomy =>
      refine .cut short ?_
      cases unlimited with
      | error issue => exact isRoomy_error (roomy issue rfl)
      | ok value => exact (others value).roomy

/-- A reader inside another has one place less, of its budget and of its room. -/
theorem descend {read : Option Nat → Except Issue α}
    (inner : ∀ room, ResultsFit budget room (read (some room)) (read none)) (token : Token) :
    ResultsFit (budget + 1) room (descend (some room) token read)
      (Program.descend none token read) := by
  cases room with
  | zero => exact .cut (Nat.succ_pos budget) (inner 0).roomy
  | succ room => exact (inner room).succ

end ResultsFit

/-! ## Expressions -/

theorem isRoomy_checkOperand (glyph : String) (value : Value) (token : Token) :
    IsRoomy (checkOperand glyph value token) := by
  unfold checkOperand
  split
  · exact isRoomy_ok ()
  · exact isRoomy_error (by rintro ⟨⟩)

theorem isRoomy_checkInput (name : String) (shape : Shape) (value : Value) (token : Token) :
    IsRoomy (checkInput name shape value token) := by
  unfold checkInput
  split
  · exact isRoomy_ok ()
  · exact isRoomy_error (by rintro ⟨⟩)

theorem isRoomy_numberOf (token : Token) : IsRoomy (numberOf token) := by
  unfold numberOf
  split
  · exact isRoomy_ok _
  · exact isRoomy_error (by rintro ⟨⟩)

/-- Items of a list fit. -/
theorem listItems_fit (opener : Token) (budget room : Nat) (cursor : Cursor) :
    ResultsFit budget room (listItems (some room) opener budget cursor)
      (listItems none opener budget cursor) := by
  induction budget generalizing opener room cursor with
  | zero => exact .refl (isRoomy_error (by rintro ⟨⟩))
  | succ budget hypothesis =>
      have others (item : Value) (next : Cursor) :
          ResultsFit (budget + 1) room
            (listItems (some room) opener budget next >>= fun result =>
              pure (item :: result.1, result.2))
            (listItems none opener budget next >>= fun result =>
              pure (item :: result.1, result.2)) :=
        .bind (hypothesis opener room next).weaken fun result => .given (item :: result.1, result.2)
      rw [listItems, listItems]
      obtain ⟨behind, _ | ⟨token, rest⟩⟩ := cursor
      · exact .refl (isRoomy_error (by rintro ⟨⟩))
      dsimp only
      split
      · exact .given _
      · exact .bind (.descend (fun room => hypothesis token room ⟨token, rest⟩) token) fun inner =>
          others (.list inner.1) inner.2
      · exact .bind (.refl (isRoomy_numberOf token)) fun value => others (.number value) _
      · split
        · split
          · exact .bind (.refl (isRoomy_numberOf _)) fun value => others (.number (-value)) _
          · exact others (.word token.lexeme) _
        · exact others (.word token.lexeme) _

/-- Readers of expressions with a budget fit, whatever their room. -/
structure ExpressionsFit (arities : Arities) (budget : Nat) : Prop where
  expression (room : Nat) (cursor : Cursor) :
    ResultsFit budget room (expression (some room) arities budget cursor)
      (expression none arities budget cursor)
  primary (room : Nat) (cursor : Cursor) :
    ResultsFit budget room (primary (some room) arities budget cursor)
      (primary none arities budget cursor)
  reporter (room : Nat) (primitive : Primitive) (token : Token) (shapes : List Shape)
      (cursor : Cursor) :
    ResultsFit budget room (reporterInputs (some room) arities primitive token budget shapes cursor)
      (reporterInputs none arities primitive token budget shapes cursor)
  call (room : Nat) (name : String) (token : Token) (cursor : Cursor) :
    ResultsFit budget room (callInputs (some room) arities name token budget cursor)
      (callInputs none arities name token budget cursor)
  exact (room : Nat) (name : String) (arity : Nat) (token : Token) (missing : Nat)
      (cursor : Cursor) :
    ResultsFit budget room
      (exactInputs (some room) arities name arity token budget missing cursor)
      (exactInputs none arities name arity token budget missing cursor)
  following (room : Nat) (cursor : Cursor) :
    ResultsFit budget room (followingInputs (some room) arities budget cursor)
      (followingInputs none arities budget cursor)

namespace ExpressionsFit

variable {arities : Arities} {budget : Nat}

/-- Expressions fit, if what is inside of them does. -/
theorem expression_succ (fit : ExpressionsFit arities budget) (room : Nat) (cursor : Cursor) :
    ResultsFit (budget + 1) room (Program.expression (some room) arities (budget + 1) cursor)
      (Program.expression none arities (budget + 1) cursor) := by
  rw [Program.expression, Program.expression]
  refine .bind (.descend (fun room => fit.primary room cursor) _) ?_
  rintro ⟨left, behind, _ | ⟨token, rest⟩⟩
  · exact .given _
  dsimp only
  split
  · split
    · exact .given _
    · split
      · exact .refl (isRoomy_error (by rintro ⟨⟩))
      · refine .bind (.descend (fun room => fit.expression room _) _) fun right => ?_
        refine .bind (.refl (isRoomy_checkOperand _ _ _)) fun _ => ?_
        exact .bind (.refl (isRoomy_checkOperand _ _ _)) fun _ => .given _
  · exact .given _

/-- So do primaries. -/
theorem primary_succ (fit : ExpressionsFit arities budget) (room : Nat) (cursor : Cursor) :
    ResultsFit (budget + 1) room (Program.primary (some room) arities (budget + 1) cursor)
      (Program.primary none arities (budget + 1) cursor) := by
  rw [Program.primary, Program.primary]
  obtain ⟨behind, _ | ⟨token, rest⟩⟩ := cursor
  · exact .refl (isRoomy_error (by rintro ⟨⟩))
  dsimp only
  split
  · exact .bind (.refl (isRoomy_numberOf token)) fun value => .given _
  · exact .given _
  · exact .given _
  · exact .bind (.descend (fun room => listItems_fit token budget room _) _) fun items => .given _
  · refine .bind (.descend (fun room => fit.expression room _) _) ?_
    rintro ⟨inner, before, _ | ⟨closer, others⟩⟩
    · exact .refl (isRoomy_error (by rintro ⟨⟩))
    · dsimp only
      split
      · exact .given _
      · exact .refl (isRoomy_error (by rintro ⟨⟩))
  · split
    · refine .bind (.descend (fun room => fit.primary room _) _) fun operand => ?_
      exact .bind (.refl (isRoomy_checkOperand _ _ _)) fun _ => .given _
    · exact .refl (isRoomy_error (by rintro ⟨⟩))
  · split
    · exact .refl (isRoomy_error (by rintro ⟨⟩))
    · exact .bind (.descend (fun room => fit.reporter room _ _ _ _) _) fun inputs => .given _
  · exact .bind (.descend (fun room => fit.call room _ _ _) _) fun inputs => .given _
  · exact .refl (isRoomy_error (by rintro ⟨⟩))

theorem reporter_succ (fit : ExpressionsFit arities budget) (room : Nat) (primitive : Primitive)
    (token : Token) (shapes : List Shape) (cursor : Cursor) :
    ResultsFit (budget + 1) room
      (reporterInputs (some room) arities primitive token (budget + 1) shapes cursor)
      (reporterInputs none arities primitive token (budget + 1) shapes cursor) := by
  obtain _ | ⟨shape, shapes⟩ := shapes
  · exact .given ([], cursor)
  rw [reporterInputs, reporterInputs]
  split
  · exact .refl (isRoomy_error (by rintro ⟨⟩))
  · refine .bind (.descend (fun room => fit.expression room cursor) _) fun value => ?_
    refine .bind (.refl (isRoomy_checkInput _ _ _ _)) fun _ => ?_
    exact .bind (fit.reporter room primitive token shapes value.2).weaken fun values => .given _

theorem call_succ (fit : ExpressionsFit arities budget) (room : Nat) (name : String)
    (token : Token) (cursor : Cursor) :
    ResultsFit (budget + 1) room (callInputs (some room) arities name token (budget + 1) cursor)
      (callInputs none arities name token (budget + 1) cursor) := by
  rw [callInputs, callInputs]
  cases arities.lookup name with
  | none => exact (fit.following room cursor).weaken
  | some arity => exact (fit.exact room name arity token arity cursor).weaken

theorem exact_succ (fit : ExpressionsFit arities budget) (room : Nat) (name : String)
    (arity : Nat) (token : Token) (missing : Nat) (cursor : Cursor) :
    ResultsFit (budget + 1) room
      (exactInputs (some room) arities name arity token (budget + 1) missing cursor)
      (exactInputs none arities name arity token (budget + 1) missing cursor) := by
  obtain _ | missing := missing
  · exact .given ([], cursor)
  rw [exactInputs, exactInputs]
  split
  · exact .refl (isRoomy_error (by rintro ⟨⟩))
  · refine .bind (.descend (fun room => fit.expression room cursor) _) fun value => ?_
    exact .bind (fit.exact room name arity token missing value.2).weaken fun values => .given _

/--
So do inputs as many as follow.  A call gives up the inputs that it cannot
read, but not for want of room.
-/
theorem following_succ (fit : ExpressionsFit arities budget) (room : Nat) (cursor : Cursor) :
    ResultsFit (budget + 1) room (followingInputs (some room) arities (budget + 1) cursor)
      (followingInputs none arities (budget + 1) cursor) := by
  rw [followingInputs, followingInputs]
  split
  · have first : ResultsFit (budget + 1) room
        (descend (some room) cursor.next fun room => Program.expression room arities budget cursor)
        (Program.expression none arities budget cursor) :=
      .descend (fun room => fit.expression room cursor) cursor.next
    rw [descend_none]
    generalize Program.expression none arities budget cursor = unlimited at first ⊢
    generalize (descend (some room) cursor.next fun room =>
      Program.expression room arities budget cursor) = limited at first ⊢
    have others (value : Value) (next : Cursor) : ResultsFit (budget + 1) room
        (followingInputs (some room) arities budget next >>= fun result =>
          pure (value :: result.1, result.2))
        (followingInputs none arities budget next >>= fun result =>
          pure (value :: result.1, result.2)) :=
      .bind (fit.following room next).weaken fun result => .given _
    cases first with
    | same roomy =>
        obtain issue | ⟨value, next⟩ := unlimited
        · simp only [recover, roomy issue rfl, if_false]
          exact .given ([], cursor)
        · exact others value next
    | cut short roomy =>
        refine .cut short ?_
        obtain issue | ⟨value, next⟩ := unlimited
        · exact isRoomy_ok ([], cursor)
        · exact (others value next).roomy
  · exact .given ([], cursor)

end ExpressionsFit

/-- Readers of expressions fit, whatever their budget. -/
theorem expressionsFit (arities : Arities) (budget : Nat) : ExpressionsFit arities budget := by
  induction budget with
  | zero => constructor <;> intros <;> exact .refl (isRoomy_error (by rintro ⟨⟩))
  | succ budget hypothesis =>
      exact ⟨hypothesis.expression_succ, hypothesis.primary_succ, hypothesis.reporter_succ,
        hypothesis.call_succ, hypothesis.exact_succ, hypothesis.following_succ⟩

/-! ## Statements -/

namespace ReadersFit

variable {α β : Type} {budget room : Nat}

theorem given (value : α) : ReadersFit budget room (pure value) (pure value) :=
  fun _ => .same (isRoomy_ok value)

theorem throw {issue : Issue} (mild : issue.complaint ≠ .noRoom) :
    ReadersFit budget room (throw issue : Reader α) (MonadExceptOf.throw issue) :=
  fun _ => .same (isRoomy_error mild)

theorem change (change : Record → Record) :
    ReadersFit budget room (modify change) (modify change) :=
  fun _ => .same (isRoomy_ok ())

theorem weaken {limited unlimited : Reader α} (fit : ReadersFit budget room limited unlimited) :
    ReadersFit (budget + 1) room limited unlimited :=
  fun record => (fit record).weaken

/-- Readers fit if both parts do. -/
theorem bind {limited unlimited : Reader α} {next next' : α → Reader β}
    (first : ReadersFit budget room limited unlimited)
    (others : ∀ value, ReadersFit budget room (next value) (next' value)) :
    ReadersFit budget room (limited >>= next) (unlimited >>= next') := by
  intro record
  rw [run_bind, run_bind]
  have fits := first record
  generalize limited.run record = left at fits ⊢
  generalize unlimited.run record = right at fits ⊢
  cases fits with
  | same roomy =>
      obtain ⟨issue | value, after⟩ := left
      · exact .same (isRoomy_error (roomy issue rfl))
      · exact others value after
  | cut short roomy =>
      refine .cut short ?_
      obtain ⟨issue | value, after⟩ := right
      · exact isRoomy_error (roomy issue rfl)
      · exact (others value after).roomy

theorem descend {read : Option Nat → Reader α}
    (inner : ∀ room, ReadersFit budget room (read (some room)) (read none)) (token : Token) :
    ReadersFit (budget + 1) room (descend (some room) token read)
      (Program.descend none token read) := by
  intro record
  cases room with
  | zero => exact .cut (Nat.succ_pos budget) (inner 0 record).roomy
  | succ room => exact (inner room record).succ

theorem withArities {limited unlimited : Arities → Except Issue α}
    (fit : ∀ arities, ResultsFit budget room (limited arities) (unlimited arities)) :
    ReadersFit budget room (withArities limited) (Program.withArities unlimited) := by
  intro record
  rw [run_withArities, run_withArities]
  have fits := fit record.arities
  generalize limited record.arities = left at fits ⊢
  generalize unlimited record.arities = right at fits ⊢
  cases fits with
  | same roomy => exact .same roomy
  | cut short roomy => exact .cut short roomy

end ReadersFit

/-- Readers of statements with a budget fit, whatever their room. -/
structure StatementsFit (budget : Nat) : Prop where
  statement (room : Nat) (token : Token) (rest : List Token) :
    ReadersFit budget room (statement (some room) budget token rest)
      (statement none budget token rest)
  slots (room : Nat) (primitive : Primitive) (token : Token) (slots : List Slot)
      (cursor : Cursor) :
    ReadersFit budget room (slotInputs (some room) primitive token budget slots cursor)
      (slotInputs none primitive token budget slots cursor)
  slot (room : Nat) (primitive : Primitive) (slot : Slot) (cursor : Cursor) :
    ReadersFit budget room (slotInput (some room) primitive budget slot cursor)
      (slotInput none primitive budget slot cursor)
  block (room : Nat) (opener : Token) (cursor : Cursor) :
    ReadersFit budget room (blockCommands (some room) opener budget cursor)
      (blockCommands none opener budget cursor)
  definition (room : Nat) (token : Token) (rest : List Token) :
    ReadersFit budget room (definition (some room) budget token rest)
      (definition none budget token rest)
  body (room : Nat) (name : String) (opener : Token) (cursor : Cursor) :
    ReadersFit budget room (bodyCommands (some room) name opener budget cursor)
      (bodyCommands none name opener budget cursor)

namespace StatementsFit

variable {budget : Nat}

/-- Statements fit, if what is inside of them does. -/
theorem statement_succ (fit : StatementsFit budget) (room : Nat) (token : Token)
    (rest : List Token) :
    ReadersFit (budget + 1) room (Program.statement (some room) (budget + 1) token rest)
      (Program.statement none (budget + 1) token rest) := by
  rw [Program.statement, Program.statement]
  split
  · exact .bind (.descend (fun room => fit.slots room _ _ _ _) _) fun inputs => .given _
  · refine .bind (.withArities fun arities => ?_) fun inputs => .given _
    exact .descend (fun room => (expressionsFit arities budget).call room _ _ _) _
  · exact .descend (fun room => fit.definition room token rest) token
  · exact .throw (by rintro ⟨⟩)
  · exact .throw (by rintro ⟨⟩)
  · exact .throw (by rintro ⟨⟩)

theorem slots_succ (fit : StatementsFit budget) (room : Nat) (primitive : Primitive)
    (token : Token) (slots : List Slot) (cursor : Cursor) :
    ReadersFit (budget + 1) room (slotInputs (some room) primitive token (budget + 1) slots cursor)
      (slotInputs none primitive token (budget + 1) slots cursor) := by
  obtain _ | ⟨slot, slots⟩ := slots
  · exact .given ([], cursor)
  rw [slotInputs, slotInputs]
  split
  · exact .throw (by rintro ⟨⟩)
  · refine .bind (.descend (fun room => fit.slot room _ _ _) _) fun value => ?_
    exact .bind (fit.slots room primitive token slots value.2).weaken fun values => .given _

theorem slot_succ (fit : StatementsFit budget) (room : Nat) (primitive : Primitive) (slot : Slot)
    (cursor : Cursor) :
    ReadersFit (budget + 1) room (slotInput (some room) primitive (budget + 1) slot cursor)
      (slotInput none primitive (budget + 1) slot cursor) := by
  cases slot with
  | datum shape =>
      rw [slotInput, slotInput]
      refine .bind (.withArities fun arities => ?_) fun value => ?_
      · exact .descend (fun room => (expressionsFit arities budget).expression room cursor) _
      · exact .bind (.withArities fun _ => .refl (isRoomy_checkInput _ _ _ _)) fun _ => .given _
  | block =>
      rw [slotInput, slotInput]
      obtain ⟨behind, _ | ⟨token, rest⟩⟩ := cursor
      · exact .throw (by rintro ⟨⟩)
      dsimp only
      split
      · exact .throw (by rintro ⟨⟩)
      · exact .bind (.descend (fun room => fit.block room _ _) _) fun commands => .given _

theorem block_succ (fit : StatementsFit budget) (room : Nat) (opener : Token) (cursor : Cursor) :
    ReadersFit (budget + 1) room (blockCommands (some room) opener (budget + 1) cursor)
      (blockCommands none opener (budget + 1) cursor) := by
  rw [blockCommands, blockCommands]
  obtain ⟨behind, _ | ⟨token, rest⟩⟩ := cursor
  · exact .throw (by rintro ⟨⟩)
  dsimp only
  split
  · exact .given _
  · refine .bind (.descend (fun room => fit.statement room token rest) _) fun first => ?_
    exact .bind (fit.block room opener first.2).weaken fun others => .given _

theorem definition_succ (fit : StatementsFit budget) (room : Nat) (token : Token)
    (rest : List Token) :
    ReadersFit (budget + 1) room (Program.definition (some room) (budget + 1) token rest)
      (Program.definition none (budget + 1) token rest) := by
  obtain _ | ⟨nameToken, rest⟩ := rest
  · exact .throw (by rintro ⟨⟩)
  rw [Program.definition, Program.definition]
  split
  · exact .throw (by rintro ⟨⟩)
  · refine .bind (.change _) fun _ => ?_
    exact .bind (fit.body room _ token _).weaken fun body => .given _
  · exact .throw (by rintro ⟨⟩)

/-- What there is no room for is not taken for an issue of the body. -/
theorem body_succ (fit : StatementsFit budget) (room : Nat) (name : String) (opener : Token)
    (cursor : Cursor) :
    ReadersFit (budget + 1) room (bodyCommands (some room) name opener (budget + 1) cursor)
      (bodyCommands none name opener (budget + 1) cursor) := by
  rw [bodyCommands, bodyCommands]
  obtain ⟨behind, _ | ⟨token, rest⟩⟩ := cursor
  · exact .throw (by rintro ⟨⟩)
  dsimp only
  split
  · exact .given _
  split
  · exact .throw (by rintro ⟨⟩)
  intro record
  have first : ReadersFit (budget + 1) room
      (descend (some room) token fun room => Program.statement room budget token rest)
      (descend none token fun room => Program.statement room budget token rest) :=
    .descend (fun room => fit.statement room token rest) token
  have fits := first record
  have others (command : Command) (next : Cursor) : ReadersFit (budget + 1) room
      (bodyCommands (some room) name opener budget next >>= fun result =>
        pure (command :: result.1, result.2))
      (bodyCommands none name opener budget next >>= fun result =>
        pure (command :: result.1, result.2)) :=
    .bind (fit.body room name opener next).weaken fun result => .given _
  have skipped (issue : Issue) : ReadersFit (budget + 1) room
      (modify (·.note issue) >>= fun _ => bodyCommands (some room) name opener budget ⟨token, rest⟩)
      (modify (·.note issue) >>= fun _ => bodyCommands none name opener budget ⟨token, rest⟩) :=
    .bind (.change _) fun _ => (fit.body room name opener _).weaken
  rw [run_bind_ok (run_attempt _ record), run_bind_ok (run_attempt _ record)]
  generalize (descend (some room) token fun room =>
    Program.statement room budget token rest).run record = left at fits ⊢
  generalize (descend none token fun room =>
    Program.statement room budget token rest).run record = right at fits ⊢
  cases fits with
  | same roomy =>
      obtain ⟨issue | ⟨command, next⟩, after⟩ := left
      · dsimp only
        split
        · exact .same (isRoomy_error (roomy issue rfl))
        · exact skipped issue after
      · exact others command next after
  | cut short roomy =>
      refine .cut short ?_
      obtain ⟨issue | ⟨command, next⟩, after⟩ := right
      · dsimp only
        split
        · exact isRoomy_error (roomy issue rfl)
        · exact (skipped issue after).roomy
      · exact (others command next after).roomy

end StatementsFit

/-- Readers of statements fit, whatever their budget. -/
theorem statementsFit (budget : Nat) : StatementsFit budget := by
  induction budget with
  | zero => constructor <;> intros <;> exact .throw (by rintro ⟨⟩)
  | succ budget hypothesis =>
      exact ⟨hypothesis.statement_succ, hypothesis.slots_succ, hypothesis.slot_succ,
        hypothesis.block_succ, hypothesis.definition_succ, hypothesis.body_succ⟩

/-! ## Programs -/

/--
Statements are read as with any room, or else what ended the reading is noted:
that there was no room.
-/
theorem run_statements_fit (budget room : Nat) (tokens : List Token) (record : Record) :
    (statements (some room) budget tokens).run record =
        (statements none budget tokens).run record ∨
      room < budget ∧
        ∃ issue ∈ ((statements (some room) budget tokens).run record).2.issues,
          issue.complaint = .noRoom := by
  induction budget generalizing tokens record with
  | zero => exact .inl rfl
  | succ budget hypothesis =>
      obtain _ | ⟨token, rest⟩ := tokens
      · exact .inl rfl
      have first : ReadersFit (budget + 1) room
          (descend (some room) token fun room => statement room budget token rest)
          (descend none token fun room => statement room budget token rest) :=
        .descend (fun room => (statementsFit budget).statement room token rest) token
      have others (rest : List Token) (record : Record) :
          (statements (some room) budget rest).run record =
              (statements none budget rest).run record ∨
            room < budget + 1 ∧
              ∃ issue ∈ ((statements (some room) budget rest).run record).2.issues,
                issue.complaint = .noRoom :=
        (hypothesis rest record).imp_right fun ⟨short, found⟩ => ⟨Nat.lt_succ_of_lt short, found⟩
      have fits := first record
      rcases ran : (descend (some room) token fun room =>
        statement room budget token rest).run record with ⟨result, after⟩
      rcases ran' : (descend none token fun room => statement room budget token rest).run record
        with ⟨result', after'⟩
      rw [ran, ran'] at fits
      cases fits with
      | same roomy =>
          obtain issue | ⟨command, next⟩ := result
          · rw [run_statements_error (some room) ran, run_statements_error none ran']
            split
            · exact .inl rfl
            · exact others rest (after.note issue)
          · rw [run_statements_ok (some room) ran, run_statements_ok none ran']
            rcases others next.ahead after with same | cut
            · exact .inl (by rw [same])
            · exact .inr cut
      | cut short roomy =>
          rw [run_statements_error (some room) ran]
          exact .inr ⟨short, _, List.mem_cons_self, rfl⟩

end Logo.Program
