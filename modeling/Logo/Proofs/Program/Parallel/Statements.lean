import Logo.Proofs.Program.Parallel.Expressions

/-!
# Statements read side by side

What holds of expressions holds of statements, where reading also keeps a
record.  Two records stay parallel: they know the same arities, and whatever
issues one of them has noted the other has noted too, relocated.  So readers
recover from an issue in the same way, and whole programs are read alike.
-/

namespace Logo.Program

open Effectful

/--
Two readings side by side: the tokens of the left one, how they are relocated
for the right one, and the issues that each had noted before.
-/
structure Sides where
  relocation : Relocation
  tokens : List Token
  before : List Issue
  before' : List Issue

namespace Sides

variable {α β γ δ : Type}

/-- The same arities are known, and the same issues have been noted since. -/
structure Records (sides : Sides) (left right : Record) : Prop where
  arities : right.arities = left.arities
  noted : ∃ noted, left.issues = noted ++ sides.before ∧
    right.issues = noted.map (Issue.relocate sides.relocation) ++ sides.before' ∧
    ∀ issue ∈ noted, issue.IsAbout sides.tokens

/-- From parallel records, two readers give parallel results and leave parallel records. -/
def Readers (sides : Sides) (values : α → β → Prop) (left : Reader α) (right : Reader β) : Prop :=
  ∀ record record', sides.Records record record' →
    Parallel sides.relocation sides.tokens values (left.run record).1 (right.run record').1 ∧
      sides.Records (left.run record).2 (right.run record').2

/-- Two readers give the same tree, the second relocated. -/
abbrev Read (sides : Sides) (image : α → α) (row : List Token) :
    Reader (α × Cursor) → Reader (α × Cursor) → Prop :=
  sides.Readers (Placed sides.relocation image row)

variable {sides : Sides} {values : α → β → Prop} {others : γ → δ → Prop}

theorem Records.announce {record record' : Record} (records : sides.Records record record')
    (name : String) (arity : Nat) :
    sides.Records (record.announce name arity) (record'.announce name arity) :=
  ⟨congrArg ((name, arity) :: ·) records.arities, records.noted⟩

theorem Records.note {record record' : Record} (records : sides.Records record record')
    {issue : Issue} (about : issue.IsAbout sides.tokens) :
    sides.Records (record.note issue) (record'.note (issue.relocate sides.relocation)) := by
  obtain ⟨noted, left, right, sound⟩ := records.noted
  refine ⟨records.arities, issue :: noted, ?_, ?_, List.forall_mem_cons.mpr ⟨about, sound⟩⟩
  · simp [Record.note, left]
  · simp [Record.note, right]

namespace Readers

theorem value {left : α} {right : β} (corresponds : values left right) :
    sides.Readers values (pure left) (pure right) :=
  fun _ _ records => ⟨.value corresponds, records⟩

theorem issue {issue : Issue} (about : issue.IsAbout sides.tokens) :
    sides.Readers values (throw issue) (throw (issue.relocate sides.relocation)) :=
  fun _ _ records => ⟨.issue about, records⟩

theorem given {image : α → α} {row : List Token} {result : α} {last : Cursor}
    (further : last.row <:+ row) :
    sides.Read image row (pure (result, last))
      (pure (image result, last.relocate sides.relocation)) :=
  .value ⟨further, rfl⟩

/-- One reader after another goes side by side. -/
theorem sequence {left : Reader α} {right : Reader β} {next : α → Reader γ}
    {next' : β → Reader δ} (first : sides.Readers values left right)
    (rest : ∀ value value', values value value' →
      sides.Readers others (next value) (next' value')) :
    sides.Readers others (left >>= next) (right >>= next') := by
  intro record record' records
  rw [run_bind, run_bind]
  obtain ⟨parallel, kept⟩ := first record record' records
  rcases ran : left.run record with ⟨result, after⟩
  rcases ran' : right.run record' with ⟨result', after'⟩
  rw [ran, ran'] at parallel kept
  cases parallel with
  | value corresponds => exact rest _ _ corresponds after after' kept
  | issue about => exact ⟨.issue about, kept⟩

/-- Both sides decide alike. -/
theorem choose {holds holds' : Prop} [Decidable holds] [Decidable holds'] {left other : Reader α}
    {right other' : Reader β} (same : holds' ↔ holds) (yes : sides.Readers values left right)
    (no : sides.Readers values other other') :
    sides.Readers values (if holds then left else other) (if holds' then right else other') := by
  by_cases decided : holds
  · rw [if_pos decided, if_pos (same.mpr decided)]
    exact yes
  · rw [if_neg decided, if_neg (mt same.mp decided)]
    exact no

/-- Sequencing after something was read. -/
theorem andThen {image : α → α} {row : List Token} {left right : Reader (α × Cursor)}
    {next : α × Cursor → Reader γ} {next' : α × Cursor → Reader δ}
    (first : sides.Read image row left right)
    (rest : ∀ result last, last.row <:+ row →
      sides.Readers others (next (result, last))
        (next' (image result, last.relocate sides.relocation))) :
    sides.Readers others (left >>= next) (right >>= next') := by
  refine first.sequence ?_
  rintro ⟨result, last⟩ _ ⟨further, rfl⟩
  exact rest result last further

theorem wider {image : α → α} {row row' : List Token} {left right : Reader (α × Cursor)}
    (reads : sides.Read image row left right) (wide : row <:+ row') :
    sides.Read image row' left right := by
  intro record record' records
  obtain ⟨parallel, kept⟩ := reads record record' records
  refine ⟨parallel.imp fun _ _ placed => ?_, kept⟩
  exact ⟨placed.further.trans wide, placed.same⟩

theorem withArities {read : Arities → Except Issue α} {read' : Arities → Except Issue β}
    (parallel : ∀ arities,
      Parallel sides.relocation sides.tokens values (read arities) (read' arities)) :
    sides.Readers values (withArities read) (withArities read') := by
  intro record record' records
  rw [run_withArities, run_withArities, records.arities]
  exact ⟨parallel record.arities, records⟩

theorem change {change change' : Record → Record}
    (keeps : ∀ record record', sides.Records record record' →
      sides.Records (change record) (change' record')) :
    sides.Readers (fun _ _ => True) (modify change) (modify change') :=
  fun record record' records => ⟨.value trivial, keeps record record' records⟩

/-- Attempts give the two results as they are. -/
theorem attempt {left : Reader α} {right : Reader β} (reads : sides.Readers values left right) :
    sides.Readers (Parallel sides.relocation sides.tokens values)
      (attempt left) (attempt right) := by
  intro record record' records
  rw [run_attempt, run_attempt]
  obtain ⟨parallel, kept⟩ := reads record record' records
  exact ⟨.value parallel, kept⟩

end Readers

theorem parameters_row (behind : Token) (rest : List Token) :
    (parameters behind rest).2.row <:+ behind :: rest := by
  induction rest generalizing behind with
  | nil => exact List.suffix_refl _
  | cons token rest hypothesis =>
      rw [parameters]
      split
      · exact (hypothesis token).trans (List.suffix_cons behind _)
      · exact List.suffix_refl _

/-! ## Statements and blocks -/

/-- The readers of statements work side by side as long as they need no more than a demand. -/
structure ReadStatements (sides : Sides) (demand : Nat) : Prop where
  statement {token : Token} {rest : List Token} {budget budget' : Nat}
    (place : token :: rest <:+ sides.tokens) (within : 4 * rest.length + 5 ≤ demand)
    (enough : 4 * rest.length + 5 ≤ budget) (enough' : 4 * rest.length + 5 ≤ budget') :
    sides.Read (Command.mapOrigins sides.relocation.origin) (token :: rest)
      (statement none budget token rest)
      (statement none budget' (token.relocate sides.relocation)
        (rest.map (Token.relocate sides.relocation)))
  slots {token : Token} {cursor : Cursor} {budget budget' : Nat} (primitive : Primitive)
    (slots : List Slot) (member : token ∈ sides.tokens) (place : cursor.row <:+ sides.tokens)
    (within : 4 * cursor.ahead.length + 4 ≤ demand) (enough : 4 * cursor.ahead.length + 4 ≤ budget)
    (enough' : 4 * cursor.ahead.length + 4 ≤ budget') :
    sides.Read (valuesMapOrigins sides.relocation.origin) cursor.row
      (slotInputs none primitive token budget slots cursor)
      (slotInputs none primitive (token.relocate sides.relocation) budget' slots
        (cursor.relocate sides.relocation))
  slot {cursor : Cursor} {budget budget' : Nat} (primitive : Primitive) (slot : Slot)
    (place : cursor.row <:+ sides.tokens) (within : 4 * cursor.ahead.length + 3 ≤ demand)
    (enough : 4 * cursor.ahead.length + 3 ≤ budget)
    (enough' : 4 * cursor.ahead.length + 3 ≤ budget') :
    sides.Read (Value.mapOrigins sides.relocation.origin) cursor.ahead
      (slotInput none primitive budget slot cursor)
      (slotInput none primitive budget' slot (cursor.relocate sides.relocation))
  block {opener : Token} {cursor : Cursor} {budget budget' : Nat} (opens : opener ∈ sides.tokens)
    (place : cursor.row <:+ sides.tokens) (within : 4 * cursor.ahead.length + 2 ≤ demand)
    (enough : 4 * cursor.ahead.length + 2 ≤ budget)
    (enough' : 4 * cursor.ahead.length + 2 ≤ budget') :
    sides.Read (commandsMapOrigins sides.relocation.origin) cursor.ahead
      (blockCommands none opener budget cursor)
      (blockCommands none (opener.relocate sides.relocation) budget'
        (cursor.relocate sides.relocation))
  definition {token : Token} {rest : List Token} {budget budget' : Nat}
    (place : token :: rest <:+ sides.tokens) (within : 4 * rest.length + 4 ≤ demand)
    (enough : 4 * rest.length + 4 ≤ budget) (enough' : 4 * rest.length + 4 ≤ budget') :
    sides.Read (Command.mapOrigins sides.relocation.origin) (token :: rest)
      (definition none budget token rest)
      (definition none budget' (token.relocate sides.relocation)
        (rest.map (Token.relocate sides.relocation)))
  body {opener : Token} {cursor : Cursor} {budget budget' : Nat} (name : String)
    (opens : opener ∈ sides.tokens) (place : cursor.row <:+ sides.tokens)
    (within : 4 * cursor.ahead.length + 2 ≤ demand) (enough : 4 * cursor.ahead.length + 2 ≤ budget)
    (enough' : 4 * cursor.ahead.length + 2 ≤ budget') :
    sides.Read (commandsMapOrigins sides.relocation.origin) cursor.ahead
      (bodyCommands none name opener budget cursor)
      (bodyCommands none name (opener.relocate sides.relocation) budget'
        (cursor.relocate sides.relocation))

namespace ReadStatements

variable {demand budget budget' : Nat} {token opener : Token} {rest : List Token} {cursor : Cursor}

/-- Statements are read side by side, if what is inside of them is. -/
theorem statement_succ (suits : sides.relocation.Suits sides.tokens)
    (read : ReadStatements sides demand) (place : token :: rest <:+ sides.tokens)
    (within : 4 * rest.length + 5 ≤ demand + 1) (enough : 4 * rest.length + 5 ≤ budget)
    (enough' : 4 * rest.length + 5 ≤ budget') :
    sides.Read (Command.mapOrigins sides.relocation.origin) (token :: rest)
      (Program.statement none budget token rest)
      (Program.statement none budget' (token.relocate sides.relocation)
        (rest.map (Token.relocate sides.relocation))) := by
  obtain _ | budget := budget
  · cases enough
  obtain _ | budget' := budget'
  · cases enough'
  have smaller := Nat.le_of_succ_le_succ within
  have room := Nat.le_of_succ_le_succ enough
  have room' := Nat.le_of_succ_le_succ enough'
  have inside : Cursor.row ⟨token, rest⟩ <:+ sides.tokens := place
  have member : token ∈ sides.tokens := place.subset (List.mem_cons_self ..)
  simp only [Program.statement, Token.kind_relocate]
  cases kind : token.kind with
  | command primitive =>
      refine (read.slots primitive primitive.spec.slots member inside smaller room room').andThen ?_
      intro inputs last further
      exact .given further
  | procedure name =>
      have called arities :=
        (readSideBySide suits arities _).call name member inside (Nat.le_refl _) room room'
      refine (Readers.withArities called).andThen ?_
      intro inputs last further
      exact .given further
  | toWord => exact read.definition place smaller room room'
  | _ => exact .issue ⟨rfl, member⟩

theorem slots_succ (read : ReadStatements sides demand) (primitive : Primitive)
    (slots : List Slot) (member : token ∈ sides.tokens) (place : cursor.row <:+ sides.tokens)
    (within : 4 * cursor.ahead.length + 4 ≤ demand + 1)
    (enough : 4 * cursor.ahead.length + 4 ≤ budget)
    (enough' : 4 * cursor.ahead.length + 4 ≤ budget') :
    sides.Read (valuesMapOrigins sides.relocation.origin) cursor.row
      (slotInputs none primitive token budget slots cursor)
      (slotInputs none primitive (token.relocate sides.relocation) budget' slots
        (cursor.relocate sides.relocation)) := by
  obtain _ | budget := budget
  · cases enough
  obtain _ | budget' := budget'
  · cases enough'
  cases slots with
  | nil => exact .given (List.suffix_refl _)
  | cons slot slots =>
      rw [slotInputs, slotInputs]
      refine .choose (by rw [Cursor.atEnd_relocate]) (.issue ⟨rfl, member⟩) ?_
      refine (read.slot primitive slot place (Nat.le_of_succ_le_succ within)
        (Nat.le_of_succ_le_succ enough) (Nat.le_of_succ_le_succ enough')).andThen ?_
      intro value next further
      have shorter := Cursor.length_lt_of_row further
      have inside := further.trans ((List.suffix_cons _ _).trans place)
      refine (read.slots primitive slots member inside (by omega) (by omega) (by omega)).andThen ?_
      intro values last beyond
      exact .given (beyond.trans (further.trans (List.suffix_cons _ _)))

theorem slot_succ (suits : sides.relocation.Suits sides.tokens)
    (read : ReadStatements sides demand) (primitive : Primitive) (slot : Slot)
    (place : cursor.row <:+ sides.tokens) (within : 4 * cursor.ahead.length + 3 ≤ demand + 1)
    (enough : 4 * cursor.ahead.length + 3 ≤ budget)
    (enough' : 4 * cursor.ahead.length + 3 ≤ budget') :
    sides.Read (Value.mapOrigins sides.relocation.origin) cursor.ahead
      (slotInput none primitive budget slot cursor)
      (slotInput none primitive budget' slot (cursor.relocate sides.relocation)) := by
  obtain _ | budget := budget
  · cases enough
  obtain _ | budget' := budget'
  · cases enough'
  cases slot with
  | datum shape =>
      rw [slotInput, slotInput, Cursor.next_relocate]
      have first arities := (readSideBySide suits arities _).expression place (Nat.le_refl _)
        (Nat.le_of_succ_le_succ enough) (Nat.le_of_succ_le_succ enough')
      refine (Readers.withArities first).andThen ?_
      intro value next further
      have checked (_ : Arities) : Parallel sides.relocation sides.tokens (fun _ _ => True) _ _ :=
        checkInput_parallel primitive.name shape value (Cursor.next_mem place)
      refine (Readers.withArities checked).sequence fun _ _ _ => ?_
      exact .given further
  | block =>
      obtain ⟨behind, _ | ⟨opener, rest⟩⟩ := cursor
      · exact .issue ⟨rfl, place.subset (List.mem_singleton_self behind)⟩
      have here := Cursor.row_tail place
      have inside : Cursor.row ⟨opener, rest⟩ <:+ sides.tokens := here
      have member : opener ∈ sides.tokens := here.subset (List.mem_cons_self ..)
      simp only [List.length_cons] at within enough enough'
      simp only [slotInput, Cursor.relocate_mk, List.map_cons]
      refine .choose Iff.rfl (.issue ⟨rfl, member⟩) ?_
      refine (read.block member inside (by dsimp only; omega) (by dsimp only; omega)
        (by dsimp only; omega)).andThen ?_
      intro commands last further
      exact .given (further.trans (List.suffix_cons opener rest))

/-- So are the commands of a block. -/
theorem block_succ (read : ReadStatements sides demand) (opens : opener ∈ sides.tokens)
    (place : cursor.row <:+ sides.tokens) (within : 4 * cursor.ahead.length + 2 ≤ demand + 1)
    (enough : 4 * cursor.ahead.length + 2 ≤ budget)
    (enough' : 4 * cursor.ahead.length + 2 ≤ budget') :
    sides.Read (commandsMapOrigins sides.relocation.origin) cursor.ahead
      (blockCommands none opener budget cursor)
      (blockCommands none (opener.relocate sides.relocation) budget'
        (cursor.relocate sides.relocation)) := by
  obtain _ | budget := budget
  · cases enough
  obtain _ | budget' := budget'
  · cases enough'
  obtain ⟨behind, _ | ⟨token, rest⟩⟩ := cursor
  · exact .issue ⟨rfl, opens⟩
  have here := Cursor.row_tail place
  simp only [List.length_cons] at within enough enough'
  simp only [blockCommands, Cursor.relocate_mk, List.map_cons]
  refine .choose Iff.rfl (.given (List.suffix_refl _)) ?_
  refine (read.statement here (by omega) (by omega) (by omega)).andThen ?_
  intro command next further
  have shorter := Cursor.length_lt_of_row further
  simp only [List.length_cons] at shorter
  refine (read.block opens (further.trans here) (by omega) (by omega) (by omega)).andThen ?_
  intro commands last beyond
  exact .given (beyond.trans (ahead_suffix further))

theorem definition_succ (read : ReadStatements sides demand)
    (place : token :: rest <:+ sides.tokens)
    (within : 4 * rest.length + 4 ≤ demand + 1) (enough : 4 * rest.length + 4 ≤ budget)
    (enough' : 4 * rest.length + 4 ≤ budget') :
    sides.Read (Command.mapOrigins sides.relocation.origin) (token :: rest)
      (Program.definition none budget token rest)
      (Program.definition none budget' (token.relocate sides.relocation)
        (rest.map (Token.relocate sides.relocation))) := by
  obtain _ | budget := budget
  · cases enough
  obtain _ | budget' := budget'
  · cases enough'
  have member : token ∈ sides.tokens := place.subset (List.mem_cons_self ..)
  obtain _ | ⟨nameToken, rest⟩ := rest
  · exact .issue ⟨rfl, member⟩
  have named : nameToken ∈ sides.tokens := place.subset (by simp)
  simp only [List.length_cons] at within enough enough'
  simp only [Program.definition, List.map_cons, Token.kind_relocate, parameters_relocate]
  cases kind : nameToken.kind with
  | procedure name =>
      have further := parameters_row nameToken rest
      have shorter := Cursor.length_lt_of_row further
      have inside := (further.trans (List.suffix_cons token _)).trans place
      simp only [List.length_cons] at shorter
      refine (Readers.change fun _ _ records => records.announce name _).sequence fun _ _ _ => ?_
      refine (read.body name member inside (by omega) (by omega) (by omega)).andThen ?_
      intro body last beyond
      exact .given ((beyond.trans (ahead_suffix further)).trans (List.suffix_cons token _))
  | _ => exact .issue ⟨rfl, named⟩

/-- So are those of a body, and the issues with it are noted side by side. -/
theorem body_succ (read : ReadStatements sides demand) (name : String)
    (opens : opener ∈ sides.tokens) (place : cursor.row <:+ sides.tokens)
    (within : 4 * cursor.ahead.length + 2 ≤ demand + 1)
    (enough : 4 * cursor.ahead.length + 2 ≤ budget)
    (enough' : 4 * cursor.ahead.length + 2 ≤ budget') :
    sides.Read (commandsMapOrigins sides.relocation.origin) cursor.ahead
      (bodyCommands none name opener budget cursor)
      (bodyCommands none name (opener.relocate sides.relocation) budget'
        (cursor.relocate sides.relocation)) := by
  obtain _ | budget := budget
  · cases enough
  obtain _ | budget' := budget'
  · cases enough'
  obtain ⟨behind, _ | ⟨token, rest⟩⟩ := cursor
  · exact .issue ⟨rfl, opens⟩
  have here := Cursor.row_tail place
  have inside : Cursor.row ⟨token, rest⟩ <:+ sides.tokens := here
  have member : token ∈ sides.tokens := here.subset (List.mem_cons_self ..)
  simp only [List.length_cons] at within enough enough'
  simp only [bodyCommands, Cursor.relocate_mk, List.map_cons]
  refine .choose Iff.rfl (.given (List.suffix_refl _)) ?_
  refine .choose Iff.rfl (.issue ⟨rfl, member⟩) ?_
  refine (read.statement here (by omega) (by omega) (by omega)).attempt.sequence ?_
  rintro _ _ (@⟨⟨command, next⟩, _, ⟨further, rfl⟩⟩ | about)
  · have shorter := Cursor.length_lt_of_row further
    simp only [List.length_cons] at shorter
    refine (read.body name opens (further.trans here) (by dsimp only at *; omega)
      (by dsimp only at *; omega) (by dsimp only at *; omega)).andThen ?_
    intro commands last beyond
    exact .given (beyond.trans (ahead_suffix further))
  · refine .choose Iff.rfl (.issue about) ?_
    refine (Readers.change fun _ _ records => records.note about).sequence fun _ _ _ => ?_
    exact .wider (read.body name opens inside (by dsimp only; omega) (by dsimp only; omega)
      (by dsimp only; omega)) (List.suffix_cons token rest)

end ReadStatements

/-- Readers of statements work side by side, whatever they need. -/
theorem readStatements (suits : sides.relocation.Suits sides.tokens) (demand : Nat) :
    ReadStatements sides demand := by
  induction demand with
  | zero => constructor <;> intros <;> contradiction
  | succ demand hypothesis =>
      exact ⟨hypothesis.statement_succ suits, hypothesis.slots_succ, hypothesis.slot_succ suits,
        hypothesis.block_succ, hypothesis.definition_succ, hypothesis.body_succ⟩

/-! ## Programs -/

/-- Statements to the end of a text are read alike. -/
theorem run_statements (suits : sides.relocation.Suits sides.tokens) {rest : List Token}
    {budget budget' : Nat} {record record' : Record} (place : rest <:+ sides.tokens)
    (enough : 4 * rest.length + 2 ≤ budget) (enough' : 4 * rest.length + 2 ≤ budget')
    (records : sides.Records record record') :
    ((statements none budget' (rest.map (Token.relocate sides.relocation))).run record').1 =
        commandsMapOrigins sides.relocation.origin ((statements none budget rest).run record).1 ∧
      sides.Records ((statements none budget rest).run record).2
        ((statements none budget' (rest.map (Token.relocate sides.relocation))).run record').2 := by
  induction budget generalizing rest budget' record record' with
  | zero => cases enough
  | succ budget hypothesis =>
      obtain _ | budget' := budget'
      · cases enough'
      obtain _ | ⟨token, rest⟩ := rest
      · exact ⟨rfl, records⟩
      simp only [List.length_cons] at enough enough'
      obtain ⟨parallel, kept⟩ := (readStatements suits _).statement place (Nat.le_refl _)
        (show 4 * rest.length + 5 ≤ budget by omega) (show 4 * rest.length + 5 ≤ budget' by omega)
        record record' records
      rcases ran : (statement none budget token rest).run record with ⟨result, middle⟩
      rcases ran' : (statement none budget' (token.relocate sides.relocation)
        (rest.map (Token.relocate sides.relocation))).run record' with ⟨result', middle'⟩
      rw [ran, ran'] at parallel kept
      rw [List.map_cons]
      cases parallel with
      | @value placed _ corresponds =>
          obtain ⟨command, next⟩ := placed
          obtain ⟨further, rfl⟩ := corresponds
          have shorter := Cursor.length_lt_of_row further
          simp only [List.length_cons] at shorter
          have others := hypothesis ((ahead_suffix further).trans place) (by dsimp only at *; omega)
            (show 4 * next.ahead.length + 2 ≤ budget' by dsimp only at *; omega) kept
          rw [run_statements_ok none ran, run_statements_ok none ran']
          exact ⟨congrArg (command.mapOrigins sides.relocation.origin :: ·) others.1, others.2⟩
      | @issue issue about =>
          have noted := kept.note about
          have others := hypothesis ((List.suffix_cons token rest).trans place) (by omega)
            (show 4 * rest.length + 2 ≤ budget' by omega) noted
          rw [run_statements_error none ran, run_statements_error none ran']
          by_cases fatal : issue.complaint.isFatal = true
          · rw [if_pos fatal, if_pos (show (issue.relocate _).complaint.isFatal = true from fatal)]
            exact ⟨rfl, noted⟩
          · rw [if_neg fatal, if_neg (show ¬(issue.relocate _).complaint.isFatal = true from fatal)]
            exact others

theorem Records.refl (relocation : Relocation) (tokens : List Token) (record : Record) :
    Records ⟨relocation, tokens, record.issues, record.issues⟩ record record :=
  ⟨rfl, [], rfl, rfl, fun _ member => nomatch member⟩

end Sides

/-- Read a program from its tokens, some arities being known already. -/
def resume (arities : Arities) (source : String) (tokens : List Token) : Program :=
  let outcome := (statements none (budgetFor tokens) tokens).run ⟨arities, []⟩
  ⟨outcome.1, source, outcome.2.issues.reverse⟩

/-- Relocated tokens make the same program in other places, whatever the budget. -/
theorem run_statements_relocate {relocation : Relocation} {tokens : List Token}
    (suits : relocation.Suits tokens) (arities : Arities) (source : String) {budget : Nat}
    (enough : 4 * tokens.length + 2 ≤ budget) :
    let outcome :=
      (statements none budget (tokens.map (Token.relocate relocation))).run ⟨arities, []⟩
    outcome.1 = commandsMapOrigins relocation.origin (resume arities source tokens).commands ∧
      outcome.2.issues.reverse =
        (resume arities source tokens).issues.map (Issue.relocate relocation) ∧
      ∀ issue ∈ (resume arities source tokens).issues, issue.IsAbout tokens := by
  obtain ⟨commands, records⟩ : _ ∧ Sides.Records ⟨relocation, tokens, [], []⟩ _ _ :=
    Sides.run_statements suits (List.suffix_refl _) (Grammar.enough_budgetFor tokens) enough
      (.refl _ _ ⟨arities, []⟩)
  obtain ⟨noted, left, right, about⟩ := records.noted
  simp only [List.append_nil] at left right
  simp only [resume, left, right, List.map_reverse, List.mem_reverse]
  exact ⟨commands, trivial, about⟩

end Logo.Program
