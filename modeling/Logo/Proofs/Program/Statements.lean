import Logo.Proofs.Effectful
import Logo.Proofs.Program.Expressions

/-!
# Statements are read by the grammar

What holds of expressions holds of statements: readers keep to the grammar if
their budget is large enough, and what the grammar allows without an issue is
read.  So every text has a derivation in the grammar, whatever is wrong with
it, and a derivation without issues is what reading gives.
-/

namespace Logo.Program

open Effectful

theorem run_withArities {α : Type} (read : Arities → Except Issue α) (record : Record) :
    (withArities read).run record = (read record.arities, record) := by
  rw [withArities, run_bind_ok (run_get record)]
  cases read record.arities <;> rfl

theorem run_withArities_eq_ok_iff {α : Type} {read : Arities → Except Issue α}
    {record after : Record} {result : α} :
    (withArities read).run record = (.ok result, after) ↔
      read record.arities = .ok result ∧ record = after := by
  rw [run_withArities]
  exact Prod.mk.injEq .. ▸ Iff.rfl

theorem run_attempt {α : Type} (reader : Reader α) (record : Record) :
    (attempt reader).run record = (.ok (reader.run record).1, (reader.run record).2) := by
  rw [attempt, run_tryCatch, map_eq_pure_bind, run_bind]
  rcases reader.run record with ⟨issue | value, after⟩ <;> rfl

/-- After a statement that was read, the loop goes on behind it. -/
theorem run_statements_ok (room : Option Nat) {budget : Nat} {token : Token} {rest : List Token}
    {record middle : Record} {command : Command} {next : Cursor}
    (read : (descend room token fun room => statement room budget token rest).run record =
      (.ok (command, next), middle)) :
    (statements room (budget + 1) (token :: rest)).run record =
      (command :: ((statements room budget next.ahead).run middle).1,
        ((statements room budget next.ahead).run middle).2) := by
  rw [statements, StateT.run_bind, StateT.run, read]
  rfl

/-- An issue that is fatal ends the loop; after any other one it goes on with the next token. -/
theorem run_statements_error (room : Option Nat) {budget : Nat} {token : Token}
    {rest : List Token} {record middle : Record} {issue : Issue}
    (read : (descend room token fun room => statement room budget token rest).run record =
      (.error issue, middle)) :
    (statements room (budget + 1) (token :: rest)).run record =
      if issue.complaint.isFatal then
        ([], middle.note issue)
      else
        (statements room budget rest).run (middle.note issue) := by
  rw [statements, StateT.run_bind, StateT.run, read]
  dsimp only [bind, StateT.bind, pure_bind, Id.run]
  split
  · rfl
  · rfl

namespace Grammar

/-- Readers of statements with a budget keep to the grammar. -/
structure KeepsStatements (budget : Nat) : Prop where
  statement {token : Token} {rest : List Token} {record after : Record} {command : Command}
    {last : Cursor} (enough : 4 * rest.length + 5 ≤ budget)
    (given : (statement none budget token rest).run record = (.ok (command, last), after)) :
    Statement record token rest command last after
  slots {primitive : Primitive} {token : Token} {slots : List Slot} {record after : Record}
    {cursor last : Cursor} {values : List Value} (enough : 4 * cursor.ahead.length + 4 ≤ budget)
    (given : (slotInputs none primitive token budget slots cursor).run record =
      (.ok (values, last), after)) :
    Slots record slots cursor values last after
  block {opener : Token} {record after : Record} {cursor last : Cursor}
    {commands : List Command} (enough : 4 * cursor.ahead.length + 2 ≤ budget)
    (given : (blockCommands none opener budget cursor).run record = (.ok (commands, last), after)) :
    Commands .block record cursor commands last after
  body {name : String} {opener : Token} {record after : Record} {cursor last : Cursor}
    {commands : List Command} (enough : 4 * cursor.ahead.length + 2 ≤ budget)
    (given : (bodyCommands none name opener budget cursor).run record =
      (.ok (commands, last), after)) :
    Commands .body record cursor commands last after

namespace KeepsStatements

variable {budget : Nat}

/-- A definition keeps to the grammar, if what is inside of it does. -/
theorem definition_step (keeps : ∀ less < budget, KeepsStatements less) {token : Token}
    {rest : List Token} {record after : Record} {command : Command} {last : Cursor}
    (kind : token.kind = .toWord) (enough : 4 * rest.length + 4 ≤ budget)
    (given : (definition none budget token rest).run record = (.ok (command, last), after)) :
    Statement record token rest command last after := by
  obtain _ | budget := budget
  · cases enough
  obtain _ | ⟨nameToken, rest⟩ := rest
  · cases given
  rw [definition] at given
  split at given
  · cases given
  · rename_i name named
    rcases taken : parameters nameToken rest with ⟨names, next⟩
    rw [taken] at given
    have shorter := (parameters_suffix taken).length_le
    simp only [run_bind_eq_ok_iff, run_modify] at given
    obtain ⟨_, _, announced, ⟨body, _⟩, _, inside, given⟩ := given
    cases announced
    cases given
    simp only [List.length_cons] at enough
    exact .define kind named taken ((keeps budget (Nat.lt_succ_self _)).body (by omega) inside)
  · cases given

/-- So does every statement. -/
theorem statement_step (keeps : ∀ less < budget, KeepsStatements less) {token : Token}
    {rest : List Token} {record after : Record} {command : Command} {last : Cursor}
    (enough : 4 * rest.length + 5 ≤ budget)
    (given : (Program.statement none budget token rest).run record = (.ok (command, last), after)) :
    Statement record token rest command last after := by
  obtain _ | budget := budget
  · cases enough
  have room := Nat.le_of_succ_le_succ enough
  rw [Program.statement] at given
  split at given
  · rename_i primitive kind
    simp only [run_bind_eq_ok_iff] at given
    obtain ⟨⟨values, _⟩, _, inputs, given⟩ := given
    cases given
    exact .primitive kind ((keeps budget (Nat.lt_succ_self _)).slots room inputs)
  · rename_i name kind
    simp only [run_bind_eq_ok_iff, run_withArities_eq_ok_iff] at given
    obtain ⟨⟨values, _⟩, _, ⟨inputs, rfl⟩, given⟩ := given
    cases given
    exact .call kind (inputs_of_given room inputs)
  · rename_i kind
    exact definition_step (fun less below => keeps less (Nat.lt_succ_of_lt below)) kind room given
  · cases given
  · cases given
  · cases given

theorem slots_step (keeps : ∀ less < budget, KeepsStatements less) {primitive : Primitive}
    {token : Token} {slots : List Slot} {record after : Record} {cursor last : Cursor}
    {values : List Value} (enough : 4 * cursor.ahead.length + 4 ≤ budget)
    (given : (slotInputs none primitive token budget slots cursor).run record =
      (.ok (values, last), after)) :
    Slots record slots cursor values last after := by
  obtain ⟨budget, rfl⟩ : ∃ less, budget = less + 2 := ⟨budget - 2, by omega⟩
  have others := keeps (budget + 1) (Nat.lt_succ_self _)
  have inside := keeps budget (by omega)
  obtain _ | ⟨slot, slots⟩ := slots
  · cases given
    exact .none
  rw [slotInputs] at given
  split at given
  · cases given
  · rename_i follows
    simp only [run_bind_eq_ok_iff, descend_none] at given
    obtain ⟨⟨value, next⟩, middle, readFirst, ⟨more, _⟩, _, readOthers, given⟩ := given
    cases given
    cases slot with
    | datum shape =>
        rw [slotInput] at readFirst
        simp only [run_bind_eq_ok_iff, run_withArities_eq_ok_iff, checkInput_eq_ok_iff] at readFirst
        obtain ⟨_, _, ⟨read, rfl⟩, _, _, ⟨allowed, rfl⟩, readFirst⟩ := readFirst
        cases readFirst
        have first := expression_of_given (by simp only [Cursor.demand]; omega) read
        have shorter := first.isPast.length_lt
        exact .datum (by simpa using follows) first allowed (others.slots (by omega) readOthers)
    | block =>
        obtain ⟨behind, _ | ⟨opener, rest⟩⟩ := cursor
        · cases readFirst
        rw [slotInput] at readFirst
        dsimp only at readFirst
        split at readFirst
        · cases readFirst
        · rename_i opens
          simp only [run_bind_eq_ok_iff] at readFirst
          obtain ⟨⟨commands, _⟩, _, readBlock, readFirst⟩ := readFirst
          cases readFirst
          simp only [List.length_cons] at enough
          have block := inside.block (by dsimp only; omega) readBlock
          have shorter := block.suffix.length_le
          exact .block (by simpa using opens) block
            (others.slots (by dsimp only at *; omega) readOthers)

theorem block_step (keeps : ∀ less < budget, KeepsStatements less) {opener : Token}
    {record after : Record} {cursor last : Cursor} {commands : List Command}
    (enough : 4 * cursor.ahead.length + 2 ≤ budget)
    (given : (blockCommands none opener budget cursor).run record = (.ok (commands, last), after)) :
    Commands .block record cursor commands last after := by
  obtain _ | budget := budget
  · cases enough
  have smaller := keeps budget (Nat.lt_succ_self _)
  obtain ⟨behind, _ | ⟨token, rest⟩⟩ := cursor
  · cases given
  rw [blockCommands] at given
  dsimp only at given
  split at given
  · rename_i closes
    cases given
    exact .close (by rw [eq_of_beq closes]; rfl)
  · simp only [run_bind_eq_ok_iff] at given
    obtain ⟨⟨command, next⟩, middle, readFirst, ⟨others, _⟩, _, readOthers, given⟩ := given
    cases given
    simp only [List.length_cons] at enough
    have first := smaller.statement (by omega) readFirst
    have shorter := first.suffix.length_le
    exact .command rfl first (smaller.block (by omega) readOthers)

theorem body_step (keeps : ∀ less < budget, KeepsStatements less) {name : String} {opener : Token}
    {record after : Record} {cursor last : Cursor} {commands : List Command}
    (enough : 4 * cursor.ahead.length + 2 ≤ budget)
    (given : (bodyCommands none name opener budget cursor).run record =
      (.ok (commands, last), after)) :
    Commands .body record cursor commands last after := by
  obtain _ | budget := budget
  · cases enough
  have smaller := keeps budget (Nat.lt_succ_self _)
  obtain ⟨behind, _ | ⟨token, rest⟩⟩ := cursor
  · cases given
  rw [bodyCommands] at given
  dsimp only at given
  split at given
  · rename_i closes
    cases given
    exact .close (by rw [eq_of_beq closes]; rfl)
  split at given
  · cases given
  rename_i nested
  simp only [List.length_cons] at enough
  rw [descend_none,
    run_bind_ok (run_attempt (Program.statement none budget token rest) record)] at given
  rcases ran : (Program.statement none budget token rest).run record with
    ⟨issue | ⟨command, next⟩, middle⟩
  · rw [ran] at given
    dsimp only at given
    split at given
    · cases given
    · simp only [run_bind_eq_ok_iff, run_modify] at given
      obtain ⟨_, _, noted, readOthers⟩ := given
      cases noted
      exact .skip nofun (List.cons_ne_nil _ _) (smaller.body (by dsimp only; omega) readOthers)
  · rw [ran] at given
    simp only [run_bind_eq_ok_iff] at given
    obtain ⟨⟨others, _⟩, _, readOthers, given⟩ := given
    cases given
    have first := smaller.statement (by omega) ran
    have shorter := first.suffix.length_le
    have admitted : Place.body.admits token.kind = true := by
      cases kind : token.kind <;> simp_all [Place.admits]
    exact .command admitted first (smaller.body (by omega) readOthers)

end KeepsStatements

/-- Readers of statements keep to the grammar. -/
theorem keepsStatements (budget : Nat) : KeepsStatements budget := by
  induction budget using Nat.strongRecOn with
  | ind budget keeps =>
      exact ⟨KeepsStatements.statement_step keeps, KeepsStatements.slots_step keeps,
        KeepsStatements.block_step keeps, KeepsStatements.body_step keeps⟩

/-- Every text is read by the grammar, whatever is wrong with it. -/
theorem commands_of_statements {budget : Nat} {tokens : List Token} {record after : Record}
    {commands : List Command} (enough : 4 * tokens.length + 2 ≤ budget)
    (given : (statements none budget tokens).run record = (commands, after)) (behind : Token) :
    ∃ last, Commands .top record ⟨behind, tokens⟩ commands last after := by
  induction budget generalizing tokens record commands behind with
  | zero => cases enough
  | succ budget hypothesis =>
      obtain _ | ⟨token, rest⟩ := tokens
      · cases given
        exact ⟨_, .finish⟩
      simp only [List.length_cons] at enough
      rcases ran :
          (statement none budget token rest).run record with ⟨issue | ⟨command, next⟩, middle⟩
      · rw [run_statements_error none ran] at given
        split at given
        · cases given
          exact ⟨_, .abandon (List.cons_ne_nil _ _)⟩
        · obtain ⟨last, others⟩ := hypothesis (by omega) given token
          exact ⟨last, .skip nofun (List.cons_ne_nil _ _) others⟩
      · rw [run_statements_ok none ran] at given
        cases given
        have first := (keepsStatements budget).statement (by omega) ran
        have shorter := first.suffix.length_le
        obtain ⟨last, others⟩ := hypothesis (by omega) rfl next.behind
        exact ⟨last, .command rfl first others⟩

/-- A place before all tokens of a text. -/
def start (tokens : List Token) : Cursor :=
  ⟨⟨.number, "", 0, 0⟩, tokens⟩

theorem enough_budgetFor (tokens : List Token) : 4 * tokens.length + 2 ≤ budgetFor tokens := by
  unfold budgetFor
  omega

/-- Every program that is read has a derivation. -/
theorem commands_of_ofTokens (source : String) (tokens : List Token) :
    ∃ last after,
      Commands .top .empty (start tokens) (ofTokens none source tokens).commands last after ∧
      (ofTokens none source tokens).issues = after.issues.reverse := by
  rcases given : (statements none (budgetFor tokens) tokens).run .empty with ⟨commands, after⟩
  obtain ⟨last, read⟩ :=
    commands_of_statements (enough_budgetFor tokens) given (start tokens).behind
  rw [ofTokens, given]
  exact ⟨last, after, read, rfl⟩

/-! ## What the grammar allows without an issue is read -/

/-- What it means that commands can be read with a budget. -/
def CommandsGiven (budget : Nat) (record : Record) (cursor : Cursor) (commands : List Command)
    (last : Cursor) (after : Record) : Place → Prop
  | .block =>
      ∀ opener, (blockCommands none opener budget cursor).run record = (.ok (commands, last), after)
  | .body =>
      ∀ name opener,
        (bodyCommands none name opener budget cursor).run record = (.ok (commands, last), after)
  | .top => (statements none budget cursor.ahead).run record = (commands, after)

theorem run_slotInput_datum {budget : Nat} {cursor next : Cursor} {record : Record}
    {value : Value} {shape : Shape}
    (read : expression none record.arities budget cursor = .ok (value, next))
    (allowed : allowsInput shape value = true) (primitive : Primitive) :
    (slotInput none primitive (budget + 1) (.datum shape) cursor).run record =
      (.ok (value, next), record) := by
  have checked : checkInput primitive.name shape value cursor.next = .ok () :=
    checkInput_eq_ok_iff.mpr allowed
  rw [slotInput, run_bind_ok (run_withArities_eq_ok_iff.mpr ⟨read, rfl⟩)]
  exact run_bind_ok (run_withArities_eq_ok_iff.mpr ⟨checked, rfl⟩)

theorem run_slotInput_block {budget : Nat} {behind token : Token} {rest : List Token}
    {last : Cursor} {record after : Record} {commands : List Command}
    (kind : token.kind = .openBracket)
    (read : (blockCommands none token budget ⟨token, rest⟩).run record =
      (.ok (commands, last), after))
    (primitive : Primitive) :
    (slotInput none primitive (budget + 1) .block ⟨behind, token :: rest⟩).run record =
      (.ok (.block commands, last), after) := by
  rw [slotInput]
  dsimp only
  rw [if_neg (by simp [kind])]
  exact run_bind_ok read

theorem run_slotInputs_cons {primitive : Primitive} {token : Token} {budget : Nat} {slot : Slot}
    {slots : List Slot} {cursor next last : Cursor} {record middle after : Record} {value : Value}
    {values : List Value} (follows : cursor.atEnd = false)
    (first : (slotInput none primitive budget slot cursor).run record = (.ok (value, next), middle))
    (others : (slotInputs none primitive token budget slots next).run middle =
      (.ok (values, last), after)) :
    (slotInputs none primitive token (budget + 1) (slot :: slots) cursor).run record =
      (.ok (value :: values, last), after) := by
  rw [slotInputs, if_neg (by simp [follows])]
  exact (run_bind_ok first).trans (run_bind_ok others)

theorem CommandsGiven.close {budget : Nat} {behind token : Token} {rest : List Token}
    {record : Record} {place : Place} (closes : place.closer? = some token.kind) :
    CommandsGiven (budget + 1) record ⟨behind, token :: rest⟩ [] ⟨token, rest⟩ record place := by
  cases place with
  | top => cases closes
  | block =>
      intro opener
      rw [blockCommands]
      dsimp only
      rw [if_pos (by simpa using (Option.some.inj closes).symm)]
      rfl
  | body =>
      intro name opener
      rw [bodyCommands]
      dsimp only
      rw [if_pos (by simpa using (Option.some.inj closes).symm)]
      rfl

/-- A statement does not begin with what would close the place where it stands. -/
theorem Statement.closer?_ne {record after : Record} {token : Token} {rest : List Token}
    {command : Command} {last : Cursor} (read : Statement record token rest command last after)
    (place : Place) : place.closer? ≠ some token.kind := by
  cases read with
  | primitive kind _ => cases place <;> simp [Place.closer?, kind]
  | call kind _ => cases place <;> simp [Place.closer?, kind]
  | define kind _ _ _ => cases place <;> simp [Place.closer?, kind]

theorem CommandsGiven.command {budget : Nat} {behind token : Token} {rest : List Token}
    {record middle after : Record} {place : Place} {next last : Cursor} {command : Command}
    {commands : List Command} (begins : place.closer? ≠ some token.kind)
    (admitted : place.admits token.kind = true)
    (first : (statement none budget token rest).run record = (.ok (command, next), middle))
    (others : CommandsGiven budget middle next commands last after place) :
    CommandsGiven (budget + 1) record ⟨behind, token :: rest⟩ (command :: commands) last after
      place := by
  cases place with
  | top =>
      rw [CommandsGiven] at others
      rw [CommandsGiven, run_statements_ok none first, others]
  | block =>
      intro opener
      have opens : ¬(token.kind == .closeBracket) = true := by
        intro closes
        rw [eq_of_beq closes] at begins
        exact begins rfl
      rw [blockCommands]
      dsimp only
      rw [if_neg opens]
      exact (run_bind_ok first).trans (run_bind_ok (others opener))
  | body =>
      intro name opener
      have opens : ¬(token.kind == .endWord) = true := by
        intro closes
        rw [eq_of_beq closes] at begins
        exact begins rfl
      have flat : ¬(token.kind == .toWord) = true := by
        cases kind : token.kind <;> simp_all [Place.admits]
      have attempted := run_attempt (statement none budget token rest) record
      rw [first] at attempted
      rw [bodyCommands]
      dsimp only
      rw [if_neg opens, if_neg flat]
      exact (run_bind_ok attempted).trans (run_bind_ok (others name opener))

mutual

/-- A statement that the grammar allows without an issue is read. -/
theorem Statement.reads {record after : Record} {token : Token} {rest : List Token}
    {command : Command} {last : Cursor} :
    Statement record token rest command last after → after.issues = [] →
      ∀ budget, 4 * rest.length + 5 ≤ budget →
        (statement none budget token rest).run record = (.ok (command, last), after)
  | .primitive kind inputs => by
      rintro clean (_ | budget) enough
      · cases enough
      have given := inputs.reads clean budget (Nat.le_of_succ_le_succ enough)
      rw [statement, kind]
      exact run_bind_ok (given _ _)
  | .call kind inputs => by
      rintro clean budget enough
      obtain ⟨budget, rfl⟩ : ∃ less, budget = less + 2 := ⟨budget - 2, by omega⟩
      have given := callInputs_of_given (inputs.reads budget (by dsimp only; omega))
      rw [statement, kind]
      dsimp only
      rw [run_bind_ok (run_withArities_eq_ok_iff.mpr ⟨given token, rfl⟩)]
      rfl
  | .define kind named taken inside => by
      rintro clean budget enough
      obtain ⟨budget, rfl⟩ : ∃ less, budget = less + 2 := ⟨budget - 2, by omega⟩
      have shorter := (parameters_suffix taken).length_le
      have given := inside.reads clean budget (by simp only [List.length_cons] at enough; omega)
      rw [statement, kind]
      dsimp only
      rw [descend_none, definition, named]
      dsimp only
      rw [taken]
      exact (run_bind_ok (run_modify _ _)).trans (run_bind_ok (given _ _))

theorem Slots.reads {record after : Record} {slots : List Slot} {cursor last : Cursor}
    {values : List Value} :
    Slots record slots cursor values last after → after.issues = [] →
      ∀ budget, 4 * cursor.ahead.length + 4 ≤ budget → ∀ primitive token,
        (slotInputs none primitive token budget slots cursor).run record =
        (.ok (values, last), after)
  | .none => by
      rintro clean (_ | budget) enough primitive token
      · cases enough
      rw [slotInputs]
      rfl
  | .datum follows first allowed others => by
      intro clean budget enough primitive token
      obtain ⟨budget, rfl⟩ : ∃ less, budget = less + 2 := ⟨budget - 2, by omega⟩
      have shorter := first.isPast.length_lt
      have given := first.reads budget (by simp only [Cursor.demand]; omega)
      have more := others.reads clean (budget + 1) (by omega)
      exact run_slotInputs_cons follows (run_slotInput_datum given allowed primitive) (more _ _)
  | .block kind inside others => by
      intro clean budget enough primitive token
      obtain ⟨budget, rfl⟩ : ∃ less, budget = less + 2 := ⟨budget - 2, by omega⟩
      have shorter := inside.suffix.length_le
      simp only [List.length_cons] at enough
      have given := inside.reads (others.clean_before clean) budget (by dsimp only; omega)
      have more := others.reads clean (budget + 1) (by dsimp only at shorter; omega)
      exact run_slotInputs_cons (by simp [Cursor.atEnd, kind, isCloser])
        (run_slotInput_block kind (given _) primitive) (more _ _)

/-- So are commands in a row. -/
theorem Commands.reads {place : Place} {record after : Record} {cursor last : Cursor}
    {commands : List Command} :
    Commands place record cursor commands last after → after.issues = [] →
      ∀ budget, 4 * cursor.ahead.length + 2 ≤ budget →
        CommandsGiven budget record cursor commands last after place
  | .close closes => by
      rintro clean (_ | budget) enough
      · cases enough
      exact .close closes
  | .finish => by
      rintro clean (_ | budget) enough
      · cases enough
      rfl
  | .command admitted first others => by
      rintro clean (_ | budget) enough
      · cases enough
      have shorter := first.suffix.length_le
      simp only [List.length_cons] at enough
      have given := first.reads (others.clean_before clean) budget (by omega)
      have more := others.reads clean budget (by omega)
      exact .command (first.closer?_ne place) admitted given more
  | .skip recovers noted others => fun clean => (noted (others.clean_before clean)).elim
  | .abandon noted => fun clean => (noted clean).elim

end

/-- A derivation without issues is what reading gives. -/
theorem ofTokens_of_commands {tokens : List Token} {commands : List Command} {last : Cursor}
    {after : Record} (read : Commands .top .empty (start tokens) commands last after)
    (clean : after.issues = []) (source : String) :
    ofTokens none source tokens = ⟨commands, source, []⟩ := by
  have given : (statements none (budgetFor tokens) tokens).run .empty = (commands, after) :=
    read.reads clean (budgetFor tokens) (enough_budgetFor tokens)
  rw [ofTokens, given]
  simp [clean]

end Grammar

end Logo.Program
