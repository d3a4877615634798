import Logo.Proofs.Program.Grammar

/-!
# Expressions are read by the grammar

Whatever a reader of expressions gives, the grammar allows; and whatever the
grammar allows, the reader gives, if its budget is large enough.  A budget of
a few units for each token is: every call of one reader by another either goes
one token further or goes down to a reader of a simpler part.

The second half comes first, along the rules.  It is needed for the first
half: that a call ends where its next input cannot be read must not depend on
the budget, and an input that could be read with another budget could be read
with this one.
-/

namespace Logo.Program

theorem ok_bind {ε α β : Type} (value : α) (rest : α → Except ε β) :
    (Except.ok value >>= rest) = rest value :=
  rfl

theorem pure_eq_ok {ε α : Type} (value : α) : (pure value : Except ε α) = .ok value :=
  rfl

/-- A computation in sequence gives a result if both of its parts do. -/
theorem bind_eq_ok_iff {ε α β : Type} {first : Except ε α} {rest : α → Except ε β} {result : β} :
    (first >>= rest) = .ok result ↔ ∃ value, first = .ok value ∧ rest value = .ok result := by
  cases first with
  | error cause => simp [bind, Except.bind]
  | ok value => simp [bind, Except.bind]

theorem checkOperand_eq_ok_iff {glyph : String} {value : Value} {token : Token} {done : Unit} :
    checkOperand glyph value token = .ok done ↔ allowsOperand value = true := by
  unfold checkOperand
  split <;> simp_all

theorem checkInput_eq_ok_iff {name : String} {shape : Shape} {value : Value} {token : Token}
    {done : Unit} :
    checkInput name shape value token = .ok done ↔ allowsInput shape value = true := by
  unfold checkInput
  split <;> simp_all

theorem numberOf_eq_ok_iff {token : Token} {value : Float} :
    numberOf token = .ok value ↔ Number.read? token.lexeme = some value := by
  unfold numberOf
  split <;> simp_all

theorem allowsInput_anything (value : Value) : allowsInput .anything value = true := by
  cases value <;> rfl

/-- A known number of inputs is read as if each of them could be anything. -/
theorem exactInputs_eq_ok_iff (primitive : Primitive) (other : Token) {arities : Arities}
    {name : String} {arity : Nat} {token : Token} {budget missing : Nat} {cursor last : Cursor}
    {values : List Value} :
    exactInputs none arities name arity token budget missing cursor = .ok (values, last) ↔
      reporterInputs none arities primitive other budget (List.replicate missing .anything) cursor =
        .ok (values, last) := by
  induction budget generalizing missing cursor values last with
  | zero => simp [exactInputs, reporterInputs]
  | succ budget hypothesis =>
      cases missing with
      | zero => simp [exactInputs, reporterInputs]
      | succ missing =>
          rw [List.replicate_succ, exactInputs, reporterInputs]
          split
          · simp
          · simp only [bind_eq_ok_iff, checkInput_eq_ok_iff, allowsInput_anything, hypothesis,
              Prod.exists, exists_const, true_and]

/-! ## The grammar is read -/

namespace Grammar

/-- Items that the grammar allows are read. -/
theorem Items.reads {cursor last : Cursor} {items : List Value} (read : Items cursor items last) :
    ∀ opener budget, cursor.ahead.length ≤ budget →
      listItems none opener budget cursor = .ok (items, last) := by
  induction read with
  | close kind =>
      rintro opener (_ | budget) enough
      · cases enough
      · simp [listItems, kind]
  | list kind inside others insideReads othersRead =>
      rintro opener (_ | budget) enough
      · cases enough
      · have room := Nat.le_of_succ_le_succ enough
        have further := Nat.le_trans (Nat.le_of_lt inside.isPast.length_lt) room
        simp [listItems, kind, insideReads _ budget room, othersRead opener budget further,
          ok_bind, pure_eq_ok]
  | number kind spelled others othersRead =>
      rintro opener (_ | budget) enough
      · cases enough
      · have room := Nat.le_of_succ_le_succ enough
        simp [listItems, kind, numberOf_eq_ok_iff.mpr spelled, othersRead opener budget room,
          ok_bind, pure_eq_ok]
  | negative sign spelled others othersRead =>
      rintro opener (_ | budget) enough
      · cases enough
      · have room := Nat.le_of_succ_le (Nat.le_of_succ_le_succ enough)
        simp only [isSignOf, Bool.and_eq_true, beq_iff_eq] at sign
        simp [listItems, sign, numberOf_eq_ok_iff.mpr spelled, othersRead opener budget room,
          ok_bind, pure_eq_ok]
  | @word behind token rest items last kind unsigned others othersRead =>
      rintro opener (_ | budget) enough
      · cases enough
      · have further := othersRead opener budget (Nat.le_of_succ_le_succ enough)
        rw [listItems]
        dsimp only
        split
        · simp_all [isItem]
        · simp_all [isItem]
        · simp_all [isItem]
        · cases rest with
          | nil => simp [further, ok_bind, pure_eq_ok]
          | cons digits rest =>
              dsimp only [isSignOf] at unsigned
              simp [unsigned, further, ok_bind, pure_eq_ok]

/-- What it means that inputs can be read with a budget. -/
def InputsGiven (arities : Arities) (budget : Nat) (cursor : Cursor) (values : List Value)
    (last : Cursor) : Intake → Prop
  | .each shapes =>
      ∀ primitive token,
        reporterInputs none arities primitive token budget shapes cursor = .ok (values, last)
  | .following => followingInputs none arities budget cursor = .ok (values, last)

theorem callInputs_of_given {arities : Arities} {name : String} {budget : Nat}
    {cursor last : Cursor} {values : List Value}
    (given : InputsGiven arities budget cursor values last (.ofCall arities name)) (token : Token) :
    callInputs none arities name token (budget + 1) cursor = .ok (values, last) := by
  rw [callInputs]
  unfold Intake.ofCall at given
  cases known : arities.lookup name with
  | none =>
      rw [known] at given
      exact given
  | some arity =>
      rw [known] at given
      exact (exactInputs_eq_ok_iff .forward token).mpr (given .forward token)

mutual

/-- An expression that the grammar allows is read. -/
theorem Expression.reads {arities : Arities} {cursor last : Cursor} {value : Value} :
    Expression arities cursor value last → ∀ budget, cursor.demand ≤ budget →
      expression none arities budget cursor = .ok (value, last)
  | .single first complete => by
      rintro (_ | budget) enough
      · cases enough
      rw [expression, descend_none, first.reads budget (Nat.le_of_succ_le_succ enough), ok_bind]
      dsimp only
      split
      · rfl
      · rename_i token rest ahead
        split
        · rename_i glyph kind
          rw [if_pos (complete token rest glyph ahead kind)]
          rfl
        · rfl
  | .operation first kind between second leftAllowed rightAllowed => by
      rintro (_ | budget) enough
      · cases enough
      have shorter := first.isPast.length_lt
      have givenFirst := first.reads budget (Nat.le_of_succ_le_succ enough)
      have givenSecond := second.reads budget (by simp_all [Cursor.demand]; omega)
      obtain ⟨_, _, rfl, _⟩ := second.isPast
      rw [expression, descend_none, givenFirst, ok_bind]
      simp only [kind, between, descend_none, givenSecond, ok_bind, checkOperand, leftAllowed,
        rightAllowed, List.isEmpty_cons, Bool.false_eq_true, if_true, if_false, pure_eq_ok]

/-- So is a primary. -/
theorem Primary.reads {arities : Arities} {cursor last : Cursor} {value : Value} :
    Primary arities cursor value last → ∀ budget, 4 * cursor.ahead.length + 1 ≤ budget →
      primary none arities budget cursor = .ok (value, last)
  | .number kind spelled => by
      rintro (_ | budget) enough
      · cases enough
      simp [primary, kind, numberOf_eq_ok_iff.mpr spelled, ok_bind, pure_eq_ok]
  | .word kind => by
      rintro (_ | budget) enough
      · cases enough
      simp [primary, kind]
  | .reference kind => by
      rintro (_ | budget) enough
      · cases enough
      simp [primary, kind]
  | .list kind inside => by
      rintro (_ | budget) enough
      · cases enough
      have given opener := inside.reads opener budget (by simp_all; omega)
      simp [primary, kind, given, ok_bind, pure_eq_ok]
  | .parenthesis kind inside closes => by
      rintro (_ | budget) enough
      · cases enough
      have given := inside.reads budget (by simp_all [Cursor.demand]; omega)
      simp [primary, kind, given, closes, ok_bind, pure_eq_ok]
  | .sign kind signs signed allowed => by
      rintro (_ | budget) enough
      · cases enough
      have given := signed.reads budget (by simp_all; omega)
      simp [primary, kind, signs, given, checkOperand, allowed, ok_bind, pure_eq_ok]
  | .reporter kind form inputs => by
      rintro (_ | budget) enough
      · cases enough
      have given := inputs.reads budget (by simp_all; omega)
      simp [primary, kind, form, given _ _, ok_bind, pure_eq_ok]
  | .call kind inputs => by
      intro budget enough
      obtain ⟨budget, rfl⟩ : ∃ less, budget = less + 2 := ⟨budget - 2, by simp_all; omega⟩
      have given := callInputs_of_given (inputs.reads budget (by simp_all; omega))
      simp [primary, kind, given _, ok_bind, pure_eq_ok]

/-- So are inputs. -/
theorem Inputs.reads {arities : Arities} {intake : Intake} {cursor last : Cursor}
    {values : List Value} :
    Inputs arities intake cursor values last → ∀ budget, 4 * cursor.ahead.length + 3 ≤ budget →
      InputsGiven arities budget cursor values last intake
  | .none => by
      rintro (_ | budget) enough primitive token
      · cases enough
      rw [reporterInputs]
  | .stop refused => by
      rintro (_ | budget) enough
      · cases enough
      rw [InputsGiven, followingInputs]
      split
      · rename_i begins
        obtain ⟨issue, failed⟩ := refused begins budget (Nat.le_of_succ_le_succ enough)
        rw [descend_none, failed]
        rfl
      · rfl
  | .each follows first allowed others => by
      rintro (_ | budget) enough primitive token
      · cases enough
      have shorter := first.isPast.length_lt
      have given := first.reads budget (Nat.le_of_succ_le_succ enough)
      have more := others.reads budget (by omega)
      simp [reporterInputs, follows, given, checkInput, allowed, more _ _, ok_bind, pure_eq_ok]
  | .further begins first others => by
      rintro (_ | budget) enough
      · cases enough
      have shorter := first.isPast.length_lt
      have given := first.reads budget (Nat.le_of_succ_le_succ enough)
      have more := others.reads budget (by omega)
      rw [InputsGiven] at more
      simp [InputsGiven, followingInputs, begins, given, more, ok_bind, pure_eq_ok]

end

/-! ## Readers keep to the grammar -/

/-- Items that are read are allowed by the grammar. -/
theorem items_of_listItems {opener : Token} {budget : Nat} {cursor last : Cursor}
    {items : List Value} (given : listItems none opener budget cursor = .ok (items, last)) :
    Items cursor items last := by
  induction budget generalizing opener cursor items last with
  | zero => simp [listItems] at given
  | succ budget hypothesis =>
      obtain ⟨behind, _ | ⟨token, rest⟩⟩ := cursor
      · simp [listItems] at given
      · rw [listItems] at given
        dsimp only at given
        split at given
        · rename_i kind
          cases given
          exact .close kind
        · rename_i kind
          simp only [bind_eq_ok_iff, Prod.exists, pure_eq_ok, Except.ok.injEq,
            Prod.mk.injEq] at given
          obtain ⟨inner, between, inside, others, _, further, rfl, rfl⟩ := given
          exact .list kind (hypothesis inside) (hypothesis further)
        · rename_i kind
          simp only [bind_eq_ok_iff, numberOf_eq_ok_iff, Prod.exists, pure_eq_ok, Except.ok.injEq,
            Prod.mk.injEq] at given
          obtain ⟨value, spelled, others, _, further, rfl, rfl⟩ := given
          exact .number kind spelled (hypothesis further)
        · rename_i closes opens number
          have kind : isItem token.kind = true := by
            cases shape : token.kind <;> simp_all [isItem]
          split at given
          · rename_i digits rest
            split at given
            · rename_i sign
              simp only [bind_eq_ok_iff, numberOf_eq_ok_iff, Prod.exists, pure_eq_ok,
                Except.ok.injEq, Prod.mk.injEq] at given
              obtain ⟨value, spelled, others, _, further, rfl, rfl⟩ := given
              exact .negative sign spelled (hypothesis further)
            · rename_i unsigned
              simp only [bind_eq_ok_iff, Prod.exists, pure_eq_ok, Except.ok.injEq,
                Prod.mk.injEq] at given
              obtain ⟨others, _, further, rfl, rfl⟩ := given
              exact .word kind (by simpa [isSignOf] using unsigned) (hypothesis further)
          · simp only [bind_eq_ok_iff, Prod.exists, pure_eq_ok, Except.ok.injEq,
              Prod.mk.injEq] at given
            obtain ⟨others, _, further, rfl, rfl⟩ := given
            exact .word kind rfl (hypothesis further)

/-- Readers of expressions keep to the grammar as long as they need no more than a demand. -/
structure Keeps (arities : Arities) (demand : Nat) : Prop where
  expression {budget : Nat} {cursor last : Cursor} {value : Value}
    (within : cursor.demand ≤ demand) (enough : cursor.demand ≤ budget)
    (given : expression none arities budget cursor = .ok (value, last)) :
    Expression arities cursor value last
  primary {budget : Nat} {cursor last : Cursor} {value : Value}
    (within : 4 * cursor.ahead.length + 1 ≤ demand) (enough : 4 * cursor.ahead.length + 1 ≤ budget)
    (given : primary none arities budget cursor = .ok (value, last)) :
    Primary arities cursor value last
  each {primitive : Primitive} {token : Token} {budget : Nat} {shapes : List Shape}
    {cursor last : Cursor} {values : List Value}
    (within : 4 * cursor.ahead.length + 3 ≤ demand) (enough : 4 * cursor.ahead.length + 3 ≤ budget)
    (given : reporterInputs none arities primitive token budget shapes cursor =
      .ok (values, last)) :
    Inputs arities (.each shapes) cursor values last
  following {budget : Nat} {cursor last : Cursor} {values : List Value}
    (within : 4 * cursor.ahead.length + 3 ≤ demand) (enough : 4 * cursor.ahead.length + 3 ≤ budget)
    (given : followingInputs none arities budget cursor = .ok (values, last)) :
    Inputs arities .following cursor values last

namespace Keeps

variable {arities : Arities} {demand : Nat}

theorem call (keeps : Keeps arities demand) {name : String} {token : Token} {budget : Nat}
    {cursor last : Cursor} {values : List Value}
    (within : 4 * cursor.ahead.length + 3 ≤ demand) (enough : 4 * cursor.ahead.length + 4 ≤ budget)
    (given : callInputs none arities name token budget cursor = .ok (values, last)) :
    Inputs arities (.ofCall arities name) cursor values last := by
  obtain _ | budget := budget
  · cases enough
  · rw [callInputs] at given
    have room := Nat.le_of_succ_le_succ enough
    unfold Intake.ofCall
    cases known : arities.lookup name with
    | none =>
        rw [known] at given
        exact keeps.following within room given
    | some arity =>
        rw [known] at given
        exact keeps.each within room ((exactInputs_eq_ok_iff .forward token).mp given)

/-- An input that is refused with one budget is refused with every other. -/
theorem refused (keeps : Keeps arities demand) {budget : Nat} {cursor : Cursor} {issue : Issue}
    (within : cursor.demand ≤ demand) (enough : cursor.demand ≤ budget)
    (failed : Program.expression none arities budget cursor = .error issue) :
    Refused arities cursor := by
  intro other sufficient
  cases given : Program.expression none arities other cursor with
  | error issue => exact ⟨issue, rfl⟩
  | ok result =>
      have read := keeps.expression within sufficient given
      rw [read.reads budget enough] at failed
      cases failed

/-- An expression that is read is allowed by the grammar, if what is inside of it is. -/
theorem expression_succ (keeps : Keeps arities demand) {budget : Nat} {cursor last : Cursor}
    {value : Value} (within : cursor.demand ≤ demand + 1) (enough : cursor.demand ≤ budget)
    (given : Program.expression none arities budget cursor = .ok (value, last)) :
    Expression arities cursor value last := by
  obtain _ | budget := budget
  · cases enough
  rw [Program.expression, bind_eq_ok_iff] at given
  obtain ⟨⟨left, between⟩, readLeft, given⟩ := given
  have first :=
    keeps.primary (Nat.le_of_succ_le_succ within) (Nat.le_of_succ_le_succ enough) readLeft
  have shorter := first.isPast.length_lt
  obtain ⟨behind, _ | ⟨token, rest⟩⟩ := between
  · cases given
    exact .single first (fun _ _ _ ahead => by cases ahead)
  dsimp only at given
  split at given
  · rename_i glyph kind
    split at given
    · rename_i negative
      cases given
      exact .single first (fun _ _ _ _ _ => negative)
    · rename_i infixed
      split at given
      · cases given
      · simp only [bind_eq_ok_iff, checkOperand_eq_ok_iff, Prod.exists, pure_eq_ok,
          Except.ok.injEq, Prod.mk.injEq] at given
        obtain ⟨right, after, readRight, -, leftAllowed, -, rightAllowed, rfl, rfl⟩ := given
        simp only [Cursor.demand, List.length_cons] at within enough shorter
        have second := keeps.expression (by simp only [Cursor.demand]; omega)
          (by simp only [Cursor.demand]; omega) readRight
        exact .operation first kind (by simpa using infixed) second leftAllowed rightAllowed
  · rename_i other
    cases given
    refine .single first ?_
    intro _ _ glyph ahead kind
    cases ahead
    exact (other glyph kind).elim

/-- So is a primary. -/
theorem primary_succ (keeps : Keeps arities demand) {budget : Nat} {cursor last : Cursor}
    {value : Value} (within : 4 * cursor.ahead.length + 1 ≤ demand + 1)
    (enough : 4 * cursor.ahead.length + 1 ≤ budget)
    (given : Program.primary none arities budget cursor = .ok (value, last)) :
    Primary arities cursor value last := by
  obtain _ | budget := budget
  · cases enough
  obtain ⟨behind, _ | ⟨token, rest⟩⟩ := cursor
  · simp [Program.primary] at given
  simp only [List.length_cons] at within enough
  rw [Program.primary] at given
  dsimp only at given
  split at given
  · rename_i kind
    simp only [bind_eq_ok_iff, numberOf_eq_ok_iff, pure_eq_ok, Except.ok.injEq,
      Prod.mk.injEq] at given
    obtain ⟨number, spelled, rfl, rfl⟩ := given
    exact .number kind spelled
  · cases given
    exact .word ‹_›
  · cases given
    exact .reference ‹_›
  · rename_i kind
    simp only [bind_eq_ok_iff, Prod.exists, pure_eq_ok, Except.ok.injEq, Prod.mk.injEq] at given
    obtain ⟨items, _, inside, rfl, rfl⟩ := given
    exact .list kind (items_of_listItems inside)
  · rename_i kind
    rw [bind_eq_ok_iff] at given
    obtain ⟨⟨inner, before, _ | ⟨closer, others⟩⟩, inside, given⟩ := given
    · cases given
    · dsimp only at given
      split at given
      · rename_i closes
        cases given
        refine .parenthesis kind (keeps.expression ?_ ?_ inside) (eq_of_beq closes)
        · simp only [Cursor.demand]; omega
        · simp only [Cursor.demand]; omega
      · cases given
  · rename_i glyph kind
    split at given
    · rename_i signs
      simp only [bind_eq_ok_iff, checkOperand_eq_ok_iff, Prod.exists, pure_eq_ok, Except.ok.injEq,
        Prod.mk.injEq] at given
      obtain ⟨operand, _, inside, -, allowed, rfl, rfl⟩ := given
      refine .sign kind (by simpa using signs) (keeps.primary ?_ ?_ inside) allowed
      · dsimp only; omega
      · dsimp only; omega
    · cases given
  · rename_i primitive kind
    split at given
    · cases given
    · rename_i shapes form
      simp only [bind_eq_ok_iff, Prod.exists, pure_eq_ok, Except.ok.injEq, Prod.mk.injEq] at given
      obtain ⟨values, _, inputs, rfl, rfl⟩ := given
      refine .reporter kind form (keeps.each ?_ ?_ inputs)
      · dsimp only; omega
      · dsimp only; omega
  · rename_i name kind
    simp only [bind_eq_ok_iff, Prod.exists, pure_eq_ok, Except.ok.injEq, Prod.mk.injEq] at given
    obtain ⟨values, _, inputs, rfl, rfl⟩ := given
    refine .call kind (keeps.call ?_ ?_ inputs)
    · dsimp only; omega
    · dsimp only; omega
  · cases given

theorem each_succ (keeps : Keeps arities demand) {primitive : Primitive} {token : Token}
    {budget : Nat} {shapes : List Shape} {cursor last : Cursor} {values : List Value}
    (within : 4 * cursor.ahead.length + 3 ≤ demand + 1)
    (enough : 4 * cursor.ahead.length + 3 ≤ budget)
    (given : reporterInputs none arities primitive token budget shapes cursor =
      .ok (values, last)) :
    Inputs arities (.each shapes) cursor values last := by
  obtain _ | budget := budget
  · cases enough
  obtain _ | ⟨shape, shapes⟩ := shapes
  · cases given
    exact .none
  rw [reporterInputs] at given
  split at given
  · cases given
  · rename_i follows
    simp only [bind_eq_ok_iff, checkInput_eq_ok_iff, Prod.exists, pure_eq_ok, Except.ok.injEq,
      Prod.mk.injEq] at given
    obtain ⟨value, next, readFirst, -, allowed, others, _, readOthers, rfl, rfl⟩ := given
    have first := keeps.expression (Nat.le_of_succ_le_succ within) (Nat.le_of_succ_le_succ enough)
      readFirst
    have shorter := first.isPast.length_lt
    exact .each (by simpa using follows) first allowed
      (keeps.each (by omega) (by omega) readOthers)

theorem following_succ (keeps : Keeps arities demand) {budget : Nat} {cursor last : Cursor}
    {values : List Value} (within : 4 * cursor.ahead.length + 3 ≤ demand + 1)
    (enough : 4 * cursor.ahead.length + 3 ≤ budget)
    (given : followingInputs none arities budget cursor = .ok (values, last)) :
    Inputs arities .following cursor values last := by
  obtain _ | budget := budget
  · cases enough
  rw [followingInputs] at given
  split at given
  · rename_i begins
    split at given
    · rename_i issue failed
      cases given
      exact .stop fun _ => keeps.refused (Nat.le_of_succ_le_succ within)
        (Nat.le_of_succ_le_succ enough) failed
    · rename_i value next readFirst
      simp only [bind_eq_ok_iff, Prod.exists, pure_eq_ok, Except.ok.injEq, Prod.mk.injEq] at given
      obtain ⟨others, _, readOthers, rfl, rfl⟩ := given
      have first := keeps.expression (Nat.le_of_succ_le_succ within)
        (Nat.le_of_succ_le_succ enough) readFirst
      have shorter := first.isPast.length_lt
      exact .further begins first (keeps.following (by omega) (by omega) readOthers)
  · rename_i elsewhere
    cases given
    exact .stop fun begins => (elsewhere begins).elim

end Keeps

/-- Readers of expressions keep to the grammar. -/
theorem keeps (arities : Arities) (demand : Nat) : Keeps arities demand := by
  induction demand with
  | zero => constructor <;> intros <;> contradiction
  | succ demand hypothesis =>
      exact ⟨hypothesis.expression_succ, hypothesis.primary_succ, hypothesis.each_succ,
        hypothesis.following_succ⟩

theorem expression_of_given {arities : Arities} {budget : Nat} {cursor last : Cursor}
    {value : Value} (enough : cursor.demand ≤ budget)
    (given : expression none arities budget cursor = .ok (value, last)) :
    Expression arities cursor value last :=
  (keeps arities cursor.demand).expression (Nat.le_refl _) enough given

theorem inputs_of_given {arities : Arities} {name : String} {token : Token} {budget : Nat}
    {cursor last : Cursor} {values : List Value} (enough : 4 * cursor.ahead.length + 4 ≤ budget)
    (given : callInputs none arities name token budget cursor = .ok (values, last)) :
    Inputs arities (.ofCall arities name) cursor values last :=
  (keeps arities (4 * cursor.ahead.length + 3)).call (Nat.le_refl _) enough given

end Grammar

end Logo.Program
