import Logo.Proofs.Program.Progress
import Logo.Proofs.Program.RoundTrip
import Logo.Proofs.Token.Lines

/-!
# Programs with lines added

Lines that are added to a program without issues do not change how it is read,
if they begin as a statement does that is no input.  The end of the earlier text
was the end of input for every reader there; each of them decides the same way
with more tokens ahead.

The critical readers are calls that take what follows.  Such a call may have
ended where an input seems to begin but could not be read, perhaps only because
the text ended too early.  This does not happen in a program without issues:
whatever is read next there could have been read as an input.  For a block this
means that its commands can be read as the items of a list.
-/

namespace Logo

/-- Whether a kind of word begins a statement and never an input. -/
def Kind.beginsLine : Kind → Bool
  | .toWord | .procedure _ => true
  | .command primitive => !primitive.spec.reports
  | _ => false

namespace Program

/-- More tokens after those ahead. -/
def Cursor.extend (following : List Token) (cursor : Cursor) : Cursor :=
  ⟨cursor.behind, cursor.ahead ++ following⟩

/-- Tokens that begin a line, if there are any. -/
def BeginsLine (following : List Token) : Prop :=
  ∀ token ∈ following.head?, token.kind.beginsLine = true

/-- No call that takes what follows ends here at something that looks like an input. -/
def Cursor.IsQuiet (arities : Arities) (cursor : Cursor) : Prop :=
  cursor.atInput = true → ¬Refused arities cursor

variable {following : List Token}

/-! ## Looking ahead -/

namespace BeginsLine

theorem kind_ne (begins : BeginsLine following) {token : Token} {rest : List Token} {kind : Kind}
    (ahead : following = token :: rest) (other : kind.beginsLine = false) : token.kind ≠ kind := by
  rintro rfl
  rw [begins token (by simp [ahead])] at other
  cases other

/-- Whether an input begins here does not depend on the next line. -/
theorem atInput_extend (begins : BeginsLine following) (cursor : Cursor) :
    (cursor.extend following).atInput = cursor.atInput := by
  obtain ⟨behind, _ | ⟨token, rest⟩⟩ := cursor
  · obtain _ | ⟨first, others⟩ := following
    · rfl
    have starts := begins first rfl
    show beginsInput first.kind = false
    cases kind : first.kind <;> simp_all [Kind.beginsLine, beginsInput]
  · rfl

theorem endsExpression_extend (begins : BeginsLine following) {cursor : Cursor}
    (complete : cursor.EndsExpression) : (cursor.extend following).EndsExpression := by
  obtain ⟨behind, _ | ⟨first, _ | ⟨second, rest⟩⟩⟩ := cursor
  · intro token rest glyph ahead kind
    exact (begins.kind_ne ahead rfl kind).elim
  · intro token rest glyph ahead kind
    obtain ⟨rfl, -⟩ := List.cons.inj ahead
    cases complete first [] glyph rfl kind
  · intro token others glyph ahead kind
    obtain ⟨rfl, -⟩ := List.cons.inj ahead
    exact complete first (second :: rest) glyph rfl kind

theorem parameters_extend (begins : BeginsLine following) {behind : Token} {rest : List Token}
    {names : List String} {next : Cursor} (taken : parameters behind rest = (names, next)) :
    parameters behind (rest ++ following) = (names, next.extend following) := by
  induction rest generalizing behind names with
  | nil =>
      cases taken
      obtain _ | ⟨first, others⟩ := following
      · rfl
      rw [List.nil_append, parameters]
      split
      · rename_i name kind
        exact (begins.kind_ne rfl rfl kind).elim
      · rfl
  | cons token rest hypothesis =>
      rw [parameters] at taken
      rw [List.cons_append, parameters]
      split at taken
      · cases taken
        rw [hypothesis rfl]
      · cases taken
        rfl

end BeginsLine

theorem Cursor.atEnd_extend {cursor : Cursor} (follows : cursor.atEnd = false) :
    (cursor.extend following).atEnd = false := by
  obtain ⟨behind, _ | ⟨token, rest⟩⟩ := cursor
  · cases follows
  · exact follows

namespace Grammar

/-! ## Quiet ends -/

/-- What can be read is not refused. -/
theorem Expression.not_refused {arities : Arities} {cursor last : Cursor} {value : Value}
    (read : Expression arities cursor value last) : ¬Refused arities cursor := by
  intro refused
  obtain ⟨issue, fails⟩ := refused _ (Nat.le_refl _)
  rw [read.reads _ (Nat.le_refl _)] at fails
  cases fails

theorem Expression.isQuiet {arities : Arities} {cursor last : Cursor} {value : Value}
    (read : Expression arities cursor value last) : cursor.IsQuiet arities :=
  fun _ => read.not_refused

theorem isQuiet_of_kind {arities : Arities} {behind token : Token} {rest : List Token}
    (other : beginsInput token.kind = false) : Cursor.IsQuiet arities ⟨behind, token :: rest⟩ := by
  intro begins
  rw [show Cursor.atInput ⟨behind, token :: rest⟩ = beginsInput token.kind from rfl,
    other] at begins
  cases begins

theorem allowsOperand_applySign (glyph : String) {operand : Value}
    (allowed : allowsOperand operand = true) : allowsOperand (applySign glyph operand) = true := by
  unfold applySign
  split
  · exact allowed
  · split <;> rfl

/-- What is read after an operator can also be read with the operator as its sign. -/
theorem Expression.signed {arities : Arities} {behind token : Token} {rest : List Token}
    {last : Cursor} {glyph : String} {right : Value} (kind : token.kind = .operator glyph)
    (signs : glyph = "-" ∨ glyph = "+") (read : Expression arities ⟨token, rest⟩ right last)
    (allowed : allowsOperand right = true) :
    ∃ value, Expression arities ⟨behind, token :: rest⟩ value last := by
  cases read with
  | single first complete => exact ⟨_, .single (.sign kind signs first allowed) complete⟩
  | operation first operator between second leftAllowed rightAllowed =>
      exact ⟨_, .operation (.sign kind signs first leftAllowed) operator between second
        (allowsOperand_applySign glyph leftAllowed) rightAllowed⟩

/-- A place in front of an operator that takes an operand is quiet. -/
theorem isQuiet_operator {arities : Arities} {behind token : Token} {rest : List Token}
    {last : Cursor} {glyph : String} {right : Value} (kind : token.kind = .operator glyph)
    (read : Expression arities ⟨token, rest⟩ right last) (allowed : allowsOperand right = true) :
    Cursor.IsQuiet arities ⟨behind, token :: rest⟩ := by
  intro begins
  have signs : glyph = "-" ∨ glyph = "+" := by
    simpa [Cursor.atInput, kind, beginsInput] using begins
  obtain ⟨value, whole⟩ := read.signed kind signs allowed
  exact whole.not_refused

/-- Inputs begin quietly where they end quietly. -/
theorem Inputs.isQuiet {arities : Arities} {intake : Intake} {cursor last : Cursor}
    {values : List Value} (read : Inputs arities intake cursor values last)
    (quiet : last.IsQuiet arities) : cursor.IsQuiet arities := by
  cases read with
  | none => exact quiet
  | stop _ => exact quiet
  | each _ first _ _ => exact first.isQuiet
  | further _ first _ => exact first.isQuiet

/-- Commands without an issue begin with nothing that could have been an input before. -/
theorem Commands.isQuiet {place : Place} {record after : Record} {cursor last : Cursor}
    {commands : List Command} (read : Commands place record cursor commands last after)
    (clean : after.issues = []) : cursor.IsQuiet record.arities := by
  intro begins refused
  have bare := read.not_beginsInput clean fun _ => refused
  cases read with
  | close closes =>
      rcases closer?_cases closes with closer | closer <;>
        simp [Cursor.atInput, closer, beginsInput] at begins
  | finish => cases begins
  | command _ first _ =>
      have head := bare _ rfl
      rw [← first.headKind] at head
      exact isQuiet_of_kind head begins refused
  | skip _ noted others => exact noted (others.clean_before clean)
  | abandon noted => exact noted clean

/-! ## Expressions with more tokens ahead -/

theorem Items.extend {cursor last : Cursor} {items : List Value} (read : Items cursor items last) :
    Items (cursor.extend following) items (last.extend following) := by
  induction read with
  | close kind => exact .close kind
  | list kind _ _ inside others => exact .list kind inside others
  | number kind spelled _ others => exact .number kind spelled others
  | negative sign spelled _ others => exact .negative sign spelled others
  | word kind unsigned read others =>
      obtain ⟨next, further, ahead, -⟩ := read.isPast
      cases ahead
      exact .word kind unsigned others

mutual

/--
An expression is read in the same way if a line follows.  Something is read
after an operator, so the tokens around it are the same.
-/
theorem Expression.extend (begins : BeginsLine following) {arities : Arities} {cursor last : Cursor}
    {value : Value} :
    Expression arities cursor value last → last.IsQuiet arities →
      Expression arities (cursor.extend following) value (last.extend following)
  | .single first complete, quiet =>
      .single (first.extend begins quiet) (begins.endsExpression_extend complete)
  | .operation first kind between second leftAllowed rightAllowed, quiet => by
      have before := first.extend begins (isQuiet_operator kind second rightAllowed)
      refine .operation before kind ?_ (second.extend begins quiet) leftAllowed rightAllowed
      obtain ⟨next, further, ahead, -⟩ := second.isPast
      cases ahead
      exact between

/-- So is a primary. -/
theorem Primary.extend (begins : BeginsLine following) {arities : Arities} {cursor last : Cursor}
    {value : Value} :
    Primary arities cursor value last → last.IsQuiet arities →
      Primary arities (cursor.extend following) value (last.extend following)
  | .number kind spelled, _ => .number kind spelled
  | .word kind, _ => .word kind
  | .reference kind, _ => .reference kind
  | .list kind inside, _ => .list kind inside.extend
  | .parenthesis kind inside closes, _ =>
      .parenthesis kind (inside.extend begins (isQuiet_of_kind (by rw [closes]; rfl))) closes
  | .sign kind signs signed allowed, quiet => .sign kind signs (signed.extend begins quiet) allowed
  | .reporter kind form inputs, quiet => .reporter kind form (inputs.extend begins quiet)
  | .call kind inputs, quiet => .call kind (inputs.extend begins quiet)

/--
So are inputs.  Where they stop the place is quiet, so no input seemed to begin
there, and none does now.
-/
theorem Inputs.extend (begins : BeginsLine following) {arities : Arities} {intake : Intake}
    {cursor last : Cursor} {values : List Value} :
    Inputs arities intake cursor values last → last.IsQuiet arities →
      Inputs arities intake (cursor.extend following) values (last.extend following)
  | .none, _ => .none
  | .stop refused, quiet => by
      refine .stop fun starts => ?_
      rw [begins.atInput_extend] at starts
      exact (quiet starts (refused starts)).elim
  | .each follows first allowed others, quiet =>
      .each (Cursor.atEnd_extend follows) (first.extend begins (others.isQuiet quiet)) allowed
        (others.extend begins quiet)
  | .further starts first others, quiet =>
      .further ((begins.atInput_extend _).trans starts)
        (first.extend begins (others.isQuiet quiet)) (others.extend begins quiet)

end

/-! ## Commands as the items of a list -/

/-- The tokens from one place to another one can be read as items, with the closing bracket. -/
def Listed (cursor final : Cursor) : Prop :=
  ∃ items, Items cursor items final

namespace Listed

variable {behind token : Token} {rest : List Token} {between final : Cursor}

theorem number (kind : token.kind = .number) {value : Float}
    (spelled : Number.read? token.lexeme = some value) (listed : Listed ⟨token, rest⟩ final) :
    Listed ⟨behind, token :: rest⟩ final := by
  obtain ⟨items, others⟩ := listed
  exact ⟨_, .number kind spelled others⟩

/-- A word is an item, or the sign of the number that is the next item. -/
theorem word (kind : isItem token.kind = true) (listed : Listed ⟨token, rest⟩ final) :
    Listed ⟨behind, token :: rest⟩ final := by
  obtain ⟨items, others⟩ := listed
  cases sign : isSignOf token rest with
  | false => exact ⟨_, .word kind sign others⟩
  | true =>
      obtain _ | ⟨digits, rest⟩ := rest
      · cases sign
      have digital := sign
      simp only [isSignOf, Bool.and_eq_true, beq_iff_eq] at digital
      cases others with
      | number _ spelled others => exact ⟨_, .negative sign spelled others⟩
      | close other | list other _ _ => simp [other] at digital
      | negative other _ _ =>
          simp only [isSignOf, Bool.and_eq_true, beq_iff_eq] at other
          simp [other] at digital
      | word other _ _ => simp [digital, isItem] at other

theorem list (kind : token.kind = .openBracket) (inside : Listed ⟨token, rest⟩ between)
    (listed : Listed between final) : Listed ⟨behind, token :: rest⟩ final := by
  obtain ⟨inner, read⟩ := inside
  obtain ⟨items, others⟩ := listed
  exact ⟨_, .list kind read others⟩

end Listed

mutual

/-- What is read as an expression could be items of a list. -/
theorem Expression.listed {arities : Arities} {cursor last final : Cursor} {value : Value} :
    Expression arities cursor value last → Listed last final → Listed cursor final
  | .single first _, listed => first.listed listed
  | .operation first kind _ second _ _, listed =>
      first.listed (.word (by rw [kind]; rfl) (second.listed listed))

theorem Primary.listed {arities : Arities} {cursor last final : Cursor} {value : Value} :
    Primary arities cursor value last → Listed last final → Listed cursor final
  | .number kind spelled, listed => .number kind spelled listed
  | .word kind, listed => .word (by rw [kind]; rfl) listed
  | .reference kind, listed => .word (by rw [kind]; rfl) listed
  | .list kind inside, listed => .list kind ⟨_, inside⟩ listed
  | .parenthesis kind inside closes, listed =>
      .word (by rw [kind]; rfl) (inside.listed (.word (by rw [closes]; rfl) listed))
  | .sign kind _ signed _, listed => .word (by rw [kind]; rfl) (signed.listed listed)
  | .reporter kind _ inputs, listed => .word (by rw [kind]; rfl) (inputs.listed listed)
  | .call kind inputs, listed => .word (by rw [kind]; rfl) (inputs.listed listed)

theorem Inputs.listed {arities : Arities} {intake : Intake} {cursor last final : Cursor}
    {values : List Value} :
    Inputs arities intake cursor values last → Listed last final → Listed cursor final
  | .none, listed => listed
  | .stop _, listed => listed
  | .each _ first _ others, listed => first.listed (others.listed listed)
  | .further _ first others, listed => first.listed (others.listed listed)

end

theorem listed_parameters {behind : Token} {rest : List Token} {names : List String}
    {next final : Cursor} (taken : parameters behind rest = (names, next))
    (listed : Listed next final) : Listed ⟨behind, rest⟩ final := by
  induction rest generalizing behind names with
  | nil =>
      cases taken
      exact listed
  | cons token rest hypothesis =>
      rw [parameters] at taken
      split at taken
      · rename_i name kind
        cases taken
        exact .word (by rw [kind]; rfl) (hypothesis rfl)
      · cases taken
        exact listed

/-- Items go on after what closes a place, except that a block closes as a list does. -/
def Place.Lists : Place → Cursor → Cursor → Prop
  | .block, last, final => last = final
  | _, last, final => Listed last final

theorem listed_close {place : Place} {behind token : Token} {rest : List Token} {final : Cursor}
    (closes : place.closer? = some token.kind) (lists : place.Lists ⟨token, rest⟩ final) :
    Listed ⟨behind, token :: rest⟩ final := by
  cases place with
  | top => cases closes
  | block =>
      cases lists
      exact ⟨[], .close (Option.some.inj closes).symm⟩
  | body => exact .word (by rw [← Option.some.inj closes]; rfl) lists

mutual

/-- What is read as a statement could be items of a list. -/
theorem Statement.listed {record after : Record} {behind token : Token} {rest : List Token}
    {command : Command} {last final : Cursor} :
    Statement record token rest command last after → after.issues = [] → Listed last final →
      Listed ⟨behind, token :: rest⟩ final
  | .primitive kind inputs, clean, listed => .word (by rw [kind]; rfl) (inputs.listed clean listed)
  | .call kind inputs, _, listed => .word (by rw [kind]; rfl) (inputs.listed listed)
  | .define kind named taken inside, clean, listed =>
      .word (by rw [kind]; rfl) (.word (by rw [named]; rfl)
        (listed_parameters taken (inside.listed clean listed)))

theorem Slots.listed {record after : Record} {slots : List Slot} {cursor last final : Cursor}
    {values : List Value} :
    Slots record slots cursor values last after → after.issues = [] → Listed last final →
      Listed cursor final
  | .none, _, listed => listed
  | .datum _ first _ others, clean, listed => first.listed (others.listed clean listed)
  | .block kind inside others, clean, listed =>
      .list kind (inside.listed (others.clean_before clean) rfl) (others.listed clean listed)

/-- So could commands in a row. -/
theorem Commands.listed {place : Place} {record after : Record} {cursor last final : Cursor}
    {commands : List Command} :
    Commands place record cursor commands last after → after.issues = [] →
      place.Lists last final → Listed cursor final
  | .close closes, _, lists => listed_close closes lists
  | .finish, _, lists => lists
  | .command _ first others, clean, lists =>
      first.listed (others.clean_before clean) (others.listed clean lists)
  | .skip _ noted others, clean, _ => (noted (others.clean_before clean)).elim
  | .abandon noted, clean, _ => (noted clean).elim

end

/-! ## Statements with more tokens ahead -/

/-- Whether blocks are the last of some slots. -/
def blocksLast : List Slot → Bool
  | [] => true
  | .datum _ :: slots => blocksLast slots
  | .block :: slots => slots.all (· == .block)

theorem blocksLast_slots (primitive : Primitive) : blocksLast primitive.spec.slots = true := by
  have all : Primitive.all.all (fun known => blocksLast known.spec.slots) = true := by
    decide +kernel
  exact List.all_eq_true.mp all primitive primitive.mem_all

theorem Slots.endsExpression {record after : Record} {slots : List Slot} {cursor last : Cursor}
    {values : List Value} (read : Slots record slots cursor values last after)
    (blocks : slots.all (· == .block) = true) (complete : last.EndsExpression) :
    cursor.EndsExpression := by
  cases read with
  | none => exact complete
  | datum => simp at blocks
  | block opens _ _ =>
      intro token rest glyph ahead kind
      obtain ⟨rfl, -⟩ := List.cons.inj ahead
      rw [opens] at kind
      cases kind

/--
Slots begin quietly where they end quietly.  A block could be read as a list,
and nothing follows that goes on with it.
-/
theorem Slots.isQuiet {record after : Record} {slots : List Slot} {cursor last : Cursor}
    {values : List Value} (read : Slots record slots cursor values last after)
    (clean : after.issues = []) (ordered : blocksLast slots = true)
    (quiet : last.IsQuiet after.arities) (complete : last.EndsExpression) :
    cursor.IsQuiet record.arities := by
  cases read with
  | none => exact quiet
  | datum _ first _ _ => exact first.isQuiet
  | block kind inside others =>
      obtain ⟨items, inner⟩ := inside.listed (others.clean_before clean) rfl
      exact (Expression.single (.list kind inner) (others.endsExpression ordered complete)).isQuiet

theorem blocksLast_tail {slot : Slot} {slots : List Slot}
    (ordered : blocksLast (slot :: slots) = true) :
    blocksLast slots = true := by
  cases slot with
  | datum => exact ordered
  | block =>
      cases slots with
      | nil => rfl
      | cons slot slots =>
          obtain ⟨own, others⟩ := Bool.and_eq_true_iff.mp ordered
          rw [eq_of_beq own]
          exact others

mutual

/-- A statement is read in the same way if a line follows. -/
theorem Statement.extend (begins : BeginsLine following) {record after : Record} {token : Token}
    {rest : List Token} {command : Command} {last : Cursor} :
    Statement record token rest command last after → after.issues = [] →
      last.IsQuiet after.arities → last.EndsExpression →
        Statement record token (rest ++ following) command (last.extend following) after
  | .primitive kind inputs, clean, quiet, complete =>
      .primitive kind (inputs.extend begins clean (blocksLast_slots _) quiet complete)
  | .call kind inputs, _, quiet, _ => .call kind (inputs.extend begins quiet)
  | .define kind named taken inside, clean, _, _ =>
      .define kind named (begins.parameters_extend taken) (inside.extend begins clean nofun)

theorem Slots.extend (begins : BeginsLine following) {record after : Record} {slots : List Slot}
    {cursor last : Cursor} {values : List Value} :
    Slots record slots cursor values last after → after.issues = [] → blocksLast slots = true →
      last.IsQuiet after.arities → last.EndsExpression →
        Slots record slots (cursor.extend following) values (last.extend following) after
  | .none, _, _, _, _ => .none
  | .datum follows first allowed others, clean, ordered, quiet, complete =>
      .datum (Cursor.atEnd_extend follows)
        (first.extend begins (others.isQuiet clean (blocksLast_tail ordered) quiet complete))
        allowed
        (others.extend begins clean (blocksLast_tail ordered) quiet complete)
  | .block kind inside others, clean, ordered, quiet, complete =>
      .block kind (inside.extend begins (others.clean_before clean) nofun)
        (others.extend begins clean (blocksLast_tail ordered) quiet complete)

/-- Commands up to a closing token do not depend on what follows it. -/
theorem Commands.extend (begins : BeginsLine following) {place : Place} {record after : Record}
    {cursor last : Cursor} {commands : List Command} :
    Commands place record cursor commands last after → after.issues = [] → place ≠ .top →
      Commands place record (cursor.extend following) commands (last.extend following) after
  | .close closes, _, _ => .close closes
  | .finish, _, inside => (inside rfl).elim
  | .command admitted first others, clean, inside =>
      .command admitted
        (first.extend begins (others.clean_before clean) (others.isQuiet clean)
          (others.endsExpression clean))
        (others.extend begins clean inside)
  | .skip _ noted others, clean, _ => (noted (others.clean_before clean)).elim
  | .abandon noted, clean, _ => (noted clean).elim

end

/-- Statements without an issue are read as before, and then whatever follows them. -/
theorem Commands.run_append (begins : BeginsLine following) {record after : Record}
    {cursor last : Cursor} {commands : List Command} :
    Commands .top record cursor commands last after → after.issues = [] →
      ∀ budget, 4 * (cursor.ahead ++ following).length + 2 ≤ budget →
        ∃ remaining, 4 * following.length + 2 ≤ remaining ∧
          (statements none budget (cursor.ahead ++ following)).run record =
            (commands ++ ((statements none remaining following).run after).1,
              ((statements none remaining following).run after).2)
  | .close closes, _ => by cases closes
  | .finish, _ => fun budget enough => ⟨budget, enough, rfl⟩
  | .skip _ noted others, clean => (noted (others.clean_before clean)).elim
  | .abandon noted, clean => (noted clean).elim
  | .command admitted first others, clean => by
      rintro (_ | budget) enough
      · cases enough
      have shorter := first.suffix.length_le
      simp only [List.length_append, List.length_cons] at enough
      have extended := first.extend begins (others.clean_before clean) (others.isQuiet clean)
        (others.endsExpression clean)
      have given := extended.reads (others.clean_before clean) budget
        (by rw [List.length_append]; omega)
      obtain ⟨remaining, enough, rest⟩ := others.run_append begins clean budget
        (by rw [List.length_append]; omega)
      refine ⟨remaining, enough, ?_⟩
      rw [List.cons_append, run_statements_ok none given]
      dsimp only [Cursor.extend]
      rw [rest]
      rfl

end Grammar

/-! ## Lines one after the other -/

/-- The tokens of two lines are those of the first and then those of the second. -/
theorem scan_lines (first second : String) :
    Token.scan (first ++ "\n" ++ second) =
      Token.scan first ++ (Token.scan second).map (Token.relocate (.shift (first.length + 1))) :=
  Token.scan_append_line first second

/-- The arities that are known when a text has been read. -/
def aritiesAfter (text : String) : Arities :=
  ((statements none (budgetFor (Token.scan text)) (Token.scan text)).run .empty).2.arities

/-- What reading a text without issues leaves behind. -/
theorem run_statements_clean {text : String} (clean : (ofText text).isClean = true) :
    (statements none (budgetFor (Token.scan text)) (Token.scan text)).run .empty =
      ((ofText text).commands, ⟨aritiesAfter text, []⟩) := by
  have unmarked : (ofText text).issues = [] := List.isEmpty_iff.mp clean
  have issues :
      ((statements none (budgetFor (Token.scan text))
        (Token.scan text)).run .empty).2.issues = [] :=
    List.reverse_eq_nil_iff.mp unmarked
  exact Prod.ext rfl (congrArg (Record.mk (aritiesAfter text)) issues)

/--
Lines that are added to a program without issues leave its commands as they
are, in their places.  After them come the commands that are made of the lines
on their own, with the arities that the program announced, and all issues are
those of the lines; only their places move, past the program and the line end.
-/
theorem ofText_add_lines (text lines : String) (clean : (ofText text).isClean = true)
    (begins : ∀ token ∈ (Token.scan lines).head?, token.kind.beginsLine = true) :
    let added := resume (aritiesAfter text) lines (Token.scan lines)
    let moved := Relocation.shift (text.length + 1)
    (ofText (text ++ "\n" ++ lines)).commands =
        (ofText text).commands ++ commandsMapOrigins moved.origin added.commands ∧
      (ofText (text ++ "\n" ++ lines)).issues = added.issues.map (Issue.relocate moved) := by
  intro added moved
  have starts : BeginsLine ((Token.scan lines).map (Token.relocate moved)) := by
    intro token member
    rw [List.head?_map] at member
    obtain ⟨own, first, rfl⟩ := Option.mem_map.mp member
    exact begins own first
  obtain ⟨last, read⟩ := Grammar.commands_of_statements (Grammar.enough_budgetFor _)
    (run_statements_clean clean) (Grammar.start (Token.scan text)).behind
  obtain ⟨remaining, enough, whole⟩ := read.run_append starts rfl _ (Grammar.enough_budgetFor _)
  have suits : moved.Suits (Token.scan lines) :=
    (genuine_scan lines).suits (List.pairwise_of_forall (Relocation.keepsSeam_shift _)).isChain
  rw [List.length_map] at enough
  obtain ⟨commands, issues, -⟩ := run_statements_relocate suits (aritiesAfter text) lines enough
  simp only [ofText, ofTokens, scan_lines]
  rw [whole]
  exact ⟨congrArg _ commands, issues⟩

/-- A call that takes what follows, with a comment after it, and lines with two mistakes. -/
theorem square_add_lines :
    let text := "to sq :x output :x * :x end f 3 [a] -2 ; done"
    let lines := "sq 4 g ) print"
    let added := resume (aritiesAfter text) lines (Token.scan lines)
    let moved := Relocation.shift (text.length + 1)
    (ofText text).isClean = true ∧
      (∀ token ∈ (Token.scan lines).head?, token.kind.beginsLine = true) ∧
      added.issues = [⟨.notCommand ")", ⟨.closeParen, ")", 7, 8⟩⟩,
        ⟨.notEnoughInputs "PRINT" 1, ⟨.command .print, "print", 9, 14⟩⟩] ∧
      (ofText (text ++ "\n" ++ lines)).commands =
        (ofText text).commands ++ commandsMapOrigins moved.origin added.commands ∧
      (ofText (text ++ "\n" ++ lines)).issues = added.issues.map (Issue.relocate moved) :=
  ⟨by decide +kernel, by decide +kernel, by decide +kernel,
    ofText_add_lines _ _ (by decide +kernel) (by decide +kernel)⟩

end Program

end Logo
