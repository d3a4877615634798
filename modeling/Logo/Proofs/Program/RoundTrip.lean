import Logo.Proofs.Program.Rereading

/-!
# Reading printed programs

A program that was read without an issue can be printed and read again, and
nothing changes but where its commands stand.

Statements are not delimited when they are printed, so what follows one must
not be taken for part of it.  An operator never follows, and neither does an
input, with one exception to be ruled out: a call that takes what follows,
before a statement that begins with a reporter.  But where such a call ended in
the text that was read first, no expression could be read, while a reporter
with all its inputs, followed by anything that is no operator, is one.
-/

namespace Logo

/-- The kind of token that a printed command begins with. -/
def Command.headKind : Command → Kind
  | .primitive known _ _ => .command known
  | .define _ _ _ _ => .toWord
  | .call name _ _ _ => .procedure name

/-- Whether a command takes as many inputs as follow it. -/
def Command.isOpen (arities : Program.Arities) : Command → Bool
  | .call name _ _ _ => (arities.lookup name).isNone
  | _ => false

namespace Program

open Grammar

/-! ## Calls that take what follows -/

namespace Grammar

theorem Inputs.refused {arities : Arities} {intake : Intake} {cursor last : Cursor}
    {values : List Value} : Inputs arities intake cursor values last → intake = .following →
      last.atInput = true → Refused arities last
  | .none => nofun
  | .each _ _ _ _ => nofun
  | .stop refused => fun _ => refused
  | .further _ _ others => others.refused

theorem closer?_cases {place : Place} {kind : Kind} (closes : place.closer? = some kind) :
    kind = .closeBracket ∨ kind = .endWord := by
  cases place <;> simp_all [Place.closer?]

/-- Where commands begin, an expression has ended. -/
theorem Commands.endsExpression {place : Place} {record after : Record} {cursor last : Cursor}
    {commands : List Command} (read : Commands place record cursor commands last after)
    (clean : after.issues = []) : cursor.EndsExpression := by
  intro token rest glyph ahead kind
  cases read with
  | close closes =>
      obtain ⟨rfl, rfl⟩ := List.cons.inj ahead
      rcases closer?_cases closes with closer | closer <;> simp [closer] at kind
  | finish => cases ahead
  | command admitted first others =>
      obtain ⟨rfl, rfl⟩ := List.cons.inj ahead
      cases first with
      | primitive known _ => simp [known] at kind
      | call known _ => simp [known] at kind
      | define known _ _ _ => simp [known] at kind
  | skip recovers noted others => exact (noted (others.clean_before clean)).elim
  | abandon noted => exact (noted clean).elim

/-- Slots without blocks are inputs. -/
theorem Slots.inputs {record after : Record} {shapes : List Shape} {cursor last : Cursor}
    {values : List Value} (read : Slots record (shapes.map .datum) cursor values last after) :
    Inputs record.arities (.each shapes) cursor values last := by
  induction shapes generalizing cursor values with
  | nil =>
      cases read with
      | none => exact .none
  | cons shape shapes hypothesis =>
      cases read with
      | datum follows first allowed others => exact .each follows first allowed (hypothesis others)

/-- Where no input could be read, no statement begins that could be one. -/
theorem Commands.not_beginsInput {place : Place} {record after : Record} {cursor last : Cursor}
    {commands : List Command} (read : Commands place record cursor commands last after)
    (clean : after.issues = []) (refused : cursor.atInput = true → Refused record.arities cursor) :
    ∀ command ∈ commands.head?, beginsInput command.headKind = false := by
  cases read with
  | close _ => simp
  | finish => simp
  | skip _ noted others => exact (noted (others.clean_before clean)).elim
  | abandon noted => exact (noted clean).elim
  | @command _ _ _ _ behind token rest next _ command commands _ first others =>
      simp only [List.head?_cons, Option.mem_some_iff, forall_eq']
      cases first with
      | call => rfl
      | define => rfl
      | @primitive _ _ _ _ known values _ kind inputs =>
          refine Bool.eq_false_iff.mpr fun reports => ?_
          have form : ∃ shapes, known.spec.form = .reporter shapes := by
            simp only [Command.headKind, beginsInput, Spec.reports] at reports
            split at reports
            · cases reports
            · exact ⟨_, ‹_›⟩
          obtain ⟨shapes, form⟩ := form
          have slots : known.spec.slots = shapes.map .datum := by simp [Spec.slots, form]
          rw [slots] at inputs
          have primary : Primary record.arities ⟨behind, token :: rest⟩ _ next :=
            .reporter kind form inputs.inputs
          have expression : Expression record.arities ⟨behind, token :: rest⟩ _ next :=
            .single primary (others.endsExpression clean)
          have begins : Cursor.atInput ⟨behind, token :: rest⟩ = true := by
            show beginsInput token.kind = true
            rwa [kind]
          obtain ⟨issue, fails⟩ := refused begins _ (Nat.le_refl _)
          rw [expression.reads _ (Nat.le_refl _)] at fails
          cases fails

end Grammar

/-! ## Printed statements -/

/-- The pieces that close a printed place. -/
def closing : Place → List Piece
  | .block => [⟨[], "]"⟩]
  | .body => [⟨['\n'], "END"⟩]
  | .top => []

theorem ofText_end : Kind.ofText "END" = .endWord := by decide +kernel

theorem ofText_to : Kind.ofText "TO" = .toWord := by decide +kernel

theorem isLexeme_reserved : ∀ text ∈ ["TO", "END"], Token.IsLexeme text := by
  have plain : ["TO", "END"].all (fun text => !text.toList.isEmpty && text.toList.all
      fun character => Token.isSolid character && !Token.isPaired character) = true := by
    decide
  intro text known
  have own := List.all_eq_true.mp plain text known
  simp only [Bool.and_eq_true, Bool.not_eq_true', List.isEmpty_eq_false_iff,
    List.all_eq_true] at own
  exact .word (.of_forall own.1 own.2)

/-- A command begins with a lexeme of its kind. -/
def Headed (command : Command) : Prop :=
  ∀ gap, ∃ lexeme rest, command.pieces gap = ⟨gap, lexeme⟩ :: rest ∧
    Kind.ofText lexeme = command.headKind

/-- A statement that is read back from its pieces, if what follows is no part of it. -/
structure StatementRereads (record : Record) (command : Command) (after : Record) : Prop where
  headed : Headed command
  proper : ∀ gap, (∀ character ∈ gap, Text.isBlank character = true) →
    ∀ piece ∈ command.pieces gap, piece.IsProper
  reads : ∀ gap behind following, Ends following →
    (command.isOpen record.arities = true →
      ∀ before, (Cursor.facing before following).atInput = false) →
    ∃ again token rest last, again.alike command = true ∧ token.kind = command.headKind ∧
      Cursor.facing behind (command.pieces gap ++ following) = ⟨behind, token :: rest⟩ ∧
      Statement record token rest again (.facing last following) after

/-- Commands that are read back from their pieces and what closes them. -/
structure CommandsReread (place : Place) (record : Record) (commands : List Command)
    (after : Record) : Prop where
  headed : ∀ command ∈ commands.head?, Headed command
  proper : ∀ gap separator, (∀ character ∈ gap, Text.isBlank character = true) →
    (∀ character ∈ separator, Text.isBlank character = true) →
    ∀ piece ∈ commandsPieces gap separator commands, piece.IsProper
  reads : ∀ gap separator behind following, (place = .top → following = []) →
    ∃ again last, commandsAlike again commands = true ∧
      Commands place record
        (.facing behind (commandsPieces gap separator commands ++ (closing place ++ following)))
        again (.facing last following) after

/-- Inputs of a statement that are read back from their pieces. -/
structure SlotsReread (record : Record) (slots : List Slot) (values : List Value)
    (after : Record) : Prop where
  proper : ∀ piece ∈ valuesPieces .source [' '] values, piece.IsProper
  ends : ∀ following, Ends following → Ends (valuesPieces .source [' '] values ++ following)
  reads : ∀ behind following, Ends following →
    ∃ again last, valuesAlike again values = true ∧
      Slots record slots (.facing behind (valuesPieces .source [' '] values ++ following)) again
        (.facing last following) after

namespace SlotsReread

variable {record middle after : Record} {slots : List Slot} {values : List Value}

theorem nil : SlotsReread record [] [] record := by
  refine ⟨by simp [valuesPieces], fun following ends => ends, fun behind following _ => ?_⟩
  exact ⟨[], behind, by simp [valuesAlike], .none⟩

theorem datum {shape : Shape} {value : Value} (first : Rereads record.arities value)
    (allowed : allowsInput shape value = true) (others : SlotsReread record slots values after) :
    SlotsReread record (.datum shape :: slots) (value :: values) after := by
  refine ⟨?_, fun following _ => ?_, fun behind following ends => ?_⟩
  · intro piece member
    rw [valuesPieces] at member
    rcases List.mem_append.mp member with own | other
    · exact first.proper [' '] ItemsReread.blank_space piece own
    · exact others.proper piece other
  · rw [valuesPieces, List.append_assoc]
    exact first.ends [' '] _ (by simp)
  · rw [valuesPieces, List.append_assoc]
    have begins := first.begins [' '] behind (valuesPieces .source [' '] values ++ following)
    obtain ⟨again, next, alike, expression⟩ :=
      first.expression [' '] behind (others.ends following ends)
    obtain ⟨more, last, moreAlike, slots⟩ := others.reads next following ends
    rw [← allowsInput_alike alike] at allowed
    exact ⟨again :: more, last, by simp [valuesAlike, alike, moreAlike],
      .datum (atEnd_of_atInput begins) expression allowed slots⟩

/-- A block is reread if its commands are. -/
theorem block {commands : List Command} (first : CommandsReread .block record commands middle)
    (others : SlotsReread middle slots values after) :
    SlotsReread record (.block :: slots) (.block commands :: values) after := by
  refine ⟨?_, fun following _ => ?_, fun behind following ends => ?_⟩
  · intro piece member
    simp only [valuesPieces, Value.pieces, List.mem_append, List.mem_cons, List.not_mem_nil,
      or_false] at member
    rcases member with (rfl | within | rfl) | other
    · exact ⟨ItemsReread.blank_space, isLexeme_fixed "[" (by simp)⟩
    · exact first.proper [] [' '] (by simp) ItemsReread.blank_space piece within
    · exact isProper_fixed (by simp)
    · exact others.proper piece other
  · exact ends_cons (by simp [ofText_openBracket])
  · obtain ⟨commands', next, alike, inside⟩ := first.reads [] [' '] (tokenAt behind ⟨[' '], "["⟩)
      (valuesPieces .source [' '] values ++ following) nofun
    obtain ⟨more, last, moreAlike, slots⟩ := others.reads next following ends
    refine ⟨.block commands' :: more, last,
      by simp [valuesAlike, Value.alike, alike, moreAlike], ?_⟩
    simp only [valuesPieces, Value.pieces, List.cons_append, List.append_assoc, List.nil_append]
    exact .block ((kind_tokenAt behind _).trans ofText_openBracket) inside slots

end SlotsReread

namespace CommandsReread

variable {place : Place} {record middle after : Record} {commands : List Command}

/-- Behind a statement stands the next one, or what closes the place. -/
theorem head_cases (rereads : CommandsReread place record commands after)
    {separator : List Char} {following : List Piece} (complete : place = .top → following = [])
    {before token : Token} {rest : List Token}
    (ahead : (Cursor.facing before
      (commandsPieces separator separator commands ++ (closing place ++ following))).ahead =
        token :: rest) :
    (∃ command ∈ commands.head?, token.kind = command.headKind) ∨
      place.closer? = some token.kind := by
  cases commands with
  | nil =>
      refine .inr ?_
      cases place with
      | block =>
          obtain ⟨rfl, -⟩ := List.cons.inj ahead
          exact (congrArg some ((kind_tokenAt before _).trans ofText_closeBracket)).symm
      | body =>
          obtain ⟨rfl, -⟩ := List.cons.inj ahead
          exact (congrArg some ((kind_tokenAt before _).trans ofText_end)).symm
      | top =>
          rw [complete rfl] at ahead
          cases ahead
  | cons command others =>
      obtain ⟨lexeme, more, pieces, kind⟩ := rereads.headed command (by simp) separator
      rw [commandsPieces, pieces] at ahead
      obtain ⟨rfl, -⟩ := List.cons.inj ahead
      exact .inl ⟨command, by simp, (kind_tokenAt before _).trans kind⟩

theorem ends (rereads : CommandsReread place record commands after) (separator : List Char)
    {following : List Piece} (complete : place = .top → following = []) :
    Ends (commandsPieces separator separator commands ++ (closing place ++ following)) := by
  intro before token rest glyph ahead kind
  rcases rereads.head_cases complete ahead with ⟨command, -, head⟩ | closes
  · rw [kind] at head
    cases command <;> cases head
  · rcases closer?_cases closes with closer | closer <;> simp [closer] at kind

theorem atInput_eq_false (rereads : CommandsReread place record commands after)
    (bare : ∀ command ∈ commands.head?, beginsInput command.headKind = false)
    (separator : List Char) {following : List Piece} (complete : place = .top → following = [])
    (before : Token) :
    (Cursor.facing before
      (commandsPieces separator separator commands ++ (closing place ++ following))).atInput =
        false := by
  unfold Cursor.atInput
  split
  · rfl
  · rename_i token rest ahead
    rcases rereads.head_cases complete ahead with ⟨command, first, head⟩ | closes
    · rw [head]
      exact bare command first
    · rcases closer?_cases closes with closer | closer <;> rw [closer] <;> rfl

/-- No parameter follows the title of a definition but its own. -/
theorem not_reference (rereads : CommandsReread place record commands after)
    (separator : List Char) (following : List Piece) (complete : place = .top → following = [])
    (before token : Token) (rest : List Token) (name : String)
    (ahead : (Cursor.facing before
      (commandsPieces separator separator commands ++ (closing place ++ following))).ahead =
        token :: rest) : token.kind ≠ .reference name := by
  intro kind
  rcases rereads.head_cases complete ahead with ⟨command, -, head⟩ | closes
  · rw [kind] at head
    cases command <;> cases head
  · rcases closer?_cases closes with closer | closer <;> simp [closer] at kind

theorem nil : CommandsReread place record [] record := by
  refine ⟨by simp, by simp [commandsPieces], fun gap separator behind following complete => ?_⟩
  cases place with
  | block =>
      exact ⟨[], tokenAt behind ⟨[], "]"⟩, by simp [commandsAlike],
        .close (congrArg some ((kind_tokenAt behind _).trans ofText_closeBracket)).symm⟩
  | body =>
      exact ⟨[], tokenAt behind ⟨['\n'], "END"⟩, by simp [commandsAlike],
        .close (congrArg some ((kind_tokenAt behind _).trans ofText_end)).symm⟩
  | top =>
      obtain rfl := complete rfl
      exact ⟨[], behind, by simp [commandsAlike], .finish⟩

/-- Commands in a row are reread, if nothing in the next one is taken for an input of the first. -/
theorem cons {command : Command} (admitted : place.admits command.headKind = true)
    (first : StatementRereads record command middle)
    (others : CommandsReread place middle commands after)
    (stops : command.isOpen record.arities = true →
      ∀ next ∈ commands.head?, beginsInput next.headKind = false) :
    CommandsReread place record (command :: commands) after := by
  refine ⟨by simpa using first.headed, ?_, fun gap separator behind following complete => ?_⟩
  · intro gap separator blank separates piece member
    rw [commandsPieces] at member
    rcases List.mem_append.mp member with own | other
    · exact first.proper gap blank piece own
    · exact others.proper separator separator separates separates piece other
  · rw [commandsPieces, List.append_assoc]
    obtain ⟨again, token, rest, next, alike, kind, facing, statement⟩ :=
      first.reads gap behind _ (others.ends separator complete)
        fun opens => others.atInput_eq_false (stops opens) separator complete
    obtain ⟨more, last, moreAlike, commands⟩ :=
      others.reads separator separator next following complete
    rw [facing]
    exact ⟨again :: more, last, by simp [commandsAlike, alike, moreAlike],
      .command (by rw [kind, admitted]) statement commands⟩

end CommandsReread

theorem parameters_stop {behind : Token} {tokens : List Token}
    (stops : ∀ token rest name, tokens = token :: rest → token.kind ≠ .reference name) :
    parameters behind tokens = ([], ⟨behind, tokens⟩) := by
  cases tokens with
  | nil => rfl
  | cons token rest =>
      rw [parameters]
      split
      · rename_i name kind
        exact (stops token rest name rfl kind).elim
      · rfl

/-- The parameters of a printed definition end before its body. -/
theorem parameters_printed (names : List String) {following : List Piece}
    (stops : ∀ before token rest name, (Cursor.facing before following).ahead = token :: rest →
      token.kind ≠ .reference name) (behind : Token) :
    ∃ last, parameters behind (Cursor.facing behind
      (names.map (fun name => ⟨[' '], ":" ++ name⟩) ++ following)).ahead =
        (names, .facing last following) := by
  induction names generalizing behind with
  | nil =>
      refine ⟨behind, ?_⟩
      rw [List.map_nil, List.nil_append, parameters_stop (stops behind)]
      rfl
  | cons name names hypothesis =>
      obtain ⟨last, taken⟩ := hypothesis (tokenAt behind ⟨[' '], ":" ++ name⟩)
      refine ⟨last, ?_⟩
      rw [List.map_cons, List.cons_append, facing_cons, parameters, kind_tokenAt,
        Kind.ofText_reference]
      simp only [taken]

namespace StatementRereads

variable {record after : Record}

/-- A primitive is reread if its inputs are. -/
theorem primitive {known : Primitive} {values : List Value} {origin : Origin}
    (inputs : SlotsReread record known.spec.slots values after) :
    StatementRereads record (.primitive known values origin) after := by
  refine ⟨fun gap => ⟨known.name, _, rfl, known.ofText_name⟩, fun gap blank piece member => ?_,
    fun gap behind following ends _ => ?_⟩
  · rcases List.mem_cons.mp member with rfl | within
    · exact ⟨blank, known.isLexeme_name⟩
    · exact inputs.proper piece within
  · obtain ⟨again, last, alike, slots⟩ :=
      inputs.reads (tokenAt behind ⟨gap, known.name⟩) following ends
    have kind := (kind_tokenAt behind ⟨gap, known.name⟩).trans known.ofText_name
    exact ⟨.primitive known again (originOf _), _, _, last, by simp [Command.alike, alike],
      kind, rfl, .primitive kind slots⟩

theorem call {name : String} {values : List Value} {origin : Origin}
    (kind : Kind.ofText name = .procedure name) (lexeme : Token.IsLexeme name)
    (rereads : ∀ value ∈ values, Rereads record.arities value)
    (accepted : (Intake.ofCall record.arities name).Accepts values) :
    StatementRereads record (.call name values false origin) record := by
  refine ⟨fun gap => ⟨name, _, rfl, kind⟩, fun gap blank piece member => ?_,
    fun gap behind following ends stops => ?_⟩
  · rcases List.mem_cons.mp member with rfl | within
    · exact ⟨blank, lexeme⟩
    · exact proper_valuesPieces rereads piece within
  · have opens : Intake.ofCall record.arities name = .following →
        ∀ before, (Cursor.facing before following).atInput = false := by
      intro unknown
      refine stops ?_
      unfold Intake.ofCall at unknown
      split at unknown
      · cases unknown
      · rename_i missing
        rw [Command.isOpen, missing]
        rfl
    obtain ⟨again, last, alike, inputs⟩ :=
      inputs_reread rereads accepted ends opens (tokenAt behind ⟨gap, name⟩)
    have head := (kind_tokenAt behind ⟨gap, name⟩).trans kind
    exact ⟨.call name again false (originOf _), _, _, last, by simp [Command.alike, alike],
      head, rfl, .call head inputs⟩

/-- A definition is reread if its body is. -/
theorem define {name : String} {names : List String} {body : List Command} {origin : Origin}
    (kind : Kind.ofText name = .procedure name) (lexeme : Token.IsLexeme name)
    (references : ∀ parameter ∈ names, Token.IsLexeme (":" ++ parameter))
    (inside : CommandsReread .body (record.announce name names.length) body after) :
    StatementRereads record (.define name names body origin) after := by
  have indented : ∀ character ∈ ['\n', ' ', ' '], Text.isBlank character = true :=
    List.all_eq_true.mp (by decide)
  refine ⟨fun gap => ⟨"TO", _, rfl, ofText_to⟩, fun gap blank piece member => ?_,
    fun gap behind following _ _ => ?_⟩
  · simp only [Command.pieces, List.mem_cons, List.mem_append, List.mem_map, List.not_mem_nil,
      or_false] at member
    rcases member with rfl | rfl | ⟨parameter, known, rfl⟩ | within | rfl
    · exact ⟨blank, isLexeme_reserved "TO" (by simp)⟩
    · exact ⟨ItemsReread.blank_space, lexeme⟩
    · exact ⟨ItemsReread.blank_space, references parameter known⟩
    · exact inside.proper _ _ indented indented piece within
    · exact ⟨List.all_eq_true.mp (by decide), isLexeme_reserved "END" (by simp)⟩
  · have pieces : (Command.define name names body origin).pieces gap ++ following =
        ⟨gap, "TO"⟩ :: ⟨[' '], name⟩ :: (names.map (fun parameter => ⟨[' '], ":" ++ parameter⟩) ++
          (commandsPieces ['\n', ' ', ' '] ['\n', ' ', ' '] body ++
            (closing .body ++ following))) := by
      simp [Command.pieces, closing]
    have head := (kind_tokenAt behind ⟨gap, "TO"⟩).trans ofText_to
    have named := (kind_tokenAt (tokenAt behind ⟨gap, "TO"⟩) ⟨[' '], name⟩).trans kind
    obtain ⟨next, taken⟩ := parameters_printed names
      (inside.not_reference ['\n', ' ', ' '] following nofun)
      (tokenAt (tokenAt behind ⟨gap, "TO"⟩) ⟨[' '], name⟩)
    obtain ⟨again, last, alike, commands⟩ :=
      inside.reads ['\n', ' ', ' '] ['\n', ' ', ' '] next following nofun
    rw [pieces]
    exact ⟨.define name names again (originOf _), _, _, last, by simp [Command.alike, alike], head,
      rfl, .define head named taken commands⟩

end StatementRereads

/-! ## Programs -/

namespace Grammar

theorem isLexeme_of_mem_parameters {behind : Token} {rest : List Token} {names : List String}
    {next : Cursor} (taken : parameters behind rest = (names, next)) (legible : Legible rest) :
    ∀ name ∈ names, Token.IsLexeme (":" ++ name) := by
  induction rest generalizing behind names with
  | nil =>
      cases taken
      simp
  | cons token rest hypothesis =>
      rw [parameters] at taken
      split at taken
      · rename_i name kind
        cases taken
        exact List.forall_mem_cons.mpr ⟨legible.head.reference kind, hypothesis rfl legible.tail⟩
      · cases taken
        simp

theorem Statement.headKind {record after : Record} {token : Token} {rest : List Token}
    {command : Command} {last : Cursor} (read : Statement record token rest command last after) :
    token.kind = command.headKind := by
  cases read with
  | primitive kind _ => exact kind
  | call kind _ => exact kind
  | define kind _ _ _ => exact kind

/-- Where a call that takes what follows has ended, no input could be read. -/
theorem Statement.refused {record after : Record} {token : Token} {rest : List Token}
    {command : Command} {last : Cursor} (read : Statement record token rest command last after)
    (opens : command.isOpen record.arities = true) :
    last.atInput = true → Refused after.arities last := by
  cases read with
  | primitive _ _ => cases opens
  | define _ _ _ _ => cases opens
  | call kind inputs =>
      refine inputs.refused ?_
      rw [Command.isOpen, Option.isNone_iff_eq_none] at opens
      rw [Intake.ofCall, opens]

mutual

/-- A statement that was read from legible tokens is reread. -/
theorem Statement.rereads {record after : Record} {token : Token} {rest : List Token}
    {command : Command} {last : Cursor} :
    Statement record token rest command last after → Legible (token :: rest) →
      after.issues = [] → StatementRereads record command after
  | .primitive _ inputs, legible, clean => .primitive (inputs.rereads legible.tail clean)
  | .call kind inputs, legible, _ => by
      obtain ⟨spelled, lexeme⟩ := legible.head.procedure kind
      exact .call spelled lexeme (inputs.rereads legible.tail) inputs.accepts
  | .define _ named taken inside, legible, clean => by
      have body := inside.rereads (legible.tail.tail.suffix (parameters_suffix taken)) clean
      obtain ⟨spelled, lexeme⟩ := legible.tail.head.procedure named
      exact .define spelled lexeme (isLexeme_of_mem_parameters taken legible.tail.tail) body

theorem Slots.rereads {record after : Record} {slots : List Slot} {cursor last : Cursor}
    {values : List Value} :
    Slots record slots cursor values last after → Legible cursor.ahead → after.issues = [] →
      SlotsReread record slots values after
  | .none, _, _ => .nil
  | .datum _ first allowed others, legible, clean =>
      .datum (first.rereads legible) allowed
        (others.rereads (legible.suffix first.isPast.suffix) clean)
  | .block _ inside others, legible, clean =>
      .block (inside.rereads legible.tail (others.clean_before clean))
        (others.rereads (legible.tail.suffix inside.suffix) clean)

/-- So are commands in a row. -/
theorem Commands.rereads {place : Place} {record after : Record} {cursor last : Cursor}
    {commands : List Command} :
    Commands place record cursor commands last after → Legible cursor.ahead →
      after.issues = [] → CommandsReread place record commands after
  | .close _, _, _ => .nil
  | .finish, _, _ => .nil
  | .command admitted first others, legible, clean => by
      have own := first.rereads legible (others.clean_before clean)
      have more := others.rereads (legible.tail.suffix first.suffix) clean
      rw [first.headKind] at admitted
      exact .cons admitted own more fun opens =>
        others.not_beginsInput clean (first.refused opens)
  | .skip _ noted others, _, clean => (noted (others.clean_before clean)).elim
  | .abandon noted, _, clean => (noted clean).elim

end

end Grammar

/-- The numbers in a text are all finite, shown without an exponent and read back as shown. -/
def HasPlainLiterals (text : String) : Prop :=
  ∀ token ∈ Token.scan text, token.kind = .number →
    ∀ number ∈ Number.read? token.lexeme, Number.IsPlain number

instance (text : String) : Decidable (HasPlainLiterals text) :=
  inferInstanceAs (Decidable (∀ token ∈ Token.scan text, token.kind = .number →
    ∀ number ∈ Number.read? token.lexeme, Number.IsPlain number))

theorem legible_scan {text : String} (plain : HasPlainLiterals text) :
    Grammar.Legible (Token.scan text) :=
  fun token member => ⟨genuine_scan text token member, Token.isLexeme_of_mem_scan member,
    plain token member⟩

/-- A printed program is scanned into the tokens of its pieces. -/
theorem scan_render {program : Program}
    (proper : ∀ piece ∈ commandsPieces [] ['\n'] program.commands, piece.IsProper) :
    Token.scan program.render = Piece.layout 0 (commandsPieces [] ['\n'] program.commands) := by
  have written : Piece.written (commandsPieces [] ['\n'] program.commands) =
      program.render.toList := by
    rw [written_commandsPieces, Program.render, toList_intercalate]
    rfl
  rw [← String.ofList_toList (s := program.render), ← written]
  exact Piece.scan_written proper (isChain_commandsPieces [] (List.cons_ne_nil _ _) _)

/-- A program without issues is printed as a text that reads as the same program. -/
theorem ofText_render (text : String) (clean : (ofText text).isClean = true)
    (plain : HasPlainLiterals text) :
    (ofText (ofText text).render).isClean = true ∧
      commandsAlike (ofText (ofText text).render).commands (ofText text).commands = true := by
  obtain ⟨last, after, read, issues⟩ := commands_of_ofTokens text (Token.scan text)
  have tidy : after.issues = [] := by
    have unmarked : (ofTokens none text (Token.scan text)).issues = [] := List.isEmpty_iff.mp clean
    rwa [issues, List.reverse_eq_nil_iff] at unmarked
  have rereads : CommandsReread .top .empty (ofText text).commands after :=
    read.rereads (legible_scan plain) tidy
  obtain ⟨again, final, alike, reads⟩ := rereads.reads [] ['\n'] (start []).behind [] fun _ => rfl
  have tokens := scan_render (rereads.proper [] ['\n'] (by simp) (List.all_eq_true.mp (by decide)))
  have whole : ofText (ofText text).render = ⟨again, (ofText text).render, []⟩ := by
    simp only [closing, List.append_nil] at reads
    rw [ofText, tokens]
    exact ofTokens_of_commands reads tidy _
  rw [whole]
  exact ⟨rfl, alike⟩

/-- A call before its definition and one after it, with signs in all their places. -/
def spinning : String :=
  "show spin -3 [a -4] to spin :x repeat 2 [fd -(:x)] end spin 1.5 - 2"

theorem spinning_render :
    (ofText spinning).isClean = true ∧ HasPlainLiterals spinning ∧
      (ofText (ofText spinning).render).isClean = true ∧
      commandsAlike (ofText (ofText spinning).render).commands (ofText spinning).commands =
        true := by
  have clean : (ofText spinning).isClean = true := by decide +kernel
  have plain : HasPlainLiterals spinning := by decide +kernel
  exact ⟨clean, plain, ofText_render spinning clean plain⟩

end Program

end Logo
