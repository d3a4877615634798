import Logo.Proofs.Program.Statements
import Mathlib.Data.List.Forall2

/-!
# Programs are well formed

Running a program and checking it rely on the shape of its tree: a primitive
has an input for each of its slots, blocks stand in block slots and nowhere
else, only what reports a value stands in value position, and so on.  All of
this is said here about trees alone and proved of every tree that can be read,
also from a text with issues: neither passing over a token in the body of a
definition nor giving up an input of a call leaves a tree behind that is not
well formed.
-/

namespace Logo

namespace Value

def isBlock : Value → Bool
  | .block _ => true
  | _ => false

def isList : Value → Bool
  | .list _ => true
  | _ => false

def isNumber : Value → Bool
  | .number _ => true
  | _ => false

def isWord : Value → Bool
  | .word _ => true
  | _ => false

/-- Whether a value is a word that cannot be read as a number. -/
def isMereWord : Value → Bool
  | .word text => (Number.read? text).isNone
  | _ => false

/-- An operator may be applied to the value, as far as the text shows. -/
structure IsOperand (value : Value) : Prop where
  noList : value.isList = false
  noBlock : value.isBlock = false
  numeric : value.isMereWord = false

end Value

/-- A value may fill a slot that expects a shape, as far as the text shows. -/
def Shape.Fits (value : Value) : Shape → Prop
  | .number => value.isList = false ∧ value.isMereWord = false
  | .word => value.isList = false
  | .list => value.isNumber = false ∧ value.isWord = false
  | .anything => True

/-- What a slot may hold: a block slot holds a block, and no other slot does. -/
def Slot.Holds : Slot → Value → Prop
  | .block, value => value.isBlock = true
  | .datum shape, value => value.isBlock = false ∧ shape.Fits value

/-- A command that may stand in value position. -/
def Command.IsReporter : Command → Prop
  | .primitive known _ _ => known.spec.reports = true
  | .call _ _ asExpression _ => asExpression = true
  | .define _ _ _ _ => False

/-- A command that may stand as a statement. -/
def Command.IsStatement : Command → Prop
  | .call _ _ asExpression _ => asExpression = false
  | _ => True

mutual

/-- A value that every node below it is well formed in. -/
def Value.WellFormed : Value → Prop
  | .number _ => True
  | .word _ => True
  | .reference _ => True
  | .truth _ => False
  | .procedure _ _ _ => False
  | .list items => ItemsWellFormed items
  | .block commands => StatementsWellFormed commands
  | .operation glyph left right =>
      glyph ∈ Kind.operators ∧ left.IsOperand ∧ right.IsOperand ∧ left.WellFormed ∧
        right.WellFormed
  | .reporter command => command.IsReporter ∧ command.WellFormed

/-- What a list is made of: numbers, words and lists of such. -/
def Value.IsItem : Value → Prop
  | .number _ => True
  | .word _ => True
  | .list items => ItemsWellFormed items
  | _ => False

/-- The items of a list are what lists are made of. -/
def ItemsWellFormed : List Value → Prop
  | [] => True
  | item :: rest => item.IsItem ∧ ItemsWellFormed rest

/-- Inputs that are all well formed. -/
def ValuesWellFormed : List Value → Prop
  | [] => True
  | value :: rest => value.WellFormed ∧ ValuesWellFormed rest

/-- A command with the inputs that it takes, all of them well formed. -/
def Command.WellFormed : Command → Prop
  | .primitive known inputs _ =>
      inputs.length = known.spec.arity ∧ List.Forall₂ Slot.Holds known.spec.slots inputs ∧
        ValuesWellFormed inputs
  | .define _ _ body _ => StatementsWellFormed body
  | .call _ inputs _ _ => (∀ input ∈ inputs, input.isBlock = false) ∧ ValuesWellFormed inputs

/-- Well-formed commands, each of which may stand as a statement. -/
def StatementsWellFormed : List Command → Prop
  | [] => True
  | command :: rest => command.IsStatement ∧ command.WellFormed ∧ StatementsWellFormed rest

end

/-- The kind of a token is that of its text. -/
def Token.IsGenuine (token : Token) : Prop :=
  token.kind = .ofText token.lexeme

theorem Kind.mem_operators_of_ofText {text glyph : String}
    (kind : Kind.ofText text = .operator glyph) : glyph ∈ Kind.operators := by
  unfold Kind.ofText at kind
  split at kind
  · cases kind
  · split at kind
    all_goals first | cases kind | skip
    split at kind
    · rename_i known
      cases kind
      simpa using known
    · unfold Kind.ofName at kind
      dsimp only at kind
      split at kind
      · cases kind
      split at kind
      · cases kind
      split at kind <;> cases kind

namespace Program

/-- What an operator may take is an operand. -/
theorem isOperand_of_allowsOperand {value : Value} (allowed : allowsOperand value = true) :
    value.IsOperand := by
  cases value with
  | list | block => cases allowed
  | word text =>
      refine ⟨rfl, rfl, ?_⟩
      simpa [Value.isMereWord, allowsOperand, isNumericWord, Option.isSome_iff_ne_none]
        using allowed
  | _ => exact ⟨rfl, rfl, rfl⟩

theorem fits_of_allowsInput {shape : Shape} {value : Value}
    (allowed : allowsInput shape value = true) : shape.Fits value := by
  cases shape <;> cases value <;>
    simp_all [Shape.Fits, allowsInput, Value.isList, Value.isMereWord, Value.isNumber,
      Value.isWord, isNumericWord, Option.isSome_iff_ne_none]

namespace Grammar

theorem Items.wellFormed {cursor last : Cursor} {items : List Value}
    (read : Items cursor items last) : ItemsWellFormed items := by
  induction read with
  | close => simp [ItemsWellFormed]
  | list _ _ _ inside others => simp [ItemsWellFormed, Value.IsItem, inside, others]
  | number _ _ _ others | negative _ _ _ others | word _ _ _ others =>
      simp [ItemsWellFormed, Value.IsItem, others]

/-- Inputs meet what a command takes: they fit the shapes, if there are any. -/
def IntakeMet (values : List Value) : Intake → Prop
  | .each shapes => List.Forall₂ Slot.Holds (shapes.map .datum) values
  | .following => True

theorem applySign_wellFormed {glyph : String} {operand : Value} (operates : operand.IsOperand)
    (below : operand.WellFormed) :
    (applySign glyph operand).WellFormed ∧ (applySign glyph operand).isBlock = false := by
  unfold applySign
  split
  · exact ⟨below, operates.noBlock⟩
  · split
    · simp [Value.WellFormed, Value.isBlock]
    · have zero : (Value.number 0).IsOperand := ⟨rfl, rfl, rfl⟩
      simp [Value.WellFormed, Value.isBlock, Kind.operators, zero, operates, below]

theorem primitive_wellFormed {primitive : Primitive} {inputs : List Value} {origin : Origin}
    (held : List.Forall₂ Slot.Holds primitive.spec.slots inputs) (below : ValuesWellFormed inputs) :
    (Command.primitive primitive inputs origin).WellFormed := by
  rw [Command.WellFormed]
  exact ⟨held.length_eq.symm, held, below⟩

/-- Tokens ahead that are all genuine. -/
def Genuine (tokens : List Token) : Prop :=
  ∀ token ∈ tokens, token.IsGenuine

theorem Genuine.suffix {tokens rest : List Token} (genuine : Genuine tokens)
    (suffix : rest <:+ tokens) : Genuine rest :=
  fun token member => genuine token (suffix.subset member)

theorem Genuine.tail {token : Token} {rest : List Token} (genuine : Genuine (token :: rest)) :
    Genuine rest :=
  genuine.suffix (List.suffix_cons token rest)

theorem Genuine.mem_operators {token : Token} {rest : List Token} {glyph : String}
    (genuine : Genuine (token :: rest)) (kind : token.kind = .operator glyph) :
    glyph ∈ Kind.operators := by
  have own : token.IsGenuine := genuine token (List.mem_cons_self ..)
  exact Kind.mem_operators_of_ofText (own.symm.trans kind)

mutual

/-- An expression that is read is well formed, and no block. -/
theorem Expression.wellFormed {arities : Arities} {cursor last : Cursor} {value : Value} :
    Expression arities cursor value last → Genuine cursor.ahead →
      value.WellFormed ∧ value.isBlock = false
  | .single first _, genuine => first.wellFormed genuine
  | .operation first kind _ second leftAllowed rightAllowed, genuine => by
      have ahead := genuine.suffix first.isPast.suffix
      have known := ahead.mem_operators kind
      have left := first.wellFormed genuine
      have right := second.wellFormed ahead.tail
      refine ⟨?_, rfl⟩
      rw [Value.WellFormed]
      exact ⟨known, isOperand_of_allowsOperand leftAllowed, isOperand_of_allowsOperand rightAllowed,
        left.1, right.1⟩

theorem Primary.wellFormed {arities : Arities} {cursor last : Cursor} {value : Value} :
    Primary arities cursor value last → Genuine cursor.ahead →
      value.WellFormed ∧ value.isBlock = false
  | .number _ _, _ => by simp [Value.WellFormed, Value.isBlock]
  | .word _, _ => by simp [Value.WellFormed, Value.isBlock]
  | .reference _, _ => by simp [Value.WellFormed, Value.isBlock]
  | .list _ inside, _ => by simp [Value.WellFormed, Value.isBlock, inside.wellFormed]
  | .parenthesis _ inside _, genuine => inside.wellFormed genuine.tail
  | .sign _ _ signed allowed, genuine =>
      applySign_wellFormed (isOperand_of_allowsOperand allowed) (signed.wellFormed genuine.tail).1
  | .reporter _ form inputs, genuine => by
      obtain ⟨met, below, -⟩ := inputs.wellFormed genuine.tail
      rw [Value.WellFormed, Command.IsReporter]
      refine ⟨⟨?_, primitive_wellFormed ?_ below⟩, rfl⟩
      · simp [Spec.reports, form]
      · rw [Spec.slots, form]
        exact met
  | .call _ inputs, genuine => by
      obtain ⟨-, below, noBlock⟩ := inputs.wellFormed genuine.tail
      simp only [Value.WellFormed, Command.IsReporter, Command.WellFormed, Value.isBlock]
      exact ⟨⟨trivial, noBlock, below⟩, trivial⟩

/-- Inputs that are read are as many as asked for, and well formed. -/
theorem Inputs.wellFormed {arities : Arities} {intake : Intake} {cursor last : Cursor}
    {values : List Value} :
    Inputs arities intake cursor values last → Genuine cursor.ahead →
      IntakeMet values intake ∧ ValuesWellFormed values ∧ ∀ value ∈ values, value.isBlock = false
  | .none, _ => by simp [IntakeMet, ValuesWellFormed]
  | .stop _, _ => by simp [IntakeMet, ValuesWellFormed]
  | .each _ first allowed others, genuine => by
      obtain ⟨below, noBlock⟩ := first.wellFormed genuine
      obtain ⟨met, more, noBlocks⟩ := others.wellFormed (genuine.suffix first.isPast.suffix)
      refine ⟨.cons ⟨noBlock, fits_of_allowsInput allowed⟩ met, ?_, ?_⟩
      · simp [ValuesWellFormed, below, more]
      · simpa using ⟨noBlock, noBlocks⟩
  | .further _ first others, genuine => by
      obtain ⟨below, noBlock⟩ := first.wellFormed genuine
      obtain ⟨-, more, noBlocks⟩ := others.wellFormed (genuine.suffix first.isPast.suffix)
      refine ⟨trivial, ?_, ?_⟩
      · simp [ValuesWellFormed, below, more]
      · simpa using ⟨noBlock, noBlocks⟩

end

mutual

/-- A statement that is read is well formed. -/
theorem Statement.wellFormed {record after : Record} {token : Token} {rest : List Token}
    {command : Command} {last : Cursor} :
    Statement record token rest command last after → Genuine rest →
      command.IsStatement ∧ command.WellFormed
  | .primitive _ inputs, genuine => by
      obtain ⟨held, below⟩ := inputs.wellFormed genuine
      exact ⟨trivial, primitive_wellFormed held below⟩
  | .call _ inputs, genuine => by
      obtain ⟨-, below, noBlock⟩ := inputs.wellFormed genuine
      rw [Command.WellFormed]
      exact ⟨rfl, noBlock, below⟩
  | .define _ _ taken inside, genuine => by
      rw [Command.WellFormed]
      exact ⟨trivial, inside.wellFormed (genuine.tail.suffix (parameters_suffix taken))⟩

theorem Slots.wellFormed {record after : Record} {slots : List Slot} {cursor last : Cursor}
    {values : List Value} :
    Slots record slots cursor values last after → Genuine cursor.ahead →
      List.Forall₂ Slot.Holds slots values ∧ ValuesWellFormed values
  | .none, _ => by simp [ValuesWellFormed]
  | .datum _ first allowed others, genuine => by
      obtain ⟨below, noBlock⟩ := first.wellFormed genuine
      obtain ⟨held, more⟩ := others.wellFormed (genuine.suffix first.isPast.suffix)
      rw [ValuesWellFormed]
      exact ⟨.cons ⟨noBlock, fits_of_allowsInput allowed⟩ held, below, more⟩
  | .block _ inside others, genuine => by
      have below := inside.wellFormed genuine.tail
      obtain ⟨held, more⟩ := others.wellFormed (genuine.tail.suffix inside.suffix)
      rw [ValuesWellFormed, Value.WellFormed]
      exact ⟨.cons rfl held, below, more⟩

/-- So are commands in a row. -/
theorem Commands.wellFormed {place : Place} {record after : Record} {cursor last : Cursor}
    {commands : List Command} :
    Commands place record cursor commands last after → Genuine cursor.ahead →
      StatementsWellFormed commands
  | .close _, _ => by simp [StatementsWellFormed]
  | .finish, _ => by simp [StatementsWellFormed]
  | .abandon _, _ => by simp [StatementsWellFormed]
  | .command _ first others, genuine => by
      obtain ⟨stands, below⟩ := first.wellFormed genuine.tail
      rw [StatementsWellFormed]
      exact ⟨stands, below, others.wellFormed (genuine.tail.suffix first.suffix)⟩
  | .skip _ _ others, genuine => others.wellFormed genuine.tail

end

end Grammar

/-- The tokens of a text are genuine. -/
theorem genuine_scan (text : String) : Grammar.Genuine (Token.scan text) := by
  intro token member
  obtain ⟨lexeme, -, rfl⟩ := List.mem_map.mp member
  rfl

/-- A program that is read is well formed. -/
theorem ofTokens_wellFormed (source : String) {tokens : List Token}
    (genuine : Grammar.Genuine tokens) :
    StatementsWellFormed (ofTokens none source tokens).commands := by
  obtain ⟨last, after, read, -⟩ := Grammar.commands_of_ofTokens source tokens
  exact read.wellFormed genuine

/-- Every tree that is made of a text is well formed, whatever is wrong with the text. -/
theorem ofText_wellFormed (text : String) : StatementsWellFormed (ofText text).commands :=
  ofTokens_wellFormed text (genuine_scan text)

end Program

end Logo
