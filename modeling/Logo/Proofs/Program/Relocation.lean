import Logo.Proofs.Program.Statements
import Mathlib.Data.List.Chain

/-!
# Tokens in other places

The same tokens may stand in other places of another text: further down, or
with other gaps between them.  A relocation says where the ends of tokens go.
It moves tokens, the origins of the commands that are made of them, and the
issues that point to them; nothing else in a tree depends on where tokens stand.

Reading looks at places only around minus signs: whether one stands right
before the next token, and whether a gap is before it.  A relocation that keeps
these seams is invisible to the readers.
-/

namespace Logo

/-! ## Trees with other origins -/

mutual

/-- The same value, its commands placed elsewhere. -/
def Value.mapOrigins (place : Origin → Origin) : Value → Value
  | .list items => .list (valuesMapOrigins place items)
  | .block commands => .block (commandsMapOrigins place commands)
  | .operation glyph left right =>
      .operation glyph (left.mapOrigins place) (right.mapOrigins place)
  | .reporter command => .reporter (command.mapOrigins place)
  | .procedure name parameters body =>
      .procedure name parameters (commandsMapOrigins place body)
  | .number value => .number value
  | .word text => .word text
  | .truth value => .truth value
  | .reference name => .reference name

/-- The same values, their commands placed elsewhere. -/
def valuesMapOrigins (place : Origin → Origin) : List Value → List Value
  | [] => []
  | value :: rest => value.mapOrigins place :: valuesMapOrigins place rest

/-- The same command, placed elsewhere with all commands in it. -/
def Command.mapOrigins (place : Origin → Origin) : Command → Command
  | .primitive primitive inputs origin =>
      .primitive primitive (valuesMapOrigins place inputs) (place origin)
  | .define name parameters body origin =>
      .define name parameters (commandsMapOrigins place body) (place origin)
  | .call name inputs asExpression origin =>
      .call name (valuesMapOrigins place inputs) asExpression (place origin)

/-- The same commands, placed elsewhere. -/
def commandsMapOrigins (place : Origin → Origin) : List Command → List Command
  | [] => []
  | command :: rest => command.mapOrigins place :: commandsMapOrigins place rest

end

/-- Commands without their places: what is left is what they do. -/
def withoutOrigins : List Command → List Command :=
  commandsMapOrigins fun _ => default

mutual

/-- A value stays as it is if its origins do. -/
theorem Value.mapOrigins_id : ∀ value : Value, value.mapOrigins id = value
  | .list items => by rw [Value.mapOrigins, valuesMapOrigins_id items]
  | .block commands => by rw [Value.mapOrigins, commandsMapOrigins_id commands]
  | .operation _ left right => by rw [Value.mapOrigins, left.mapOrigins_id, right.mapOrigins_id]
  | .reporter command => by rw [Value.mapOrigins, command.mapOrigins_id]
  | .procedure _ _ body => by rw [Value.mapOrigins, commandsMapOrigins_id body]
  | .number _ | .word _ | .truth _ | .reference _ => by rw [Value.mapOrigins]

theorem valuesMapOrigins_id : ∀ values : List Value, valuesMapOrigins id values = values
  | [] => rfl
  | value :: rest => by rw [valuesMapOrigins, value.mapOrigins_id, valuesMapOrigins_id rest]

theorem Command.mapOrigins_id : ∀ command : Command, command.mapOrigins id = command
  | .primitive _ inputs _ => by rw [Command.mapOrigins, valuesMapOrigins_id inputs, id]
  | .define _ _ body _ => by rw [Command.mapOrigins, commandsMapOrigins_id body, id]
  | .call _ inputs _ _ => by rw [Command.mapOrigins, valuesMapOrigins_id inputs, id]

theorem commandsMapOrigins_id :
    ∀ commands : List Command, commandsMapOrigins id commands = commands
  | [] => rfl
  | command :: rest => by
      rw [commandsMapOrigins, command.mapOrigins_id, commandsMapOrigins_id rest]

end

mutual

/-- Origins may be moved in one go. -/
theorem Value.mapOrigins_mapOrigins (first second : Origin → Origin) :
    ∀ value : Value, (value.mapOrigins first).mapOrigins second = value.mapOrigins (second ∘ first)
  | .list items => by simp only [Value.mapOrigins, valuesMapOrigins_mapOrigins first second items]
  | .block commands => by
      simp only [Value.mapOrigins, commandsMapOrigins_mapOrigins first second commands]
  | .operation _ left right => by
      simp only [Value.mapOrigins, left.mapOrigins_mapOrigins, right.mapOrigins_mapOrigins]
  | .reporter command => by simp only [Value.mapOrigins, command.mapOrigins_mapOrigins]
  | .procedure _ _ body => by
      simp only [Value.mapOrigins, commandsMapOrigins_mapOrigins first second body]
  | .number _ | .word _ | .truth _ | .reference _ => by simp only [Value.mapOrigins]

theorem valuesMapOrigins_mapOrigins (first second : Origin → Origin) :
    ∀ values : List Value, valuesMapOrigins second (valuesMapOrigins first values) =
      valuesMapOrigins (second ∘ first) values
  | [] => rfl
  | value :: rest => by
      simp only [valuesMapOrigins, value.mapOrigins_mapOrigins,
        valuesMapOrigins_mapOrigins first second rest]

theorem Command.mapOrigins_mapOrigins (first second : Origin → Origin) :
    ∀ command : Command,
      (command.mapOrigins first).mapOrigins second = command.mapOrigins (second ∘ first)
  | .primitive _ inputs _ => by
      simp only [Command.mapOrigins, valuesMapOrigins_mapOrigins first second inputs,
        Function.comp_apply]
  | .define _ _ body _ => by
      simp only [Command.mapOrigins, commandsMapOrigins_mapOrigins first second body,
        Function.comp_apply]
  | .call _ inputs _ _ => by
      simp only [Command.mapOrigins, valuesMapOrigins_mapOrigins first second inputs,
        Function.comp_apply]

theorem commandsMapOrigins_mapOrigins (first second : Origin → Origin) :
    ∀ commands : List Command, commandsMapOrigins second (commandsMapOrigins first commands) =
      commandsMapOrigins (second ∘ first) commands
  | [] => rfl
  | command :: rest => by
      simp only [commandsMapOrigins, command.mapOrigins_mapOrigins,
        commandsMapOrigins_mapOrigins first second rest]

end

theorem withoutOrigins_mapOrigins (place : Origin → Origin) (commands : List Command) :
    withoutOrigins (commandsMapOrigins place commands) = withoutOrigins commands :=
  commandsMapOrigins_mapOrigins place _ commands

mutual

/-- How a tree is written does not depend on where it was read. -/
theorem Value.render_mapOrigins (place : Origin → Origin) (style : Style) :
    ∀ value : Value, (value.mapOrigins place).render style = value.render style
  | .list items => by
      simp only [Value.mapOrigins, Value.render, renderValues_mapOrigins place .shown items]
  | .block commands => by
      simp only [Value.mapOrigins, Value.render, renderCommands_mapOrigins place commands]
  | .operation _ left right => by
      simp only [Value.mapOrigins, Value.render, left.render_mapOrigins, right.render_mapOrigins]
  | .reporter command => by simp only [Value.mapOrigins, Value.render, command.render_mapOrigins]
  | .procedure _ _ _ => by simp only [Value.mapOrigins, Value.render]
  | .number _ | .word _ | .truth _ | .reference _ => by simp only [Value.mapOrigins]

theorem renderValues_mapOrigins (place : Origin → Origin) (style : Style) :
    ∀ values : List Value,
      renderValues style (valuesMapOrigins place values) = renderValues style values
  | [] => rfl
  | value :: rest => by
      simp only [valuesMapOrigins, renderValues, value.render_mapOrigins,
        renderValues_mapOrigins place style rest]

/-- Where a command stands does not show in its text. -/
theorem Command.render_mapOrigins (place : Origin → Origin) :
    ∀ command : Command, (command.mapOrigins place).render = command.render
  | .primitive _ inputs _ => by
      simp only [Command.mapOrigins, Command.render, renderValues_mapOrigins place .source inputs]
  | .define _ _ body _ => by
      simp only [Command.mapOrigins, Command.render, renderCommands_mapOrigins place body]
  | .call _ inputs _ _ => by
      simp only [Command.mapOrigins, Command.render, renderValues_mapOrigins place .source inputs]

theorem renderCommands_mapOrigins (place : Origin → Origin) :
    ∀ commands : List Command,
      renderCommands (commandsMapOrigins place commands) = renderCommands commands
  | [] => rfl
  | command :: rest => by
      simp only [commandsMapOrigins, renderCommands, command.render_mapOrigins,
        renderCommands_mapOrigins place rest]

end

namespace Program

/-- Where a value stands does not matter to an operator. -/
@[simp]
theorem allowsOperand_mapOrigins (place : Origin → Origin) (value : Value) :
    allowsOperand (value.mapOrigins place) = allowsOperand value := by
  cases value <;> rfl

@[simp]
theorem allowsInput_mapOrigins (place : Origin → Origin) (shape : Shape) (value : Value) :
    allowsInput shape (value.mapOrigins place) = allowsInput shape value := by
  cases shape <;> cases value <;> rfl

theorem applySign_mapOrigins (place : Origin → Origin) (glyph : String) (operand : Value) :
    applySign glyph (operand.mapOrigins place) = (applySign glyph operand).mapOrigins place := by
  unfold applySign
  split
  · rfl
  · cases operand <;> rfl

end Program

/-! ## Relocations -/

/-- Where the ends of tokens go in another text. -/
structure Relocation where
  start : Nat → Nat
  stop : Nat → Nat

namespace Relocation

/-- Every token stays where it is. -/
def stay : Relocation :=
  ⟨id, id⟩

/-- Every token moves by a distance to the right. -/
def shift (distance : Nat) : Relocation :=
  ⟨(· + distance), (· + distance)⟩

/-- Where a command goes. -/
def origin (relocation : Relocation) (origin : Origin) : Origin :=
  ⟨origin.document, relocation.start origin.start, relocation.stop origin.stop⟩

@[simp]
theorem origin_stay : stay.origin = id :=
  rfl

end Relocation

/-- A token in its new place. -/
def Token.relocate (relocation : Relocation) (token : Token) : Token :=
  { token with start := relocation.start token.start, stop := relocation.stop token.stop }

/-- An issue with a token in its new place. -/
def Issue.relocate (relocation : Relocation) (issue : Issue) : Issue :=
  { issue with token := issue.token.relocate relocation }

/-- A place between tokens that have moved. -/
def Program.Cursor.relocate (relocation : Relocation) (cursor : Program.Cursor) : Program.Cursor :=
  ⟨cursor.behind.relocate relocation, cursor.ahead.map (Token.relocate relocation)⟩

namespace Token

variable (relocation : Relocation) (token : Token)

@[simp]
theorem kind_relocate : (token.relocate relocation).kind = token.kind :=
  rfl

@[simp]
theorem lexeme_relocate : (token.relocate relocation).lexeme = token.lexeme :=
  rfl

@[simp]
theorem text_relocate : (token.relocate relocation).text = token.text :=
  rfl

@[simp]
theorem relocate_stay : Token.relocate .stay = id :=
  rfl

end Token

@[simp]
theorem Issue.relocate_stay : Issue.relocate .stay = id :=
  rfl

namespace Relocation

/--
A relocation keeps the seam between neighbours as far as it matters: behind a
minus sign, whether there is a gap, and before one, whether there is.
-/
structure KeepsSeam (relocation : Relocation) (left right : Token) : Prop where
  behindMinus : left.kind = .operator "-" →
    (right.relocate relocation).follows (left.relocate relocation) = right.follows left
  beforeMinus : right.kind = .operator "-" →
    ((left.relocate relocation).stop < (right.relocate relocation).start ↔ left.stop < right.start)

theorem keepsSeam_stay (left right : Token) : stay.KeepsSeam left right :=
  ⟨fun _ => rfl, fun _ => Iff.rfl⟩

theorem keepsSeam_shift (distance : Nat) (left right : Token) :
    (shift distance).KeepsSeam left right := by
  constructor
  · intro _
    rw [Bool.eq_iff_iff]
    simp [Token.follows, Token.relocate, shift]
  · intro _
    simp [Token.relocate, shift]

end Relocation

namespace Program

variable (relocation : Relocation)

/-- The token just read and those ahead. -/
def Cursor.row (cursor : Cursor) : List Token :=
  cursor.behind :: cursor.ahead

@[simp]
theorem Cursor.row_mk (behind : Token) (ahead : List Token) :
    Cursor.row ⟨behind, ahead⟩ = behind :: ahead :=
  rfl

@[simp]
theorem Cursor.relocate_mk (behind : Token) (ahead : List Token) :
    Cursor.relocate relocation ⟨behind, ahead⟩ =
      ⟨behind.relocate relocation, ahead.map (Token.relocate relocation)⟩ :=
  rfl

theorem Cursor.next_relocate (cursor : Cursor) :
    (cursor.relocate relocation).next = cursor.next.relocate relocation := by
  obtain ⟨behind, _ | ⟨token, rest⟩⟩ := cursor <;> rfl

theorem Cursor.next_mem_row (cursor : Cursor) : cursor.next ∈ cursor.row := by
  obtain ⟨behind, _ | ⟨token, rest⟩⟩ := cursor
  · exact List.mem_singleton_self behind
  · exact List.mem_cons_of_mem _ (List.mem_cons_self ..)

@[simp]
theorem Cursor.atEnd_relocate (cursor : Cursor) :
    (cursor.relocate relocation).atEnd = cursor.atEnd := by
  obtain ⟨behind, _ | ⟨token, rest⟩⟩ := cursor <;> rfl

@[simp]
theorem Cursor.atInput_relocate (cursor : Cursor) :
    (cursor.relocate relocation).atInput = cursor.atInput := by
  obtain ⟨behind, _ | ⟨token, rest⟩⟩ := cursor <;> rfl

variable {relocation}

/-- A minus sign keeps its side. -/
theorem Cursor.atNegative_relocate {cursor : Cursor}
    (seams : cursor.row.IsChain relocation.KeepsSeam) :
    (cursor.relocate relocation).atNegative = cursor.atNegative := by
  obtain ⟨behind, _ | ⟨minus, _ | ⟨after, rest⟩⟩⟩ := cursor
  · rfl
  · rfl
  · obtain ⟨before, others⟩ := List.isChain_cons_cons.mp seams
    have glued := (List.isChain_cons_cons.mp others).1.behindMinus
    simp only [Cursor.relocate_mk, List.map_cons, Cursor.atNegative, Token.kind_relocate]
    by_cases sign : minus.kind = .operator "-"
    · rw [glued sign, decide_eq_decide.mpr (before.beforeMinus sign)]
    · rw [beq_eq_false_iff_ne.mpr sign]
      rfl

/-- A sign is a sign elsewhere, if seams are kept. -/
theorem Grammar.isSignOf_relocate {token : Token} {rest : List Token}
    (seams : (token :: rest).IsChain relocation.KeepsSeam) :
    isSignOf (token.relocate relocation) (rest.map (Token.relocate relocation)) =
      isSignOf token rest := by
  cases rest with
  | nil => rfl
  | cons digits rest =>
      have glued := (List.isChain_cons_cons.mp seams).1.behindMinus
      simp only [List.map_cons, isSignOf, Token.kind_relocate]
      by_cases sign : token.kind = .operator "-"
      · rw [glued sign]
      · rw [beq_eq_false_iff_ne.mpr sign]
        rfl

/-- Parameters are the same elsewhere. -/
theorem parameters_relocate (behind : Token) (tokens : List Token) :
    parameters (behind.relocate relocation) (tokens.map (Token.relocate relocation)) =
      ((parameters behind tokens).1, (parameters behind tokens).2.relocate relocation) := by
  induction tokens generalizing behind with
  | nil => rfl
  | cons token rest hypothesis =>
      simp only [List.map_cons, parameters, Token.kind_relocate]
      split
      · rw [hypothesis token]
      · rfl

end Program

end Logo
