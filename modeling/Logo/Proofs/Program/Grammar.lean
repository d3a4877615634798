import Logo.Program.Statement

/-!
# The grammar of programs

What can be read where, said as rules.  A rule for a part of a program relates
the place where the part begins, the tree that is made of it and the place
after it.  The readers work through these rules from left to right with a
budget; the rules themselves know nothing of budgets, so whatever holds of all
trees that are read is proved along the rules.

Two rules need more than what they read.  A call of a procedure whose
definition has not begun ends where the next input cannot be read, which is
said by the failure of the reader there.  And in the body of a definition, as
at top level, a token may be passed over after an issue has been noted.
-/

namespace Logo.Program

/-- A budget that is enough to read an expression from here. -/
def Cursor.demand (cursor : Cursor) : Nat :=
  4 * cursor.ahead.length + 2

/-- Whether an expression may end here: any operator ahead begins another one. -/
def Cursor.EndsExpression (cursor : Cursor) : Prop :=
  ∀ token rest glyph, cursor.ahead = token :: rest → token.kind = .operator glyph →
    cursor.atNegative = true

/-- No expression can be read from here, whatever the budget. -/
def Refused (arities : Arities) (cursor : Cursor) : Prop :=
  ∀ budget, cursor.demand ≤ budget → ∃ issue, expression none arities budget cursor = .error issue

/-- The inputs that a command takes: one for each shape, or as many as follow. -/
inductive Intake where
  | each (shapes : List Shape)
  | following

/-- The inputs that a call takes. -/
def Intake.ofCall (arities : Arities) (name : String) : Intake :=
  match arities.lookup name with
  | some arity => .each (List.replicate arity .anything)
  | none => .following

namespace Grammar

/-- Whether a token in a list is the sign of the number after it. -/
def isSignOf (token : Token) (rest : List Token) : Bool :=
  match rest with
  | digits :: _ => token.kind == .operator "-" && digits.kind == .number && digits.follows token
  | [] => false

/-- Whether a kind of token in a list is a word there, unless it is a sign. -/
def isItem : Kind → Bool
  | .openBracket | .closeBracket | .number => false
  | _ => true

/-- The items of a list, with the bracket that closes it. -/
inductive Items : Cursor → List Value → Cursor → Prop where
  | close {behind token : Token} {rest : List Token} (kind : token.kind = .closeBracket) :
      Items ⟨behind, token :: rest⟩ [] ⟨token, rest⟩
  | list {behind token : Token} {rest : List Token} {inner items : List Value}
      {between last : Cursor} (kind : token.kind = .openBracket)
      (inside : Items ⟨token, rest⟩ inner between) (others : Items between items last) :
      Items ⟨behind, token :: rest⟩ (.list inner :: items) last
  | number {behind token : Token} {rest : List Token} {value : Float} {items : List Value}
      {last : Cursor} (kind : token.kind = .number)
      (spelled : Number.read? token.lexeme = some value) (others : Items ⟨token, rest⟩ items last) :
      Items ⟨behind, token :: rest⟩ (.number value :: items) last
  | negative {behind token digits : Token} {rest : List Token} {value : Float}
      {items : List Value} {last : Cursor} (sign : isSignOf token (digits :: rest) = true)
      (spelled : Number.read? digits.lexeme = some value)
      (others : Items ⟨digits, rest⟩ items last) :
      Items ⟨behind, token :: digits :: rest⟩ (.number (-value) :: items) last
  | word {behind token : Token} {rest : List Token} {items : List Value} {last : Cursor}
      (kind : isItem token.kind = true) (unsigned : isSignOf token rest = false)
      (others : Items ⟨token, rest⟩ items last) :
      Items ⟨behind, token :: rest⟩ (.word token.lexeme :: items) last

mutual

/-- Expressions: primaries with infix operators between them. -/
inductive Expression (arities : Arities) : Cursor → Value → Cursor → Prop where
  | single {cursor next : Cursor} {value : Value} (first : Primary arities cursor value next)
      (complete : next.EndsExpression) : Expression arities cursor value next
  | operation {cursor last : Cursor} {behind token : Token} {rest : List Token} {glyph : String}
      {left right : Value} (first : Primary arities cursor left ⟨behind, token :: rest⟩)
      (kind : token.kind = .operator glyph)
      (between : Cursor.atNegative ⟨behind, token :: rest⟩ = false)
      (second : Expression arities ⟨token, rest⟩ right last)
      (leftAllowed : allowsOperand left = true) (rightAllowed : allowsOperand right = true) :
      Expression arities cursor (.operation glyph left right) last

/-- Expressions without infix operators outside parentheses. -/
inductive Primary (arities : Arities) : Cursor → Value → Cursor → Prop where
  | number {behind token : Token} {rest : List Token} {value : Float}
      (kind : token.kind = .number) (spelled : Number.read? token.lexeme = some value) :
      Primary arities ⟨behind, token :: rest⟩ (.number value) ⟨token, rest⟩
  | word {behind token : Token} {rest : List Token} {text : String}
      (kind : token.kind = .word text) :
      Primary arities ⟨behind, token :: rest⟩ (.word text) ⟨token, rest⟩
  | reference {behind token : Token} {rest : List Token} {name : String}
      (kind : token.kind = .reference name) :
      Primary arities ⟨behind, token :: rest⟩ (.reference name) ⟨token, rest⟩
  | list {behind token : Token} {rest : List Token} {items : List Value} {last : Cursor}
      (kind : token.kind = .openBracket) (inside : Items ⟨token, rest⟩ items last) :
      Primary arities ⟨behind, token :: rest⟩ (.list items) last
  | parenthesis {behind token before closer : Token} {rest others : List Token} {value : Value}
      (kind : token.kind = .openParen)
      (inside : Expression arities ⟨token, rest⟩ value ⟨before, closer :: others⟩)
      (closes : closer.kind = .closeParen) :
      Primary arities ⟨behind, token :: rest⟩ value ⟨closer, others⟩
  | sign {behind token : Token} {rest : List Token} {glyph : String} {operand : Value}
      {last : Cursor} (kind : token.kind = .operator glyph) (signs : glyph = "-" ∨ glyph = "+")
      (signed : Primary arities ⟨token, rest⟩ operand last)
      (allowed : allowsOperand operand = true) :
      Primary arities ⟨behind, token :: rest⟩ (applySign glyph operand) last
  | reporter {behind token : Token} {rest : List Token} {primitive : Primitive}
      {shapes : List Shape} {values : List Value} {last : Cursor}
      (kind : token.kind = .command primitive) (form : primitive.spec.form = .reporter shapes)
      (inputs : Inputs arities (.each shapes) ⟨token, rest⟩ values last) :
      Primary arities ⟨behind, token :: rest⟩
        (.reporter (.primitive primitive values (originOf token))) last
  | call {behind token : Token} {rest : List Token} {name : String} {values : List Value}
      {last : Cursor} (kind : token.kind = .procedure name)
      (inputs : Inputs arities (.ofCall arities name) ⟨token, rest⟩ values last) :
      Primary arities ⟨behind, token :: rest⟩
        (.reporter (.call name values true (originOf token))) last

/-- Expressions as inputs. -/
inductive Inputs (arities : Arities) : Intake → Cursor → List Value → Cursor → Prop where
  | none {cursor : Cursor} : Inputs arities (.each []) cursor [] cursor
  | each {cursor next last : Cursor} {shape : Shape} {shapes : List Shape} {value : Value}
      {values : List Value} (follows : cursor.atEnd = false)
      (first : Expression arities cursor value next) (allowed : allowsInput shape value = true)
      (others : Inputs arities (.each shapes) next values last) :
      Inputs arities (.each (shape :: shapes)) cursor (value :: values) last
  | stop {cursor : Cursor} (refused : cursor.atInput = true → Refused arities cursor) :
      Inputs arities .following cursor [] cursor
  | further {cursor next last : Cursor} {value : Value} {values : List Value}
      (begins : cursor.atInput = true) (first : Expression arities cursor value next)
      (others : Inputs arities .following next values last) :
      Inputs arities .following cursor (value :: values) last

end

/-- Where commands stand one after the other. -/
inductive Place where
  | block | body | top

/-- The kind of token that closes a place. -/
def Place.closer? : Place → Option Kind
  | .block => some .closeBracket
  | .body => some .endWord
  | .top => none

/-- Whether a statement that begins with a kind of token may stand in a place. -/
def Place.admits : Place → Kind → Bool
  | .body, .toWord => false
  | _, _ => true

mutual

/-- Statements, with the record before and after them. -/
inductive Statement : Record → Token → List Token → Command → Cursor → Record → Prop where
  | primitive {record after : Record} {token : Token} {rest : List Token} {primitive : Primitive}
      {values : List Value} {last : Cursor} (kind : token.kind = .command primitive)
      (inputs : Slots record primitive.spec.slots ⟨token, rest⟩ values last after) :
      Statement record token rest (.primitive primitive values (originOf token)) last after
  | call {record : Record} {token : Token} {rest : List Token} {name : String}
      {values : List Value} {last : Cursor} (kind : token.kind = .procedure name)
      (inputs : Inputs record.arities (.ofCall record.arities name) ⟨token, rest⟩ values last) :
      Statement record token rest (.call name values false (originOf token)) last record
  | define {record after : Record} {token nameToken : Token} {rest : List Token} {name : String}
      {names : List String} {next last : Cursor} {body : List Command}
      (kind : token.kind = .toWord) (named : nameToken.kind = .procedure name)
      (taken : parameters nameToken rest = (names, next))
      (inside : Commands .body (record.announce name names.length) next body last after) :
      Statement record token (nameToken :: rest) (.define name names body (originOf token)) last
        after

/-- What goes into the slots of a primitive. -/
inductive Slots : Record → List Slot → Cursor → List Value → Cursor → Record → Prop where
  | none {record : Record} {cursor : Cursor} : Slots record [] cursor [] cursor record
  | datum {record after : Record} {cursor next last : Cursor} {shape : Shape} {slots : List Slot}
      {value : Value} {values : List Value} (follows : cursor.atEnd = false)
      (first : Expression record.arities cursor value next)
      (allowed : allowsInput shape value = true)
      (others : Slots record slots next values last after) :
      Slots record (.datum shape :: slots) cursor (value :: values) last after
  | block {record middle after : Record} {behind token : Token} {rest : List Token}
      {between last : Cursor} {slots : List Slot} {commands : List Command}
      {values : List Value} (kind : token.kind = .openBracket)
      (inside : Commands .block record ⟨token, rest⟩ commands between middle)
      (others : Slots middle slots between values last after) :
      Slots record (.block :: slots) ⟨behind, token :: rest⟩ (.block commands :: values) last after

/-- Commands one after the other, with what closes them. -/
inductive Commands : Place → Record → Cursor → List Command → Cursor → Record → Prop where
  | close {place : Place} {record : Record} {behind token : Token} {rest : List Token}
      (closes : place.closer? = some token.kind) :
      Commands place record ⟨behind, token :: rest⟩ [] ⟨token, rest⟩ record
  | finish {record : Record} {behind : Token} :
      Commands .top record ⟨behind, []⟩ [] ⟨behind, []⟩ record
  | command {place : Place} {record middle after : Record} {behind token : Token}
      {rest : List Token} {next last : Cursor} {command : Command} {commands : List Command}
      (admitted : place.admits token.kind = true)
      (first : Statement record token rest command next middle)
      (others : Commands place middle next commands last after) :
      Commands place record ⟨behind, token :: rest⟩ (command :: commands) last after
  | skip {place : Place} {record middle after : Record} {behind token : Token}
      {rest : List Token} {last : Cursor} {commands : List Command}
      (recovers : place ≠ .block) (noted : middle.issues ≠ [])
      (others : Commands place middle ⟨token, rest⟩ commands last after) :
      Commands place record ⟨behind, token :: rest⟩ commands last after
  | abandon {record after : Record} {cursor : Cursor} (noted : after.issues ≠ []) :
      Commands .top record cursor [] cursor after

end

end Grammar

/-! ## Reading goes forward -/

/-- One place is past another: at least one token lies between them. -/
def Cursor.IsPast (next cursor : Cursor) : Prop :=
  ∃ token rest, cursor.ahead = token :: rest ∧ next.ahead <:+ rest

namespace Cursor.IsPast

variable {cursor next last : Cursor}

theorem suffix (past : next.IsPast cursor) : next.ahead <:+ cursor.ahead := by
  obtain ⟨token, rest, ahead, suffix⟩ := past
  rw [ahead]
  exact suffix.trans (List.suffix_cons token rest)

/-- To be past a place is to have fewer tokens ahead. -/
theorem length_lt (past : next.IsPast cursor) : next.ahead.length < cursor.ahead.length := by
  obtain ⟨token, rest, ahead, suffix⟩ := past
  rw [ahead, List.length_cons]
  exact Nat.lt_succ_of_le suffix.length_le

theorem trans_suffix (past : next.IsPast cursor) (suffix : last.ahead <:+ next.ahead) :
    last.IsPast cursor := by
  obtain ⟨token, rest, ahead, before⟩ := past
  exact ⟨token, rest, ahead, suffix.trans before⟩

theorem of_suffix {behind token : Token} {rest : List Token} (suffix : last.ahead <:+ rest) :
    last.IsPast ⟨behind, token :: rest⟩ :=
  ⟨token, rest, rfl, suffix⟩

theorem one {behind token : Token} {rest : List Token} :
    IsPast ⟨token, rest⟩ ⟨behind, token :: rest⟩ :=
  of_suffix (List.suffix_refl rest)

end Cursor.IsPast

namespace Grammar

/-- Reading items goes forward. -/
theorem Items.isPast {cursor last : Cursor} {items : List Value} (read : Items cursor items last) :
    last.IsPast cursor := by
  induction read with
  | close => exact .one
  | list _ _ _ inside others => exact .of_suffix (others.suffix.trans inside.suffix)
  | number _ _ _ others => exact .of_suffix others.suffix
  | negative _ _ _ others =>
      exact .of_suffix (others.suffix.trans (List.suffix_cons _ _))
  | word _ _ _ others => exact .of_suffix others.suffix

mutual

/-- Reading an expression goes forward. -/
theorem Expression.isPast {arities : Arities} {cursor last : Cursor} {value : Value} :
    Expression arities cursor value last → last.IsPast cursor
  | .single first _ => first.isPast
  | .operation first _ _ second _ _ =>
      first.isPast.trans_suffix (second.isPast.suffix.trans (List.suffix_cons _ _))

theorem Primary.isPast {arities : Arities} {cursor last : Cursor} {value : Value} :
    Primary arities cursor value last → last.IsPast cursor
  | .number _ _ => .one
  | .word _ => .one
  | .reference _ => .one
  | .list _ inside => .of_suffix inside.isPast.suffix
  | .parenthesis _ inside _ =>
      .of_suffix ((List.suffix_cons _ _).trans inside.isPast.suffix)
  | .sign _ _ signed _ => .of_suffix signed.isPast.suffix
  | .reporter _ _ inputs => .of_suffix inputs.suffix
  | .call _ inputs => .of_suffix inputs.suffix

/-- Reading inputs does not go back. -/
theorem Inputs.suffix {arities : Arities} {intake : Intake} {cursor last : Cursor}
    {values : List Value} :
    Inputs arities intake cursor values last → last.ahead <:+ cursor.ahead
  | .none => List.suffix_refl _
  | .stop _ => List.suffix_refl _
  | .each _ first _ others => others.suffix.trans first.isPast.suffix
  | .further _ first others => others.suffix.trans first.isPast.suffix

end

theorem parameters_suffix {behind : Token} {rest : List Token} {names : List String}
    {next : Cursor} (taken : parameters behind rest = (names, next)) : next.ahead <:+ rest := by
  induction rest generalizing behind names with
  | nil =>
      cases taken
      exact List.suffix_refl []
  | cons token rest hypothesis =>
      rw [parameters] at taken
      split at taken
      · cases taken
        exact (hypothesis rfl).trans (List.suffix_cons token rest)
      · cases taken
        exact List.suffix_refl _

mutual

/-- Reading a statement does not go back. -/
theorem Statement.suffix {record after : Record} {token : Token} {rest : List Token}
    {command : Command} {last : Cursor} :
    Statement record token rest command last after → last.ahead <:+ rest
  | .primitive _ inputs => inputs.suffix
  | .call _ inputs => inputs.suffix
  | .define _ _ taken inside =>
      (inside.suffix.trans (parameters_suffix taken)).trans (List.suffix_cons _ _)

theorem Slots.suffix {record after : Record} {slots : List Slot} {cursor last : Cursor}
    {values : List Value} :
    Slots record slots cursor values last after → last.ahead <:+ cursor.ahead
  | .none => List.suffix_refl _
  | .datum _ first _ others => others.suffix.trans first.isPast.suffix
  | .block _ inside others =>
      others.suffix.trans (inside.suffix.trans (List.suffix_cons _ _))

theorem Commands.suffix {place : Place} {record after : Record} {cursor last : Cursor}
    {commands : List Command} :
    Commands place record cursor commands last after → last.ahead <:+ cursor.ahead
  | .close _ => List.suffix_cons _ _
  | .finish => List.suffix_refl _
  | .command _ first others =>
      others.suffix.trans (first.suffix.trans (List.suffix_cons _ _))
  | .skip _ _ others => others.suffix.trans (List.suffix_cons _ _)
  | .abandon _ => List.suffix_refl _

end

/-! ## Issues stay -/

mutual

/-- No issue is taken back by a statement. -/
theorem Statement.clean_before {record after : Record} {token : Token} {rest : List Token}
    {command : Command} {last : Cursor} :
    Statement record token rest command last after → after.issues = [] → record.issues = []
  | .primitive _ inputs, clean => inputs.clean_before clean
  | .call _ _, clean => clean
  | .define _ _ _ inside, clean => inside.clean_before clean

theorem Slots.clean_before {record after : Record} {slots : List Slot} {cursor last : Cursor}
    {values : List Value} :
    Slots record slots cursor values last after → after.issues = [] → record.issues = []
  | .none, clean => clean
  | .datum _ _ _ others, clean => others.clean_before clean
  | .block _ inside others, clean => inside.clean_before (others.clean_before clean)

/-- Nor is one by commands in a row. -/
theorem Commands.clean_before {place : Place} {record after : Record} {cursor last : Cursor}
    {commands : List Command} :
    Commands place record cursor commands last after → after.issues = [] → record.issues = []
  | .close _, clean => clean
  | .finish, clean => clean
  | .command _ first others, clean => first.clean_before (others.clean_before clean)
  | .skip _ noted others, clean => (noted (others.clean_before clean)).elim
  | .abandon noted, clean => (noted clean).elim

end

end Grammar

end Logo.Program
