import Logo.Proofs.Number.Plain
import Logo.Proofs.Program.Printed
import Logo.Proofs.Program.WellFormed
import Mathlib.Data.List.Forall2

/-!
# Reading printed values

A printed value is a primary wherever it stands: a literal, or something in
parentheses or brackets.  So whatever follows, reading takes exactly the pieces
of the value and makes a value of them that is alike.  Two printed values with
a space between them stay two values, also where the second begins with a minus
sign, for that sign is glued to its number and apart from what is before it.
-/

namespace Logo.Program

open Grammar

/-! ## Places before pieces -/

/-- The token of a piece that stands behind another token. -/
def tokenAt (behind : Token) (piece : Piece) : Token :=
  Token.ofLexeme ⟨piece.lexeme, behind.stop + piece.gap.length⟩

theorem kind_tokenAt (behind : Token) (piece : Piece) :
    (tokenAt behind piece).kind = .ofText piece.lexeme :=
  rfl

/-- The place before pieces that are yet to be read. -/
def Cursor.facing (behind : Token) (pieces : List Piece) : Cursor :=
  ⟨behind, Piece.layout behind.stop pieces⟩

theorem facing_cons (behind : Token) (piece : Piece) (rest : List Piece) :
    Cursor.facing behind (piece :: rest) =
      ⟨behind, tokenAt behind piece :: (Cursor.facing (tokenAt behind piece) rest).ahead⟩ :=
  rfl

theorem atInput_facing (behind : Token) (piece : Piece) (rest : List Piece) :
    (Cursor.facing behind (piece :: rest)).atInput = beginsInput (.ofText piece.lexeme) :=
  rfl

/-- An expression may end before these pieces, wherever they stand. -/
def Ends (pieces : List Piece) : Prop :=
  ∀ behind, (Cursor.facing behind pieces).EndsExpression

theorem ends_cons {piece : Piece} {rest : List Piece}
    (bare : ∀ glyph, Kind.ofText piece.lexeme ≠ .operator glyph) : Ends (piece :: rest) := by
  intro behind token others glyph ahead kind
  obtain ⟨rfl, -⟩ := List.cons.inj ahead
  exact absurd kind (bare glyph)

/-- A sign that is glued to a number and apart from what is before it belongs to the number. -/
theorem ends_negative {gap : List Char} {digits : String} {rest : List Piece}
    (separates : gap ≠ []) (numeral : Kind.isNumeral digits.toList = true) :
    Ends (⟨gap, "-"⟩ :: ⟨[], digits⟩ :: rest) := by
  intro behind _ _ _ _ _
  have minus : Kind.ofText "-" = .operator "-" := by decide
  have number : Kind.ofText digits = .number := Kind.ofText_number numeral
  have apart : 0 < gap.length := List.length_pos_iff.mpr separates
  simp only [Cursor.facing, Piece.layout, Cursor.atNegative, Token.ofLexeme, Token.follows, minus,
    number, isNegatable]
  simp [apart]

/-- A sign with a space after it belongs to nothing. -/
theorem atNegative_spaced (behind : Token) (piece : Piece) (lexeme : String) (rest : List Piece) :
    (Cursor.facing behind (piece :: ⟨[' '], lexeme⟩ :: rest)).atNegative = false := by
  simp [Cursor.facing, Piece.layout, Cursor.atNegative, Token.ofLexeme, Token.follows]

/-! ## Fixed lexemes -/

theorem isLexeme_fixed : ∀ text ∈ ["[", "]", "(", ")", "-"], Token.IsLexeme text := by
  simp only [List.mem_cons, List.not_mem_nil, or_false, forall_eq_or_imp, forall_eq]
  exact ⟨.glyph rfl (by decide), .glyph rfl (by decide), .glyph rfl (by decide),
    .glyph rfl (by decide), .glyph rfl (by decide)⟩

theorem isProper_fixed {text : String} (fixed : text ∈ ["[", "]", "(", ")", "-"]) :
    Piece.IsProper ⟨[], text⟩ :=
  ⟨by simp, isLexeme_fixed text fixed⟩

theorem ofText_minus : Kind.ofText "-" = .operator "-" := by decide

theorem ofText_openBracket : Kind.ofText "[" = .openBracket := by decide

theorem ofText_closeBracket : Kind.ofText "]" = .closeBracket := by decide

theorem ofText_openParen : Kind.ofText "(" = .openParen := by decide

theorem ofText_closeParen : Kind.ofText ")" = .closeParen := by decide

/-! ## What alike values have in common -/

theorem allowsOperand_alike {again value : Value} (same : again.alike value = true) :
    allowsOperand again = allowsOperand value := by
  cases again <;> cases value <;> simp_all [Value.alike, allowsOperand]

theorem allowsInput_alike {again value : Value} (same : again.alike value = true) (shape : Shape) :
    allowsInput shape again = allowsInput shape value := by
  cases again <;> cases value <;> cases shape <;> simp_all [Value.alike, allowsInput]

/-! ## Numbers -/

/-- The pieces of a readable number: a numeral, or a minus sign and a numeral. -/
theorem numberPieces_readable {number : Float} (readable : Number.IsReadable number) :
    (∃ text again, (∀ gap, numberPieces gap (Number.plain number) = [⟨gap, text⟩]) ∧
      Kind.isNumeral text.toList = true ∧ Number.read? text = some again ∧
      (again == number) = true) ∨
    ∃ digits again, (∀ gap, numberPieces gap (Number.plain number) = [⟨gap, "-"⟩, ⟨[], digits⟩]) ∧
      Kind.isNumeral digits.toList = true ∧ Number.read? digits = some again ∧
      (-again == number) = true := by
  cases readable.shown with
  | @unsigned again numeral reads same =>
      refine .inl ⟨Number.plain number, again, fun gap => ?_, numeral, reads, same⟩
      obtain ⟨first, rest, characters, digit⟩ := Kind.isNumeral_head numeral
      unfold numberPieces
      split
      · rename_i begins
        have bare : Text.isDigit '-' = false := by decide
        rw [begins] at characters
        cases characters
        simp [bare] at digit
      · rfl
  | @signed digits again text numeral reads same =>
      refine .inr ⟨digits, again, fun gap => ?_, numeral, reads, same⟩
      simp [numberPieces, text, String.toList_append]

theorem isLexeme_numeral {text : String} (numeral : Kind.isNumeral text.toList = true) :
    Token.IsLexeme text :=
  .word (Kind.isWord_of_isNumeral numeral)

/-! ## Values -/

/-- A value that is read back from its pieces, whatever follows them. -/
structure Rereads (arities : Arities) (value : Value) : Prop where
  readable : ∀ number, value = .number number → Number.IsReadable number
  proper : ∀ gap, (∀ character ∈ gap, Text.isBlank character = true) →
    ∀ piece ∈ value.pieces .source gap, piece.IsProper
  begins : ∀ gap behind following,
    (Cursor.facing behind (value.pieces .source gap ++ following)).atInput = true
  ends : ∀ gap following, gap ≠ [] → Ends (value.pieces .source gap ++ following)
  reads : ∀ gap behind following, ∃ again last, again.alike value = true ∧
    Primary arities (.facing behind (value.pieces .source gap ++ following)) again
      (.facing last following)

namespace Rereads

variable {arities : Arities}

/-- Most values begin with a lexeme that is no operator. -/
theorem of_head {value : Value} {lexeme : String} {inside : List Piece}
    (readable : ∀ number, value = .number number → Number.IsReadable number)
    (pieces : ∀ gap, value.pieces .source gap = ⟨gap, lexeme⟩ :: inside)
    (begins : beginsInput (.ofText lexeme) = true)
    (bare : ∀ glyph, Kind.ofText lexeme ≠ .operator glyph) (known : Token.IsLexeme lexeme)
    (proper : ∀ piece ∈ inside, piece.IsProper)
    (reads : ∀ gap behind following, ∃ again last, again.alike value = true ∧
      Primary arities (.facing behind (⟨gap, lexeme⟩ :: (inside ++ following))) again
        (.facing last following)) :
    Rereads arities value := by
  refine ⟨readable, fun gap blank piece member => ?_, fun gap behind following => ?_,
    fun gap following _ => ?_, fun gap behind following => ?_⟩
  · rw [pieces] at member
    rcases List.mem_cons.mp member with rfl | member
    · exact ⟨blank, known⟩
    · exact proper piece member
  · rw [pieces, List.cons_append, atInput_facing]
    exact begins
  · rw [pieces]
    exact ends_cons bare
  · rw [pieces]
    exact reads gap behind following

/-- A number that can be read back is reread. -/
theorem number {number : Float} (readable : Number.IsReadable number) :
    Rereads arities (.number number) := by
  have own : ∀ other, Value.number number = .number other → Number.IsReadable other := by
    rintro _ ⟨⟩
    exact readable
  rcases numberPieces_readable readable with ⟨text, again, pieces, numeral, reads, same⟩ |
    ⟨digits, again, pieces, numeral, reads, same⟩
  · have kind := Kind.ofText_number numeral
    refine of_head own pieces (by rw [kind]; rfl) (by simp [kind]) (isLexeme_numeral numeral)
      (by simp) fun gap behind following => ?_
    exact ⟨.number again, tokenAt behind ⟨gap, text⟩, by simpa [Value.alike] using same,
      .number kind reads⟩
  · refine ⟨own, fun gap blank => ?_, fun gap behind following => ?_,
      fun gap following separates => ?_, fun gap behind following => ?_⟩ <;>
      rw [Value.pieces, pieces]
    · simp only [List.mem_cons, List.not_mem_nil, or_false, forall_eq_or_imp, forall_eq]
      exact ⟨⟨blank, isLexeme_fixed "-" (by simp)⟩, ⟨by simp, isLexeme_numeral numeral⟩⟩
    · rw [List.cons_append, atInput_facing, ofText_minus]
      rfl
    · exact ends_negative separates numeral
    · refine ⟨.number (-again), tokenAt (tokenAt behind ⟨gap, "-"⟩) ⟨[], digits⟩,
        by simpa [Value.alike] using same, ?_⟩
      have unsigned : Primary arities
          (.facing (tokenAt behind ⟨gap, "-"⟩) (⟨[], digits⟩ :: following)) (.number again)
          (.facing (tokenAt (tokenAt behind ⟨gap, "-"⟩) ⟨[], digits⟩) following) :=
        .number (Kind.ofText_number numeral) reads
      exact .sign ((kind_tokenAt behind _).trans ofText_minus) (.inl rfl) unsigned rfl

/-- A word that is a lexeme is reread. -/
theorem word {text : String} (lexeme : Token.IsLexeme ("\"" ++ text)) :
    Rereads arities (.word text) := by
  have kind := Kind.ofText_word text
  have pieces : ∀ gap, (Value.word text).pieces .source gap = [⟨gap, "\"" ++ text⟩] := fun _ => rfl
  refine of_head (by simp) pieces (by rw [kind]; rfl) (by simp [kind]) lexeme (by simp)
    fun gap behind following => ?_
  exact ⟨.word text, tokenAt behind ⟨gap, "\"" ++ text⟩, by simp [Value.alike], .word kind⟩

theorem reference {name : String} (lexeme : Token.IsLexeme (":" ++ name)) :
    Rereads arities (.reference name) := by
  have kind := Kind.ofText_reference name
  have pieces : ∀ gap, (Value.reference name).pieces .source gap = [⟨gap, ":" ++ name⟩] :=
    fun _ => rfl
  refine of_head (by simp) pieces (by rw [kind]; rfl) (by simp [kind]) lexeme (by simp)
    fun gap behind following => ?_
  exact ⟨.reference name, tokenAt behind ⟨gap, ":" ++ name⟩, by simp [Value.alike], .reference kind⟩

end Rereads

/-! ## Items of lists -/

/-- Items of a list that are read back from their pieces, whatever follows the list. -/
structure ItemsReread (items : List Value) : Prop where
  proper : ∀ gap, (∀ character ∈ gap, Text.isBlank character = true) →
    ∀ piece ∈ valuesPieces .shown gap items, piece.IsProper
  reads : ∀ gap behind following, ∃ again last, valuesAlike again items = true ∧
    Items (.facing behind (valuesPieces .shown gap items ++ ⟨[], "]"⟩ :: following)) again
      (.facing last following)

namespace ItemsReread

variable {items : List Value}

theorem blank_space : ∀ character ∈ [' '], Text.isBlank character = true :=
  List.all_eq_true.mp (by decide)

theorem nil : ItemsReread [] := by
  refine ⟨by simp [valuesPieces], fun gap behind following => ?_⟩
  refine ⟨[], tokenAt behind ⟨[], "]"⟩, by simp [valuesAlike], ?_⟩
  exact .close ((kind_tokenAt behind _).trans ofText_closeBracket)

theorem proper_cons {value : Value} (others : ItemsReread items)
    (first : ∀ gap, (∀ character ∈ gap, Text.isBlank character = true) →
      ∀ piece ∈ value.pieces .shown gap, piece.IsProper) :
    ∀ gap, (∀ character ∈ gap, Text.isBlank character = true) →
      ∀ piece ∈ valuesPieces .shown gap (value :: items), piece.IsProper := by
  intro gap blank piece member
  rw [valuesPieces] at member
  rcases List.mem_append.mp member with own | other
  · exact first gap blank piece own
  · exact others.proper [' '] blank_space piece other

/-- A minus sign that is glued to digits is their sign. -/
theorem isSignOf_minus (behind : Token) (gap : List Char) {digits : String}
    (kind : Kind.ofText digits = .number) (rest : List Token) :
    isSignOf (tokenAt behind ⟨gap, "-"⟩)
      (tokenAt (tokenAt behind ⟨gap, "-"⟩) ⟨[], digits⟩ :: rest) = true := by
  rw [isSignOf, kind_tokenAt, kind_tokenAt, ofText_minus, kind]
  simp [Token.follows, tokenAt, Token.ofLexeme]

/-- An item before other items is no sign of a number: a space or a bracket comes between. -/
theorem isSignOf_facing (token : Token) (items : List Value) (following : List Piece) :
    isSignOf token
      (Cursor.facing token (valuesPieces .shown [' '] items ++ ⟨[], "]"⟩ :: following)).ahead =
        false := by
  cases items with
  | nil =>
      rw [valuesPieces, List.nil_append, facing_cons]
      simp [isSignOf, kind_tokenAt, ofText_closeBracket]
  | cons value rest =>
      obtain ⟨lexeme, others, pieces⟩ := value.pieces_eq_cons .shown [' ']
      rw [valuesPieces, pieces, List.cons_append, List.cons_append, facing_cons]
      simp [isSignOf, Token.follows, tokenAt, Token.ofLexeme]

theorem word {text : String} (lexeme : Token.IsLexeme text)
    (kind : isItem (.ofText text) = true) (others : ItemsReread items) :
    ItemsReread (.word text :: items) := by
  refine ⟨others.proper_cons fun gap blank piece member => ?_, fun gap behind following => ?_⟩
  · obtain rfl := List.mem_singleton.mp member
    exact ⟨blank, lexeme⟩
  · obtain ⟨again, last, same, reads⟩ := others.reads [' '] (tokenAt behind ⟨gap, text⟩) following
    refine ⟨.word text :: again, last, by simp [valuesAlike, Value.alike, same], ?_⟩
    exact .word kind (isSignOf_facing _ items following) reads

theorem number {number : Float} (readable : Number.IsReadable number)
    (others : ItemsReread items) : ItemsReread (.number number :: items) := by
  have own : Rereads [] (.number number) := .number readable
  refine ⟨others.proper_cons own.proper, fun gap behind following => ?_⟩
  rw [valuesPieces, Value.pieces]
  rcases numberPieces_readable readable with ⟨text, value, pieces, numeral, spelled, same⟩ |
    ⟨digits, value, pieces, numeral, spelled, same⟩ <;>
    have kind := Kind.ofText_number numeral <;>
    rw [pieces]
  · obtain ⟨again, last, alike, reads⟩ :=
      others.reads [' '] (tokenAt behind ⟨gap, text⟩) following
    refine ⟨.number value :: again, last, by simpa [valuesAlike, Value.alike, alike] using same, ?_⟩
    exact .number kind spelled reads
  · obtain ⟨again, last, alike, reads⟩ :=
      others.reads [' '] (tokenAt (tokenAt behind ⟨gap, "-"⟩) ⟨[], digits⟩) following
    refine ⟨.number (-value) :: again, last, by simpa [valuesAlike, Value.alike, alike] using same,
      ?_⟩
    exact .negative (isSignOf_minus behind gap kind _) spelled reads

/-- A list among items is reread if its items are. -/
theorem list {inner : List Value} (inside : ItemsReread inner) (others : ItemsReread items) :
    ItemsReread (.list inner :: items) := by
  refine ⟨others.proper_cons fun gap blank piece member => ?_, fun gap behind following => ?_⟩
  · simp only [Value.pieces, List.mem_cons, List.mem_append, List.not_mem_nil, or_false] at member
    rcases member with rfl | within | rfl
    · exact ⟨blank, isLexeme_fixed "[" (by simp)⟩
    · exact inside.proper [] (by simp) piece within
    · exact isProper_fixed (by simp)
  · obtain ⟨inner', between, innerAlike, innerReads⟩ := inside.reads [] (tokenAt behind ⟨gap, "["⟩)
      (valuesPieces .shown [' '] items ++ ⟨[], "]"⟩ :: following)
    obtain ⟨again, last, alike, reads⟩ := others.reads [' '] between following
    refine ⟨.list inner' :: again, last, by simp [valuesAlike, Value.alike, innerAlike, alike], ?_⟩
    have opens := (kind_tokenAt behind ⟨gap, "["⟩).trans ofText_openBracket
    simp only [valuesPieces, Value.pieces, List.cons_append, List.append_assoc, List.nil_append]
    exact .list opens innerReads reads

end ItemsReread

/-! ## Expressions and inputs -/

/-- Inputs are as many as a command takes, and each may go into its slot. -/
def Intake.Accepts (values : List Value) : Intake → Prop
  | .each shapes => List.Forall₂ (fun shape value => allowsInput shape value = true) shapes values
  | .following => True

namespace Rereads

variable {arities : Arities}

/-- A list is reread if its items are. -/
theorem list {items : List Value} (inside : ItemsReread items) : Rereads arities (.list items) := by
  have pieces : ∀ gap, (Value.list items).pieces .source gap =
      ⟨gap, "["⟩ :: (valuesPieces .shown [] items ++ [⟨[], "]"⟩]) := fun _ => rfl
  refine of_head (by simp) pieces (by rw [ofText_openBracket]; rfl) (by simp [ofText_openBracket])
    (isLexeme_fixed "[" (by simp)) ?_ fun gap behind following => ?_
  · intro piece member
    rcases List.mem_append.mp member with within | closer
    · exact inside.proper [] (by simp) piece within
    · obtain rfl := List.mem_singleton.mp closer
      exact isProper_fixed (by simp)
  · obtain ⟨again, last, alike, reads⟩ :=
      inside.reads [] (tokenAt behind ⟨gap, "["⟩) following
    refine ⟨.list again, last, by simpa [Value.alike] using alike, ?_⟩
    rw [List.append_assoc]
    exact .list ((kind_tokenAt behind _).trans ofText_openBracket) reads

/-- What is printed in parentheses is read back if it is an expression inside them. -/
theorem enclosed {value : Value} {inside : List Piece}
    (computed : ∀ number, value ≠ .number number)
    (pieces : ∀ gap, value.pieces .source gap = ⟨gap, "("⟩ :: (inside ++ [⟨[], ")"⟩]))
    (proper : ∀ piece ∈ inside, piece.IsProper)
    (reads : ∀ behind following, ∃ again last, again.alike value = true ∧
      Expression arities (.facing behind (inside ++ ⟨[], ")"⟩ :: following)) again
        (.facing last (⟨[], ")"⟩ :: following))) :
    Rereads arities value := by
  refine of_head (fun number same => absurd same (computed number)) pieces
    (by rw [ofText_openParen]; rfl) (by simp [ofText_openParen]) (isLexeme_fixed "(" (by simp)) ?_
    fun gap behind following => ?_
  · intro piece member
    rcases List.mem_append.mp member with within | closer
    · exact proper piece within
    · obtain rfl := List.mem_singleton.mp closer
      exact isProper_fixed (by simp)
  · obtain ⟨again, last, alike, expression⟩ := reads (tokenAt behind ⟨gap, "("⟩) following
    refine ⟨again, tokenAt last ⟨[], ")"⟩, alike, ?_⟩
    rw [List.append_assoc]
    exact .parenthesis ((kind_tokenAt behind _).trans ofText_openParen) expression
      ((kind_tokenAt last _).trans ofText_closeParen)

theorem ends_closeParen (following : List Piece) : Ends (⟨[], ")"⟩ :: following) :=
  ends_cons (by simp [ofText_closeParen])

/-- Where an expression may end, a printed value is an expression. -/
theorem expression {value : Value} (rereads : Rereads arities value) (gap : List Char)
    (behind : Token) {following : List Piece} (ends : Ends following) :
    ∃ again last, again.alike value = true ∧
      Expression arities (.facing behind (value.pieces .source gap ++ following)) again
        (.facing last following) := by
  obtain ⟨again, last, alike, primary⟩ := rereads.reads gap behind following
  exact ⟨again, last, alike, .single primary (ends last)⟩

/-- An operation is reread if its operands are. -/
theorem operation {glyph : String} {left right : Value} (kind : Kind.ofText glyph = .operator glyph)
    (lexeme : Token.IsLexeme glyph) (first : Rereads arities left)
    (second : Rereads arities right) (leftAllowed : allowsOperand left = true)
    (rightAllowed : allowsOperand right = true) :
    Rereads arities (.operation glyph left right) := by
  have pieces : ∀ gap, (Value.operation glyph left right).pieces .source gap =
      ⟨gap, "("⟩ :: ((left.pieces .source [] ++ ⟨[' '], glyph⟩ :: right.pieces .source [' ']) ++
        [⟨[], ")"⟩]) := by
    intro gap
    simp [Value.pieces]
  refine enclosed (by simp) pieces ?_ fun behind following => ?_
  · intro piece member
    simp only [List.mem_append, List.mem_cons] at member
    rcases member with within | rfl | within
    · exact first.proper [] (by simp) piece within
    · exact ⟨ItemsReread.blank_space, lexeme⟩
    · exact second.proper [' '] ItemsReread.blank_space piece within
  · rw [List.append_assoc, List.cons_append]
    obtain ⟨left', middle, leftAlike, leftReads⟩ := first.reads [] behind
      (⟨[' '], glyph⟩ :: (right.pieces .source [' '] ++ ⟨[], ")"⟩ :: following))
    obtain ⟨right', last, rightAlike, rightReads⟩ :=
      second.expression [' '] (tokenAt middle ⟨[' '], glyph⟩) (ends_closeParen following)
    refine ⟨.operation glyph left' right', last, by simp [Value.alike, leftAlike, rightAlike], ?_⟩
    refine .operation leftReads ((kind_tokenAt middle _).trans kind) ?_ rightReads ?_ ?_
    · obtain ⟨lexeme, rest, spaced⟩ := right.pieces_eq_cons .source [' ']
      rw [spaced]
      exact atNegative_spaced middle _ lexeme _
    · rw [allowsOperand_alike leftAlike, leftAllowed]
    · rw [allowsOperand_alike rightAlike, rightAllowed]

end Rereads

theorem ends_valuesPieces {arities : Arities} {values : List Value} {following : List Piece}
    (rereads : ∀ value ∈ values, Rereads arities value) (ends : Ends following) :
    Ends (valuesPieces .source [' '] values ++ following) := by
  cases values with
  | nil => exact ends
  | cons value rest =>
      rw [valuesPieces, List.append_assoc]
      exact (rereads value (by simp)).ends [' '] _ (by simp)

theorem proper_valuesPieces {arities : Arities} {values : List Value}
    (rereads : ∀ value ∈ values, Rereads arities value) :
    ∀ piece ∈ valuesPieces .source [' '] values, piece.IsProper := by
  induction values with
  | nil => simp [valuesPieces]
  | cons value rest hypothesis =>
      intro piece member
      rw [valuesPieces] at member
      rcases List.mem_append.mp member with own | other
      · exact (rereads value (by simp)).proper [' '] ItemsReread.blank_space piece own
      · exact hypothesis (fun value known => rereads value (by simp [known])) piece other

theorem atEnd_of_atInput {cursor : Cursor} (begins : cursor.atInput = true) :
    cursor.atEnd = false := by
  unfold Cursor.atInput at begins
  unfold Cursor.atEnd
  split at begins
  · cases begins
  · rename_i token rest ahead
    revert begins
    cases token.kind <;> simp [beginsInput, isCloser]

/-- Inputs are read back where nothing that follows can be taken for part of them. -/
theorem inputs_reread {arities : Arities} {values : List Value}
    (rereads : ∀ value ∈ values, Rereads arities value) {intake : Intake}
    (accepted : intake.Accepts values) {following : List Piece} (ends : Ends following)
    (stops : intake = .following → ∀ behind, (Cursor.facing behind following).atInput = false)
    (behind : Token) :
    ∃ again last, valuesAlike again values = true ∧
      Inputs arities intake (.facing behind (valuesPieces .source [' '] values ++ following)) again
        (.facing last following) := by
  induction values generalizing intake behind with
  | nil =>
      refine ⟨[], behind, by simp [valuesAlike], ?_⟩
      rw [valuesPieces, List.nil_append]
      cases intake with
      | each shapes =>
          cases accepted
          exact .none
      | following =>
          refine .stop fun begins => ?_
          simp [stops rfl behind] at begins
  | cons value rest hypothesis =>
      have own := rereads value (by simp)
      have others : ∀ value ∈ rest, Rereads arities value :=
        fun value known => rereads value (by simp [known])
      have begins := own.begins [' '] behind (valuesPieces .source [' '] rest ++ following)
      obtain ⟨again, middle, alike, expression⟩ :=
        own.expression [' '] behind (ends_valuesPieces others ends)
      rw [valuesPieces, List.append_assoc]
      cases intake with
      | each shapes =>
          obtain _ | @⟨_, _, others', _, allowed, fitting⟩ := accepted
          obtain ⟨more, last, moreAlike, inputs⟩ :=
            hypothesis others (show (Intake.each others').Accepts rest from fitting)
              Intake.noConfusion middle
          refine ⟨again :: more, last, by simp [valuesAlike, alike, moreAlike], ?_⟩
          rw [← allowsInput_alike alike] at allowed
          exact .each (atEnd_of_atInput begins) expression allowed inputs
      | following =>
          obtain ⟨more, last, moreAlike, inputs⟩ :=
            hypothesis others (show Intake.following.Accepts rest from trivial) stops middle
          exact ⟨again :: more, last, by simp [valuesAlike, alike, moreAlike],
            .further begins expression inputs⟩

namespace Rereads

variable {arities : Arities}

/-- A printed command in parentheses, as an input. -/
theorem of_command {command : Command} {name : String} {values : List Value}
    (pieces : ∀ gap, command.pieces gap = ⟨gap, name⟩ :: valuesPieces .source [' '] values)
    (lexeme : Token.IsLexeme name) (rereads : ∀ value ∈ values, Rereads arities value)
    (reads : ∀ behind following, ∃ again last, again.alike (.reporter command) = true ∧
      Primary arities (.facing behind (⟨[], name⟩ ::
        (valuesPieces .source [' '] values ++ ⟨[], ")"⟩ :: following))) again
        (.facing last (⟨[], ")"⟩ :: following))) :
    Rereads arities (.reporter command) := by
  refine enclosed (by simp) (fun gap => rfl) ?_ fun behind following => ?_
  · intro piece member
    rw [pieces] at member
    rcases List.mem_cons.mp member with rfl | within
    · exact ⟨by simp, lexeme⟩
    · exact proper_valuesPieces rereads piece within
  · obtain ⟨again, last, alike, primary⟩ := reads behind following
    refine ⟨again, last, alike, ?_⟩
    rw [pieces]
    exact .single primary (ends_closeParen following last)

theorem atInput_closeParen (following : List Piece) (behind : Token) :
    (Cursor.facing behind (⟨[], ")"⟩ :: following)).atInput = false := by
  rw [atInput_facing, ofText_closeParen]
  rfl

/-- A reporter is reread if its inputs are. -/
theorem primitive {primitive : Primitive} {shapes : List Shape} {values : List Value}
    {origin : Origin} (form : primitive.spec.form = .reporter shapes)
    (rereads : ∀ value ∈ values, Rereads arities value)
    (accepted : (Intake.each shapes).Accepts values) :
    Rereads arities (.reporter (.primitive primitive values origin)) := by
  refine of_command (fun gap => rfl) primitive.isLexeme_name rereads fun behind following => ?_
  obtain ⟨again, last, alike, inputs⟩ := inputs_reread rereads accepted
    (ends_closeParen following) (by simp) (tokenAt behind ⟨[], primitive.name⟩)
  refine ⟨.reporter (.primitive primitive again (originOf (tokenAt behind ⟨[], primitive.name⟩))),
    last, by simp [Value.alike, Command.alike, alike], ?_⟩
  exact .reporter ((kind_tokenAt behind _).trans primitive.ofText_name) form inputs

/-- A call is reread if its inputs are. -/
theorem call {name : String} {values : List Value} {origin : Origin}
    (kind : Kind.ofText name = .procedure name) (lexeme : Token.IsLexeme name)
    (rereads : ∀ value ∈ values, Rereads arities value)
    (accepted : (Intake.ofCall arities name).Accepts values) :
    Rereads arities (.reporter (.call name values true origin)) := by
  refine of_command (fun gap => rfl) lexeme rereads fun behind following => ?_
  obtain ⟨again, last, alike, inputs⟩ := inputs_reread rereads accepted
    (ends_closeParen following) (fun _ => atInput_closeParen following)
    (tokenAt behind ⟨[], name⟩)
  refine ⟨.reporter (.call name again true (originOf (tokenAt behind ⟨[], name⟩))), last,
    by simp [Value.alike, Command.alike, alike], ?_⟩
  exact .call ((kind_tokenAt behind _).trans kind) inputs

end Rereads

/-! ## Everything that is read can be read back -/

/-- A token as scanning gives it; a number is shown plainly. -/
structure IsLegible (token : Token) : Prop where
  genuine : token.IsGenuine
  lexeme : Token.IsLexeme token.lexeme
  plain : token.kind = .number → ∀ number, Number.read? token.lexeme = some number →
    Number.IsPlain number

namespace IsLegible

variable {token : Token}

theorem spelled (legible : IsLegible token) {kind : Kind} (known : token.kind = kind) :
    Kind.Spelled token.lexeme kind := by
  have form := Kind.spelled token.lexeme
  rwa [← legible.genuine, known] at form

theorem number (legible : IsLegible token) {value : Float} (kind : token.kind = .number)
    (spelled : Number.read? token.lexeme = some value) : Number.IsReadable value := by
  cases legible.spelled kind with
  | number numeral => exact .of_literal numeral spelled (legible.plain kind value spelled)

theorem word (legible : IsLegible token) {text : String} (kind : token.kind = .word text) :
    Token.IsLexeme ("\"" ++ text) := by
  cases legible.spelled kind with
  | word quoted => exact quoted ▸ legible.lexeme

theorem reference (legible : IsLegible token) {name : String}
    (kind : token.kind = .reference name) : Token.IsLexeme (":" ++ name) := by
  cases legible.spelled kind with
  | reference marked => exact marked ▸ legible.lexeme

theorem operator (legible : IsLegible token) {glyph : String}
    (kind : token.kind = .operator glyph) :
    Kind.ofText glyph = .operator glyph ∧ Token.IsLexeme glyph := by
  cases legible.spelled kind with
  | operator known => exact ⟨legible.genuine.symm.trans kind, legible.lexeme⟩

theorem procedure (legible : IsLegible token) {name : String}
    (kind : token.kind = .procedure name) :
    Kind.ofText name = .procedure name ∧ Token.IsLexeme name := by
  have own : Kind.ofText token.lexeme = .procedure name := legible.genuine.symm.trans kind
  exact ⟨(Kind.ofText_procedure own).2, legible.lexeme.procedure own⟩

end IsLegible

namespace Grammar

/-- Tokens that are all legible. -/
def Legible (tokens : List Token) : Prop :=
  ∀ token ∈ tokens, IsLegible token

theorem Legible.suffix {tokens rest : List Token} (legible : Legible tokens)
    (suffix : rest <:+ tokens) : Legible rest :=
  fun token member => legible token (suffix.subset member)

theorem Legible.head {token : Token} {rest : List Token} (legible : Legible (token :: rest)) :
    IsLegible token :=
  legible token (List.mem_cons_self ..)

theorem Legible.tail {token : Token} {rest : List Token} (legible : Legible (token :: rest)) :
    Legible rest :=
  legible.suffix (List.suffix_cons token rest)

/-- Items that were read from legible tokens are reread. -/
theorem Items.reread {cursor last : Cursor} {items : List Value}
    (read : Items cursor items last) : Legible cursor.ahead → ItemsReread items := by
  induction read with
  | close kind => exact fun _ => .nil
  | list kind inside others innerReread othersReread =>
      intro legible
      exact .list (innerReread legible.tail)
        (othersReread (legible.tail.suffix inside.isPast.suffix))
  | number kind spelled others othersReread =>
      intro legible
      exact .number (legible.head.number kind spelled) (othersReread legible.tail)
  | negative sign spelled others othersReread =>
      intro legible
      simp only [isSignOf, Bool.and_eq_true, beq_iff_eq] at sign
      exact .number (legible.tail.head.number sign.1.2 spelled).neg
        (othersReread legible.tail.tail)
  | word kind unsigned others othersReread =>
      intro legible
      rw [legible.head.genuine] at kind
      exact .word legible.head.lexeme kind (othersReread legible.tail)

theorem Inputs.accepts {arities : Arities} {intake : Intake} {cursor last : Cursor}
    {values : List Value} (read : Inputs arities intake cursor values last) :
    intake.Accepts values := by
  induction values generalizing intake cursor with
  | nil =>
      cases read with
      | none => exact .nil
      | stop _ => exact trivial
  | cons value rest hypothesis =>
      cases read with
      | each _ _ allowed others => exact .cons allowed (hypothesis others)
      | further _ _ _ => exact trivial

theorem applySign_reread {arities : Arities} {glyph : String} {operand : Value}
    (signs : glyph = "-" ∨ glyph = "+") (rereads : Rereads arities operand)
    (allowed : allowsOperand operand = true) : Rereads arities (applySign glyph operand) := by
  rcases signs with rfl | rfl
  · cases operand with
    | number value => exact .number (rereads.readable value rfl).neg
    | _ =>
        exact .operation ofText_minus (isLexeme_fixed "-" (by simp))
          (.number Number.isReadable_zero) rereads rfl allowed
  · exact rereads

mutual

/-- An expression that was read from legible tokens is reread. -/
theorem Expression.rereads {arities : Arities} {cursor last : Cursor} {value : Value} :
    Expression arities cursor value last → Legible cursor.ahead → Rereads arities value
  | .single first _, legible => first.rereads legible
  | .operation first kind _ second leftAllowed rightAllowed, legible => by
      have ahead := legible.suffix first.isPast.suffix
      have left := first.rereads legible
      have right := second.rereads ahead.tail
      obtain ⟨spelled, lexeme⟩ := ahead.head.operator kind
      exact .operation spelled lexeme left right leftAllowed rightAllowed

theorem Primary.rereads {arities : Arities} {cursor last : Cursor} {value : Value} :
    Primary arities cursor value last → Legible cursor.ahead → Rereads arities value
  | .number kind spelled, legible => .number (legible.head.number kind spelled)
  | .word kind, legible => .word (legible.head.word kind)
  | .reference kind, legible => .reference (legible.head.reference kind)
  | .list _ inside, legible => .list (inside.reread legible.tail)
  | .parenthesis _ inside _, legible => inside.rereads legible.tail
  | .sign _ signs signed allowed, legible =>
      applySign_reread signs (signed.rereads legible.tail) allowed
  | .reporter _ form inputs, legible =>
      .primitive form (inputs.rereads legible.tail) inputs.accepts
  | .call kind inputs, legible => by
      obtain ⟨spelled, lexeme⟩ := legible.head.procedure kind
      exact .call spelled lexeme (inputs.rereads legible.tail) inputs.accepts

/-- So are inputs. -/
theorem Inputs.rereads {arities : Arities} {intake : Intake} {cursor last : Cursor}
    {values : List Value} :
    Inputs arities intake cursor values last → Legible cursor.ahead →
      ∀ value ∈ values, Rereads arities value
  | .none, _ => nofun
  | .stop _, _ => nofun
  | .each _ first _ others, legible =>
      List.forall_mem_cons.mpr ⟨first.rereads legible,
        others.rereads (legible.suffix first.isPast.suffix)⟩
  | .further _ first others, legible =>
      List.forall_mem_cons.mpr ⟨first.rereads legible,
        others.rereads (legible.suffix first.isPast.suffix)⟩

end

end Grammar

end Logo.Program
