import Logo.Proofs.Token.Layout
import Logo.Tree

/-!
# Printed trees

A tree is printed as text.  Here the same text is given in pieces, each a
lexeme with the blanks before it: the pieces put together are the text, and
neighbouring pieces are kept apart by a blank or by a bracket.  Whether every
piece is a lexeme depends on the words in the tree and is left open.

Trees are compared here up to the places where their commands stand, numbers
being compared as doubles.
-/

namespace Logo

/-! ## Trees alike -/

mutual

/-- Whether two values are alike: equal but for the origins of their commands. -/
def Value.alike : Value → Value → Bool
  | .number left, .number right => left == right
  | .word left, .word right => left == right
  | .truth left, .truth right => left == right
  | .list left, .list right => valuesAlike left right
  | .block left, .block right => commandsAlike left right
  | .reference left, .reference right => left == right
  | .operation glyph left right, .operation glyph' left' right' =>
      glyph == glyph' && left.alike left' && right.alike right'
  | .reporter left, .reporter right => left.alike right
  | .procedure name parameters body, .procedure name' parameters' body' =>
      name == name' && parameters == parameters' && commandsAlike body body'
  | _, _ => false

def valuesAlike : List Value → List Value → Bool
  | [], [] => true
  | left :: lefts, right :: rights => left.alike right && valuesAlike lefts rights
  | _, _ => false

/-- Whether two commands are alike: equal but for where they and their parts were written. -/
def Command.alike : Command → Command → Bool
  | .primitive primitive inputs _, .primitive primitive' inputs' _ =>
      primitive == primitive' && valuesAlike inputs inputs'
  | .define name parameters body _, .define name' parameters' body' _ =>
      name == name' && parameters == parameters' && commandsAlike body body'
  | .call name inputs asExpression _, .call name' inputs' asExpression' _ =>
      name == name' && asExpression == asExpression' && valuesAlike inputs inputs'
  | _, _ => false

def commandsAlike : List Command → List Command → Bool
  | [], [] => true
  | left :: lefts, right :: rights => left.alike right && commandsAlike lefts rights
  | _, _ => false

end

/-! ## Trees in pieces -/

/-- A number in pieces: a minus sign is a piece of its own. -/
def numberPieces (gap : List Char) (text : String) : List Piece :=
  match text.toList with
  | '-' :: digits => [⟨gap, "-"⟩, ⟨[], String.ofList digits⟩]
  | _ => [⟨gap, text⟩]

mutual

/-- A value in pieces, the first of them after a gap. -/
def Value.pieces (style : Style) (gap : List Char) : Value → List Piece
  | .number value => numberPieces gap (Number.plain value)
  | .list items => ⟨gap, "["⟩ :: (valuesPieces .shown [] items ++ [⟨[], "]"⟩])
  | .block commands => ⟨gap, "["⟩ :: (commandsPieces [] [' '] commands ++ [⟨[], "]"⟩])
  | .operation glyph left right =>
      ⟨gap, "("⟩ :: (left.pieces .source [] ++
        ⟨[' '], glyph⟩ :: (right.pieces .source [' '] ++ [⟨[], ")"⟩]))
  | .reporter command => ⟨gap, "("⟩ :: (command.pieces [] ++ [⟨[], ")"⟩])
  | .word text => [⟨gap, (Value.word text).render style⟩]
  | .truth value => [⟨gap, (Value.truth value).render style⟩]
  | .reference name => [⟨gap, (Value.reference name).render style⟩]
  | .procedure name parameters body => [⟨gap, (Value.procedure name parameters body).render style⟩]

/-- Values in pieces, the first after a gap and the others after a space. -/
def valuesPieces (style : Style) (gap : List Char) : List Value → List Piece
  | [] => []
  | value :: rest => value.pieces style gap ++ valuesPieces style [' '] rest

/-- A command in pieces, the first of them after a gap. -/
def Command.pieces (gap : List Char) : Command → List Piece
  | .primitive primitive inputs _ => ⟨gap, primitive.name⟩ :: valuesPieces .source [' '] inputs
  | .define name parameters body _ =>
      ⟨gap, "TO"⟩ :: ⟨[' '], name⟩ ::
        (parameters.map (fun parameter => ⟨[' '], ":" ++ parameter⟩) ++
          (commandsPieces ['\n', ' ', ' '] ['\n', ' ', ' '] body ++ [⟨['\n'], "END"⟩]))
  | .call name inputs _ _ => ⟨gap, name⟩ :: valuesPieces .source [' '] inputs

/-- Commands in pieces, the first after a gap and the others after a separator. -/
def commandsPieces (gap separator : List Char) : List Command → List Piece
  | [] => []
  | command :: rest => command.pieces gap ++ commandsPieces separator separator rest

end

/-! ## The pieces make up the text -/

namespace Piece

theorem written_append (first second : List Piece) :
    written (first ++ second) = written first ++ written second :=
  List.flatMap_append

/-- Pieces are written one after the other, each behind its gap. -/
@[simp]
theorem written_cons (piece : Piece) (rest : List Piece) :
    written (piece :: rest) = piece.gap ++ piece.lexeme.toList ++ written rest := by
  simp [written]

@[simp]
theorem written_nil : written [] = [] := rfl

end Piece

/-- Texts put together, the first after a gap and the others after a separator. -/
def spaced (gap separator : List Char) : List String → List Char
  | [] => []
  | text :: rest => gap ++ text.toList ++ rest.flatMap fun next => separator ++ next.toList

theorem spaced_self (separator : List Char) (texts : List String) :
    spaced separator separator texts = texts.flatMap fun next => separator ++ next.toList := by
  cases texts <;> simp [spaced]

theorem toList_intercalate_cons (separator first : String) (rest : List String) :
    (separator.intercalate (first :: rest)).toList =
      first.toList ++ rest.flatMap fun next => separator.toList ++ next.toList := by
  induction rest generalizing first with
  | nil => simp
  | cons second rest hypothesis =>
      rw [String.intercalate_cons_cons]
      simp [String.toList_append, hypothesis]

theorem toList_intercalate (separator : String) (texts : List String) :
    (separator.intercalate texts).toList = spaced [] separator.toList texts := by
  cases texts with
  | nil => simp [spaced]
  | cons first rest => rw [toList_intercalate_cons, spaced, List.nil_append]

theorem written_numberPieces (gap : List Char) (text : String) :
    Piece.written (numberPieces gap text) = gap ++ text.toList := by
  unfold numberPieces
  split
  · rename_i digits begins
    simp [begins]
  · simp

mutual

/-- The pieces of a value make its text. -/
theorem Value.written_pieces (style : Style) (bracketed : style ≠ .printed) (gap : List Char) :
    ∀ value : Value, Piece.written (value.pieces style gap) = gap ++ (value.render style).toList
  | .number value => written_numberPieces gap (Number.plain value)
  | .list items => by
      have inside := written_valuesPieces .shown (by decide) [] items
      have separator : " ".toList = [' '] := rfl
      rw [← separator, ← toList_intercalate] at inside
      simp only [Value.pieces, Value.render, Piece.written_cons, Piece.written_append, inside]
      rw [if_neg (by simp [bracketed])]
      simp only [String.toList_append, Piece.written_nil, List.append_assoc, List.nil_append,
        List.append_nil]
  | .block commands => by
      have inside := written_commandsPieces [] " ".toList commands
      rw [← toList_intercalate] at inside
      simp only [Value.pieces, Value.render, Piece.written_cons, Piece.written_append,
        String.toList_append, Piece.written_nil, List.append_assoc, List.nil_append,
        List.append_nil]
      rw [← inside]
      rfl
  | .operation glyph left right => by
      have first := left.written_pieces .source (by decide) []
      have second := right.written_pieces .source (by decide) [' ']
      simp [Value.pieces, Value.render, Piece.written_append, first, second]
  | .reporter command => by
      have inside := command.written_pieces []
      simp [Value.pieces, Value.render, Piece.written_append, inside]
  | .word _ => by simp [Value.pieces]
  | .truth _ => by simp [Value.pieces]
  | .reference _ => by simp [Value.pieces]
  | .procedure _ _ _ => by simp [Value.pieces]

theorem written_valuesPieces (style : Style) (bracketed : style ≠ .printed) (gap : List Char) :
    ∀ values : List Value,
      Piece.written (valuesPieces style gap values) = spaced gap [' '] (renderValues style values)
  | [] => rfl
  | value :: rest => by
      have first := value.written_pieces style bracketed gap
      have others := written_valuesPieces style bracketed [' '] rest
      rw [spaced_self] at others
      simp [valuesPieces, Piece.written_append, renderValues, spaced, first, others]

/-- The pieces of a command make its text. -/
theorem Command.written_pieces (gap : List Char) :
    ∀ command : Command, Piece.written (command.pieces gap) = gap ++ command.render.toList
  | .primitive primitive inputs _ => by
      have others := written_valuesPieces .source (by decide) [' '] inputs
      rw [Command.pieces, Command.render, toList_intercalate_cons, Piece.written_cons, others,
        spaced_self, List.append_assoc]
      rfl
  | .define name parameters body _ => by
      have inside := written_commandsPieces ['\n', ' ', ' '] ['\n', ' ', ' '] body
      rw [spaced_self] at inside
      rw [Command.pieces, Command.render, toList_intercalate_cons, titleLine, String.toList_append,
        toList_intercalate_cons]
      simp only [Piece.written_cons, Piece.written_append, inside, Piece.written_nil]
      simp [Piece.written, List.flatMap_map]
  | .call name inputs _ _ => by
      have others := written_valuesPieces .source (by decide) [' '] inputs
      rw [Command.pieces, Command.render, toList_intercalate_cons, Piece.written_cons, others,
        spaced_self, List.append_assoc]
      rfl

theorem written_commandsPieces (gap separator : List Char) :
    ∀ commands : List Command,
      Piece.written (commandsPieces gap separator commands) =
        spaced gap separator (renderCommands commands)
  | [] => rfl
  | command :: rest => by
      have first := command.written_pieces gap
      have others := written_commandsPieces separator separator rest
      rw [spaced_self] at others
      simp [commandsPieces, Piece.written_append, renderCommands, spaced, first, others]

end

/-! ## The pieces stay apart -/

namespace Piece

/-- A row of pieces that may stand behind any other: it begins with a gap or closes something. -/
def IsApart (pieces : List Piece) : Prop :=
  ∀ piece ∈ pieces.head?, piece.gap ≠ [] ∨ piece.lexeme = ")" ∨ piece.lexeme = "]"

theorem IsApart.append {first second : List Piece} (left : IsApart first)
    (right : IsApart second) : IsApart (first ++ second) := by
  cases first with
  | nil => exact right
  | cons piece rest => exact left

/-- Two rows of pieces join if the second stands apart. -/
theorem isChain_append {first second : List Piece} (left : first.IsChain Joins)
    (right : second.IsChain Joins) (apart : IsApart second) : (first ++ second).IsChain Joins := by
  refine List.isChain_append.mpr ⟨left, right, fun _ _ next begins => ?_⟩
  rcases apart next begins with gap | closer
  · exact .inl gap
  · exact .inr (.inr closer)

theorem isChain_cons {piece : Piece} {rest : List Piece} (joins : rest.IsChain Joins)
    (apart : IsApart rest) : (piece :: rest).IsChain Joins :=
  isChain_append (List.isChain_singleton piece) joins apart

theorem isChain_opener (gap : List Char) {opener : String} {rest : List Piece}
    (opens : Token.isOpener opener = true) (joins : rest.IsChain Joins) :
    (⟨gap, opener⟩ :: rest : List Piece).IsChain Joins :=
  List.isChain_cons.mpr ⟨fun _ _ => .inr (.inl opens), joins⟩

theorem isChain_of_gaps {pieces : List Piece} (gaps : ∀ piece ∈ pieces, piece.gap ≠ []) :
    pieces.IsChain Joins :=
  (List.pairwise_of_forall_mem_list fun _ _ next member => .inl (gaps next member)).isChain

theorem isApart_of_gaps {pieces : List Piece} (gaps : ∀ piece ∈ pieces, piece.gap ≠ []) :
    IsApart pieces :=
  fun piece begins => .inl (gaps piece (List.mem_of_head? begins))

theorem isChain_enclosed (gap : List Char) {opener closer : String} {inside : List Piece}
    (opens : Token.isOpener opener = true) (closes : closer = ")" ∨ closer = "]")
    (joins : inside.IsChain Joins) :
    (⟨gap, opener⟩ :: (inside ++ [⟨[], closer⟩]) : List Piece).IsChain Joins := by
  refine isChain_opener gap opens (isChain_append joins (List.isChain_singleton _) ?_)
  simp [IsApart, closes]

end Piece

theorem Value.pieces_eq_cons (style : Style) (gap : List Char) (value : Value) :
    ∃ lexeme rest, value.pieces style gap = ⟨gap, lexeme⟩ :: rest := by
  cases value with
  | number value =>
      rw [Value.pieces]
      unfold numberPieces
      split <;> exact ⟨_, _, rfl⟩
  | _ => exact ⟨_, _, rfl⟩

theorem isApart_pieces (style : Style) {gap : List Char} (separates : gap ≠ []) (value : Value) :
    Piece.IsApart (value.pieces style gap) := by
  obtain ⟨lexeme, rest, pieces⟩ := value.pieces_eq_cons style gap
  simp [pieces, Piece.IsApart, separates]

theorem isApart_valuesPieces (style : Style) (values : List Value) :
    Piece.IsApart (valuesPieces style [' '] values) := by
  induction values with
  | nil => simp [valuesPieces, Piece.IsApart]
  | cons value rest hypothesis =>
      exact (isApart_pieces style (List.cons_ne_nil _ _) value).append hypothesis

theorem isApart_commandsPieces {separator : List Char} (separates : separator ≠ [])
    (commands : List Command) : Piece.IsApart (commandsPieces separator separator commands) := by
  cases commands with
  | nil => simp [commandsPieces, Piece.IsApart]
  | cons command rest =>
      cases command <;> simp [commandsPieces, Command.pieces, Piece.IsApart, separates]

mutual

/-- The pieces of a value join. -/
theorem Value.isChain_pieces (style : Style) (gap : List Char) :
    ∀ value : Value, (value.pieces style gap).IsChain Piece.Joins
  | .number value => by
      rw [Value.pieces]
      unfold numberPieces
      split
      · exact Piece.isChain_opener gap (by decide) (List.isChain_singleton _)
      · exact List.isChain_singleton _
  | .list items =>
      Piece.isChain_enclosed gap (by decide) (.inr rfl) (isChain_valuesPieces .shown [] items)
  | .block commands =>
      Piece.isChain_enclosed gap (by decide) (.inr rfl)
        (isChain_commandsPieces [] (List.cons_ne_nil _ _) commands)
  | .operation glyph left right => by
      have first := left.isChain_pieces .source []
      have second := right.isChain_pieces .source [' ']
      have apart := isApart_pieces .source (List.cons_ne_nil ' ' []) right
      have inside : (left.pieces .source [] ++ ⟨[' '], glyph⟩ :: right.pieces .source [' ']).IsChain
          Piece.Joins :=
        Piece.isChain_append first (Piece.isChain_cons second apart) (by simp [Piece.IsApart])
      simpa [Value.pieces] using Piece.isChain_enclosed gap (by decide) (.inl rfl) inside
  | .reporter command =>
      Piece.isChain_enclosed gap (by decide) (.inl rfl) (command.isChain_pieces [])
  | .word _ => List.isChain_singleton _
  | .truth _ => List.isChain_singleton _
  | .reference _ => List.isChain_singleton _
  | .procedure _ _ _ => List.isChain_singleton _

theorem isChain_valuesPieces (style : Style) (gap : List Char) :
    ∀ values : List Value, (valuesPieces style gap values).IsChain Piece.Joins
  | [] => .nil
  | value :: rest =>
      Piece.isChain_append (value.isChain_pieces style gap) (isChain_valuesPieces style [' '] rest)
        (isApart_valuesPieces style rest)

/-- The pieces of a command join. -/
theorem Command.isChain_pieces (gap : List Char) :
    ∀ command : Command, (command.pieces gap).IsChain Piece.Joins
  | .primitive _ inputs _ =>
      Piece.isChain_cons (isChain_valuesPieces .source [' '] inputs)
        (isApart_valuesPieces .source inputs)
  | .define name parameters body _ => by
      have indented : ['\n', ' ', ' '] ≠ [] := List.cons_ne_nil _ _
      have inside := isChain_commandsPieces ['\n', ' ', ' '] indented body
      have apart := isApart_commandsPieces indented body
      have ending : Piece.IsApart [⟨['\n'], "END"⟩] := by simp [Piece.IsApart]
      have title : ∀ piece ∈ (⟨[' '], name⟩ ::
          parameters.map fun parameter => ⟨[' '], ":" ++ parameter⟩ : List Piece),
          piece.gap ≠ [] := by
        simp
      have closed := Piece.isChain_append inside (List.isChain_singleton _) ending
      have headed := Piece.isChain_append (Piece.isChain_of_gaps title) closed (apart.append ending)
      exact Piece.isChain_cons headed ((Piece.isApart_of_gaps title).append (apart.append ending))
  | .call _ inputs _ _ =>
      Piece.isChain_cons (isChain_valuesPieces .source [' '] inputs)
        (isApart_valuesPieces .source inputs)

theorem isChain_commandsPieces (gap : List Char) {separator : List Char}
    (separates : separator ≠ []) :
    ∀ commands : List Command, (commandsPieces gap separator commands).IsChain Piece.Joins
  | [] => .nil
  | command :: rest =>
      Piece.isChain_append (command.isChain_pieces gap)
        (isChain_commandsPieces separator separates rest) (isApart_commandsPieces separates rest)

end

end Logo
