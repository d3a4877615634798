import Logo.Proofs.Program.WellFormed
import Logo.Proofs.Token.Spelling

/-!
# Trees tell every word of their text

A program that is read without an issue keeps every word of its text: going
through the tree in the order of the source gives the words back, in order, none
left out and none told twice.  What a tree does not tell is how a number was
spelled, which signs were before it, and where brackets and parentheses stood;
these are left out on both sides.

The words of a list are data.  They are kept as they were written, and each of
them is scanned again to see what it is.

One equation is carried along the rules of the grammar: what is told of the
tokens ahead is what is told of the tree, followed by what is told of the tokens
after it.
-/

namespace Logo

/-! ## What is told -/

/-- What a word of a program is, and its text. -/
abbrev Label := Kind × String

/-- The label of a token. -/
def Token.label (token : Token) : Label :=
  (token.kind, token.text)

/-- The label of a text that is a single token. -/
def Token.label? (text : String) : Option Label :=
  match Token.scan text with
  | [token] => some token.label
  | _ => none

/-- Whether a kind of word is told by a tree: not numbers, not signs, no brackets, no
parentheses. -/
def Kind.isTold : Kind → Bool
  | .number | .openBracket | .closeBracket | .openParen | .closeParen => false
  | .operator glyph => glyph != "+" && glyph != "-"
  | _ => true

/-- What is told of some words.  A text that is no single token is told as nothing. -/
def told (labels : List (Option Label)) : List (Option Label) :=
  labels.filter fun label => label.all fun known => known.1.isTold

/-- What is told of some tokens. -/
def Token.spoken (tokens : List Token) : List (Option Label) :=
  told (tokens.map fun token => some token.label)

/-! ## The words of a tree -/

mutual

/-- The words of a value in the order of its source. -/
def Value.words : Value → List (Option Label)
  | .word text => [some (.word text, text)]
  | .reference name => [some (.reference name, name)]
  | .list items => itemsWords items
  | .block commands => commandsWords commands
  | .operation glyph left right => left.words ++ some (.operator glyph, glyph) :: right.words
  | .reporter command => command.words
  | .number _ | .truth _ | .procedure _ _ _ => []

/-- The words of an item of a list. -/
def Value.itemWords : Value → List (Option Label)
  | .word text => [Token.label? text]
  | .list items => itemsWords items
  | _ => []

/-- The words of the items of a list. -/
def itemsWords : List Value → List (Option Label)
  | [] => []
  | item :: rest => item.itemWords ++ itemsWords rest

/-- The words of values one after the other. -/
def valuesWords : List Value → List (Option Label)
  | [] => []
  | value :: rest => value.words ++ valuesWords rest

/-- The words of a command in the order of its source. -/
def Command.words : Command → List (Option Label)
  | .primitive primitive inputs _ =>
      some (.command primitive, primitive.name) :: valuesWords inputs
  | .call name inputs _ _ => some (.procedure name, name) :: valuesWords inputs
  | .define name parameters body _ =>
      [some (.toWord, "TO"), some (.procedure name, name)] ++
        (parameters.map fun parameter => some (.reference parameter, parameter)) ++
        commandsWords body ++ [some (.endWord, "END")]

/-- The words of commands one after the other. -/
def commandsWords : List Command → List (Option Label)
  | [] => []
  | command :: rest => command.words ++ commandsWords rest

end

@[simp]
theorem told_nil : told [] = [] :=
  rfl

@[simp]
theorem told_append (left right : List (Option Label)) :
    told (left ++ right) = told left ++ told right :=
  List.filter_append left right

theorem told_cons (label : Option Label) (rest : List (Option Label)) :
    told (label :: rest) = told [label] ++ told rest :=
  told_append [label] rest

/-! ## Tokens -/

namespace Token

/-- A token as scanning gives it. -/
structure IsScanned (token : Token) : Prop where
  genuine : token.IsGenuine
  lexeme : IsLexeme token.lexeme

/-- Tokens as scanning gives them. -/
def Scanned (tokens : List Token) : Prop :=
  ∀ token ∈ tokens, token.IsScanned

theorem scanned_scan (text : String) : Scanned (scan text) :=
  fun token member => ⟨Program.genuine_scan text token member, isLexeme_of_mem_scan member⟩

theorem Scanned.suffix {tokens rest : List Token} (scanned : Scanned tokens)
    (suffix : rest <:+ tokens) : Scanned rest :=
  fun token member => scanned token (suffix.subset member)

theorem Scanned.tail {token : Token} {rest : List Token} (scanned : Scanned (token :: rest)) :
    Scanned rest :=
  scanned.suffix (List.suffix_cons token rest)

/-- A token is scanned again as what it is. -/
theorem IsScanned.label?_lexeme {token : Token} (scanned : token.IsScanned) :
    label? token.lexeme = some token.label := by
  rw [label?, scanned.lexeme.scan_eq]
  have kind : Kind.ofText token.lexeme = token.kind := scanned.genuine.symm
  simp [label, text, kind, ofLexeme]

theorem spoken_cons (token : Token) (rest : List Token) :
    spoken (token :: rest) = told [some token.label] ++ spoken rest :=
  told_cons (some token.label) _

/-- What is not told. -/
theorem spoken_hidden {token : Token} {rest : List Token} (hidden : token.kind.isTold = false) :
    spoken (token :: rest) = spoken rest := by
  rw [spoken_cons]
  simp [told, label, hidden]

/-- A word in front of others that are told. -/
theorem spoken_word {token : Token} {label : Label} {rest others : List Token}
    {words : List (Option Label)} (own : token.label = label)
    (told : spoken rest = Logo.told words ++ spoken others) :
    spoken (token :: rest) = Logo.told (some label :: words) ++ spoken others := by
  rw [spoken_cons, told, own, told_cons (some label) words, List.append_assoc]

theorem label_command {token : Token} {primitive : Primitive}
    (kind : token.kind = .command primitive) :
    token.label = (.command primitive, primitive.name) := by
  rw [label, text, kind]

theorem label_procedure {token : Token} {name : String} (kind : token.kind = .procedure name) :
    token.label = (.procedure name, name) := by
  rw [label, text, kind]

theorem label_reference {token : Token} {name : String} (kind : token.kind = .reference name) :
    token.label = (.reference name, name) := by
  rw [label, text, kind]

theorem label_operator {token : Token} {glyph : String} (scanned : token.IsScanned)
    (kind : token.kind = .operator glyph) : token.label = (.operator glyph, glyph) := by
  have spelled := Kind.spelled token.lexeme
  rw [← scanned.genuine, kind] at spelled
  cases spelled with
  | operator known => simp [label, text, kind]

end Token

namespace Program

namespace Grammar

open Token (spoken Scanned)

/-! ## Expressions -/

/-- The items of a list account for the tokens they are read from. -/
theorem Items.told {cursor last : Cursor} {items : List Value} (read : Items cursor items last)
    (scanned : Scanned cursor.ahead) :
    spoken cursor.ahead = told (itemsWords items) ++ spoken last.ahead := by
  induction read with
  | close kind => exact Token.spoken_hidden (by rw [kind]; rfl)
  | @list behind token rest inner items between last kind inside others insideTold othersTold =>
      rw [Token.spoken_hidden (by rw [kind]; rfl), insideTold scanned.tail,
        othersTold (scanned.tail.suffix inside.isPast.suffix)]
      simp [itemsWords, Value.itemWords]
  | number kind _ _ hypothesis =>
      rw [Token.spoken_hidden (by rw [kind]; rfl), hypothesis scanned.tail]
      simp [itemsWords, Value.itemWords]
  | negative sign _ _ hypothesis =>
      simp only [isSignOf, Bool.and_eq_true, beq_iff_eq] at sign
      rw [Token.spoken_hidden (by rw [sign.1.1]; rfl), Token.spoken_hidden (by rw [sign.1.2]; rfl),
        hypothesis scanned.tail.tail]
      simp [itemsWords, Value.itemWords]
  | @word behind token rest items last _ _ _ hypothesis =>
      have own : token.IsScanned := scanned token (List.mem_cons_self ..)
      rw [Token.spoken_cons, hypothesis scanned.tail, itemsWords, Value.itemWords, told_append,
        own.label?_lexeme, List.append_assoc]

theorem isTold_sign {glyph : String} (signs : glyph = "-" ∨ glyph = "+") :
    Kind.isTold (.operator glyph) = false := by
  rcases signs with rfl | rfl <;> rfl

/-- A sign before an operand is not told. -/
theorem told_applySign (glyph : String) (operand : Value) :
    told (applySign glyph operand).words = told operand.words := by
  unfold applySign
  split
  · rfl
  · cases operand <;> simp [Value.words, told, Kind.isTold]

mutual

/-- An expression accounts for the tokens it is read from. -/
theorem Expression.told {arities : Arities} {cursor last : Cursor} {value : Value} :
    Expression arities cursor value last → Scanned cursor.ahead →
      spoken cursor.ahead = told value.words ++ spoken last.ahead
  | .single first _, scanned => first.told scanned
  | .operation first kind _ second _ _, scanned => by
      have ahead := scanned.suffix first.isPast.suffix
      have label := Token.label_operator (ahead _ (List.mem_cons_self ..)) kind
      rw [first.told scanned, Token.spoken_word label (second.told ahead.tail), Value.words,
        told_append, List.append_assoc]

theorem Primary.told {arities : Arities} {cursor last : Cursor} {value : Value} :
    Primary arities cursor value last → Scanned cursor.ahead →
      spoken cursor.ahead = told value.words ++ spoken last.ahead
  | .number kind _, _ => Token.spoken_hidden (by rw [kind]; rfl)
  | .word kind, _ => by rw [Token.spoken_cons, Token.label, Token.text, kind, Value.words]
  | .reference kind, _ => by rw [Token.spoken_cons, Token.label_reference kind, Value.words]
  | .list kind inside, scanned => by
      rw [Token.spoken_hidden (by rw [kind]; rfl), inside.told scanned.tail, Value.words]
  | .parenthesis kind inside closes, scanned => by
      rw [Token.spoken_hidden (by rw [kind]; rfl), inside.told scanned.tail,
        Token.spoken_hidden (by rw [closes]; rfl)]
  | .sign kind signs signed _, scanned => by
      rw [Token.spoken_hidden (by rw [kind]; exact isTold_sign signs), signed.told scanned.tail,
        told_applySign]
  | .reporter kind _ inputs, scanned => by
      rw [Value.words, Command.words]
      exact Token.spoken_word (Token.label_command kind) (inputs.told scanned.tail)
  | .call kind inputs, scanned => by
      rw [Value.words, Command.words]
      exact Token.spoken_word (Token.label_procedure kind) (inputs.told scanned.tail)

theorem Inputs.told {arities : Arities} {intake : Intake} {cursor last : Cursor}
    {values : List Value} :
    Inputs arities intake cursor values last → Scanned cursor.ahead →
      spoken cursor.ahead = told (valuesWords values) ++ spoken last.ahead
  | .none, _ => rfl
  | .stop _, _ => rfl
  | .each _ first _ others, scanned => by
      rw [first.told scanned, others.told (scanned.suffix first.isPast.suffix), valuesWords,
        told_append, List.append_assoc]
  | .further _ first others, scanned => by
      rw [first.told scanned, others.told (scanned.suffix first.isPast.suffix), valuesWords,
        told_append, List.append_assoc]

end

/-! ## Statements -/

theorem told_parameters {behind : Token} {rest : List Token} {names : List String} {next : Cursor}
    (taken : parameters behind rest = (names, next)) :
    spoken rest =
      told (names.map fun name => some (.reference name, name)) ++ spoken next.ahead := by
  induction rest generalizing behind names with
  | nil =>
      cases taken
      rfl
  | cons token rest hypothesis =>
      rw [parameters] at taken
      split at taken
      · rename_i name kind
        cases taken
        exact Token.spoken_word (Token.label_reference kind) (hypothesis rfl)
      · cases taken
        rfl

/-- The words that close a place. -/
def Place.closing : Place → List (Option Label)
  | .body => [some (.endWord, "END")]
  | _ => []

theorem told_close {place : Place} {token : Token} {rest : List Token}
    (closes : place.closer? = some token.kind) :
    spoken (token :: rest) = told (commandsWords [] ++ place.closing) ++ spoken rest := by
  cases place with
  | top => cases closes
  | block => exact Token.spoken_hidden (by rw [← Option.some.inj closes]; rfl)
  | body =>
      have kind : token.kind = .endWord := (Option.some.inj closes).symm
      rw [Token.spoken_cons, Token.label, Token.text, kind]
      rfl

mutual

/-- A statement accounts for the tokens it is read from. -/
theorem Statement.told {record after : Record} {token : Token} {rest : List Token}
    {command : Command} {last : Cursor} :
    Statement record token rest command last after → after.issues = [] → Scanned (token :: rest) →
      spoken (token :: rest) = told command.words ++ spoken last.ahead
  | .primitive kind inputs, clean, scanned => by
      rw [Command.words]
      exact Token.spoken_word (Token.label_command kind) (inputs.told clean scanned.tail)
  | .call kind inputs, _, scanned => by
      rw [Command.words]
      exact Token.spoken_word (Token.label_procedure kind) (inputs.told scanned.tail)
  | .define kind named taken inside, clean, scanned => by
      have body := inside.told clean (scanned.tail.tail.suffix (parameters_suffix taken))
      have begins : token.label = (.toWord, "TO") := by rw [Token.label, Token.text, kind]
      rw [Token.spoken_cons, Token.spoken_cons, told_parameters taken, body, begins,
        Token.label_procedure named, Command.words]
      simp only [Place.closing, told_append, told_cons _ [_], List.append_assoc]

theorem Slots.told {record after : Record} {slots : List Slot} {cursor last : Cursor}
    {values : List Value} :
    Slots record slots cursor values last after → after.issues = [] → Scanned cursor.ahead →
      spoken cursor.ahead = told (valuesWords values) ++ spoken last.ahead
  | .none, _, _ => rfl
  | .datum _ first _ others, clean, scanned => by
      rw [first.told scanned, others.told clean (scanned.suffix first.isPast.suffix), valuesWords,
        told_append, List.append_assoc]
  | .block kind inside others, clean, scanned => by
      rw [Token.spoken_hidden (by rw [kind]; rfl),
        inside.told (others.clean_before clean) scanned.tail,
        others.told clean (scanned.tail.suffix inside.suffix)]
      simp [Place.closing, valuesWords, Value.words]

/-- So do commands in a row. -/
theorem Commands.told {place : Place} {record after : Record} {cursor last : Cursor}
    {commands : List Command} :
    Commands place record cursor commands last after → after.issues = [] → Scanned cursor.ahead →
      spoken cursor.ahead = told (commandsWords commands ++ place.closing) ++ spoken last.ahead
  | .close closes, _, _ => told_close closes
  | .finish, _, _ => rfl
  | .abandon noted, clean, _ => (noted clean).elim
  | .skip _ noted others, clean, _ => (noted (others.clean_before clean)).elim
  | .command _ first others, clean, scanned => by
      have rest := others.told clean (scanned.tail.suffix first.suffix)
      rw [first.told (others.clean_before clean) scanned, rest, commandsWords]
      simp only [told_append, List.append_assoc]

end

/-- Without an issue, statements are read to the end. -/
theorem Commands.ahead_eq_nil {record after : Record} {cursor last : Cursor}
    {commands : List Command} :
    Commands .top record cursor commands last after → after.issues = [] → last.ahead = []
  | .close closes, _ => by cases closes
  | .finish, _ => rfl
  | .command _ _ others, clean => others.ahead_eq_nil clean
  | .skip _ noted others, clean => (noted (others.clean_before clean)).elim
  | .abandon noted, clean => (noted clean).elim

end Grammar

/-- Tokens that are read without an issue are told by the tree. -/
theorem told_ofTokens (source : String) {tokens : List Token} (scanned : Token.Scanned tokens)
    (clean : (ofTokens none source tokens).isClean = true) :
    told (commandsWords (ofTokens none source tokens).commands) = Token.spoken tokens := by
  obtain ⟨last, after, read, issues⟩ := Grammar.commands_of_ofTokens source tokens
  have unmarked : after.issues = [] := by
    rw [isClean, issues, List.isEmpty_reverse] at clean
    exact List.isEmpty_iff.mp clean
  have whole : Token.spoken tokens =
      told (commandsWords (ofTokens none source tokens).commands ++ []) ++
        Token.spoken last.ahead := read.told unmarked scanned
  rw [read.ahead_eq_nil unmarked] at whole
  simpa [Token.spoken] using whole.symm

/--
A program without issues contains every word of its text.  Numbers, signs,
brackets and parentheses aside, the words of its tree are those of the text, in
their order; and every word of a list in it is a single token again.
-/
theorem tree_tells_every_word (text : String) (clean : (ofText text).isClean = true) :
    told (commandsWords (ofText text).commands) =
      told ((Token.scan text).map fun token => some token.label) :=
  told_ofTokens text (Token.scanned_scan text) clean

/-- A definition, a list of odd words and a call that takes what follows. -/
theorem definition_and_list_tell_every_word :
    let text := "to sq :x output :x * (-:x + 2) end print [END -3 \"b [<= :c] f(] g \"u -1 [v]"
    (ofText text).isClean = true ∧
      told (commandsWords (ofText text).commands) =
        [some (.toWord, "TO"), some (.procedure "SQ", "SQ"), some (.reference "x", "x"),
          some (.command .output, "OUTPUT"), some (.reference "x", "x"), some (.operator "*", "*"),
          some (.reference "x", "x"), some (.endWord, "END"), some (.command .print, "PRINT"),
          some (.endWord, "END"), some (.word "b", "b"), some (.operator "<=", "<="),
          some (.reference "c", "c"), some (.procedure "F", "F"), some (.procedure "G", "G"),
          some (.word "u", "u"), some (.procedure "V", "V")] :=
  ⟨by decide +kernel, (tree_tells_every_word _ (by decide +kernel)).trans (by decide +kernel)⟩

end Program

end Logo
