import Logo.Proofs.Text.UpperCase
import Logo.Proofs.Token.Layout
import Mathlib.Data.List.TakeWhile

/-!
# How kinds of words are spelled

A word of a program can be written again from its kind: what the kind keeps of
the text, with the quote or colon that the kind stands for, is a lexeme of the
same kind.  For numbers and marks this is plain.  For the name of a procedure,
which the kind keeps in upper case, it rests on upper case being final.
-/

namespace Logo

namespace Kind

theorem isNumeral_mem {characters : List Char} {character : Char}
    (numeral : isNumeral characters = true) (member : character ∈ characters) :
    Text.isDigit character = true ∨ character = '.' := by
  simp only [isNumeral, Bool.and_eq_true] at numeral
  rw [← List.takeWhile_append_dropWhile (p := Text.isDigit) (l := characters)] at member
  rcases List.mem_append.mp member with whole | rest
  · exact .inl (List.mem_takeWhile_imp whole)
  · obtain ⟨-, numeral⟩ := numeral
    split at numeral
    · simp_all
    · rename_i mark fraction remaining
      simp only [Bool.and_eq_true, beq_iff_eq, List.all_eq_true] at numeral
      rw [remaining] at rest
      rcases List.mem_cons.mp rest with rfl | rest
      · exact .inr numeral.1.1
      · exact .inl (numeral.2 character rest)

theorem isNumeral_cons {character : Char} {rest : List Char}
    (bare : Text.isDigit character = false) : isNumeral (character :: rest) = false := by
  simp [isNumeral, bare]

theorem ofText_number {text : String} (numeral : isNumeral text.toList = true) :
    ofText text = .number := by
  rw [ofText, if_pos numeral]

/-- A word is spelled with a quote in front. -/
theorem ofText_word (text : String) : ofText ("\"" ++ text) = .word text := by
  have characters : ("\"" ++ text).toList = '"' :: text.toList := by simp [String.toList_append]
  have numeral : isNumeral ('"' :: text.toList) = false := isNumeral_cons (by decide)
  simp [ofText, characters, numeral]

theorem ofText_reference (name : String) : ofText (":" ++ name) = .reference name := by
  have characters : (":" ++ name).toList = ':' :: name.toList := by simp [String.toList_append]
  have numeral : isNumeral (':' :: name.toList) = false := isNumeral_cons (by decide)
  simp [ofText, characters, numeral]

/-- Texts that are nothing but names: no numeral, no mark, and without a quote or colon in front. -/
structure IsName (text : String) : Prop where
  numeral : isNumeral text.toList = false
  quote : text.toList.head? ≠ some '"'
  colon : text.toList.head? ≠ some ':'
  bracket : text.toList ∉ [['['], [']'], ['('], [')']]
  operator : text ∉ operators

theorem IsName.ofText_eq {text : String} (plain : IsName text) : ofText text = ofName text := by
  have bracket := plain.bracket
  simp only [List.mem_cons, List.not_mem_nil, or_false, not_or] at bracket
  rw [ofText, if_neg (by simp [plain.numeral])]
  split
  · rename_i characters
    exact (plain.quote (by rw [characters]; rfl)).elim
  · rename_i characters
    exact (plain.colon (by rw [characters]; rfl)).elim
  · rename_i characters
    exact (bracket.1 characters).elim
  · rename_i characters
    exact (bracket.2.1 characters).elim
  · rename_i characters
    exact (bracket.2.2.1 characters).elim
  · rename_i characters
    exact (bracket.2.2.2 characters).elim
  · rw [if_neg (by simpa using plain.operator)]

/-- How a text is spelled that has a kind. -/
inductive Spelled (text : String) : Kind → Prop where
  | number (numeral : isNumeral text.toList = true) : Spelled text .number
  | word {rest : String} (quoted : text = "\"" ++ rest) : Spelled text (.word rest)
  | reference {name : String} (marked : text = ":" ++ name) : Spelled text (.reference name)
  | openBracket : Spelled text .openBracket
  | closeBracket : Spelled text .closeBracket
  | openParen : Spelled text .openParen
  | closeParen : Spelled text .closeParen
  | operator (known : text ∈ operators) : Spelled text (.operator text)
  | toWord : Spelled text .toWord
  | endWord : Spelled text .endWord
  | command {primitive : Primitive} : Spelled text (.command primitive)
  | procedure (plain : IsName text) (unreserved : Text.upper text ≠ "TO" ∧ Text.upper text ≠ "END")
      (unknown : Primitive.find? text = none) : Spelled text (.procedure (Text.upper text))

theorem spelled_ofName {text : String} (plain : IsName text) : Spelled text (ofName text) := by
  unfold ofName
  dsimp only
  split
  · exact .toWord
  · rename_i begins
    split
    · exact .endWord
    · rename_i ends
      split
      · exact .command
      · exact .procedure plain ⟨by simpa using begins, by simpa using ends⟩ ‹_›

/-- Every text spells its kind. -/
theorem spelled (text : String) : Spelled text (ofText text) := by
  unfold ofText
  split
  · exact .number ‹_›
  · rename_i numeral
    split
    · rename_i rest characters
      refine .word ?_
      rw [← String.toList_inj, characters, String.toList_append, String.toList_ofList]
      simp
    · rename_i rest characters
      refine .reference ?_
      rw [← String.toList_inj, characters, String.toList_append, String.toList_ofList]
      simp
    · exact .openBracket
    · exact .closeBracket
    · exact .openParen
    · exact .closeParen
    · rename_i quote colon openBracket closeBracket openParen closeParen
      split
      · exact .operator (by simpa using ‹operators.contains text = true›)
      · rename_i unknown
        refine spelled_ofName ⟨by simpa using numeral, ?_, ?_, ?_, by simpa using unknown⟩
        · intro begins
          obtain ⟨rest, characters⟩ := List.head?_eq_some_iff.mp begins
          exact quote rest characters
        · intro begins
          obtain ⟨rest, characters⟩ := List.head?_eq_some_iff.mp begins
          exact colon rest characters
        · simp only [List.mem_cons, List.not_mem_nil, or_false, not_or]
          exact ⟨openBracket, closeBracket, openParen, closeParen⟩

/-! ## Names of procedures -/

theorem not_isLetter_of_mem_operators {text : String} {sign : Char} (known : text ∈ operators)
    (member : sign ∈ text.toList) : Text.isLetter sign = false := by
  have signs : operators.all (fun glyph => glyph.toList.all (!Text.isLetter ·)) = true := by
    decide
  simpa using List.all_eq_true.mp (List.all_eq_true.mp signs text known) sign member

/-- A text with a letter in it is a name, unless a quote or colon is in front. -/
theorem IsName.of_letter {text : String} {letter : Char} (member : letter ∈ text.toList)
    (lettered : Text.isLetter letter = true) (quote : text.toList.head? ≠ some '"')
    (colon : text.toList.head? ≠ some ':') : IsName text := by
  refine ⟨?_, quote, colon, ?_, ?_⟩
  · refine Bool.eq_false_iff.mpr fun numeral => ?_
    rcases isNumeral_mem numeral member with digit | rfl
    · simp [Text.isDigit_of_isLetter lettered] at digit
    · exact absurd lettered (by decide)
  · intro bracket
    have marks : [['['], [']'], ['('], [')']].all (fun mark => mark.all (!Text.isLetter ·)) =
        true := by
      decide
    have bare := List.all_eq_true.mp (List.all_eq_true.mp marks _ bracket) letter member
    simp [lettered] at bare
  · intro known
    simp [not_isLetter_of_mem_operators known member] at lettered

/-- The upper case of a name is a name. -/
theorem IsName.upper {text : String} (plain : IsName text) : IsName (Text.upper text) := by
  by_cases bare : ∀ sign ∈ (Text.upper text).toList, Text.isLetter sign = false
  · rwa [Text.upper_eq_self bare]
  · simp only [not_forall, Bool.not_eq_false] at bare
    obtain ⟨letter, member, lettered⟩ := bare
    exact .of_letter member lettered
      (fun begins => plain.quote (Text.head?_of_upper begins (by decide)))
      (fun begins => plain.colon (Text.head?_of_upper begins (by decide)))

/-- The name that the kind of a word keeps is a word of that kind. -/
theorem ofText_procedure {text name : String} (kind : ofText text = .procedure name) :
    name = Text.upper text ∧ ofText name = .procedure name := by
  have form := spelled text
  rw [kind] at form
  cases form with
  | procedure plain unreserved unknown =>
      refine ⟨rfl, ?_⟩
      rw [Primitive.find?] at unknown
      rw [plain.upper.ofText_eq, ofName, Primitive.find?]
      simp [Text.upper_upper, unreserved, unknown]

end Kind

namespace Token

theorem not_isLetter_of_isGlyph {character : Char} (glyph : isGlyph character = true) :
    Text.isLetter character = false := by
  simpa using of_isGlyph (!Text.isLetter ·) glyph (by decide)

theorem not_isLetter_of_isPaired {character : Char} (paired : isPaired character = true) :
    Text.isLetter character = false := by
  simpa using of_isPaired (!Text.isLetter ·) paired (by decide)

theorem isSolid_of_isLetter {character : Char} (letter : Text.isLetter character = true) :
    isSolid character = true := by
  have glyph : isGlyph character = false := by
    refine Bool.eq_false_iff.mpr fun glyph => ?_
    simp [not_isLetter_of_isGlyph glyph] at letter
  have plain : character ≠ ';' := by
    rintro rfl
    exact absurd letter (by decide)
  simp [isSolid, Text.isBlank_of_isLetter letter, glyph, plain]

theorem isChain_of_forall {characters : List Char}
    (single : ∀ character ∈ characters, isPaired character = false) :
    characters.IsChain Unpaired := by
  refine (List.pairwise_of_forall_mem_list fun first member second _ => ?_).isChain
  rintro ⟨paired, -⟩
  simp [single first member] at paired

theorem isChain_of_isLetter {characters : List Char}
    (letters : ∀ character ∈ characters, Text.isLetter character = true) :
    characters.IsChain Unpaired := by
  refine isChain_of_forall fun first member => ?_
  refine Bool.eq_false_iff.mpr fun paired => ?_
  simpa [not_isLetter_of_isPaired paired] using letters first member

/--
Upper case makes no operators.  Two images that make an operator together would
be the two characters themselves.
-/
theorem isChain_upper {characters : List Char} (unpaired : characters.IsChain Unpaired) :
    (characters.flatMap Text.upperTable.mapChar).IsChain Unpaired := by
  induction characters with
  | nil => exact .nil
  | cons character rest hypothesis =>
      rw [List.flatMap_cons]
      refine List.isChain_append.mpr ⟨?_, hypothesis unpaired.tail, ?_⟩
      · rcases Text.mapChar_cases character with same | letters
        · rw [same]
          exact .singleton _
        · exact isChain_of_isLetter fun letter member => (letters letter member).1
      · rintro last isLast _ begins ⟨paired, rfl⟩
        have own := Text.eq_of_mem_mapChar (List.mem_of_getLast? isLast)
          (not_isLetter_of_isPaired paired)
        cases rest with
        | nil => simp at begins
        | cons next rest =>
            obtain ⟨letter, letters, image⟩ :=
              List.exists_cons_of_ne_nil (Text.mapChar_ne_nil next)
            rw [List.flatMap_cons, image] at begins
            cases begins
            have equals := Text.eq_of_mem_mapChar (image ▸ List.mem_cons_self ..)
              (show Text.isLetter '=' = false by decide)
            exact (List.isChain_cons_cons.mp unpaired).1 ⟨own.2 ▸ paired, equals.2⟩

/-- Upper case keeps a word together. -/
theorem IsWord.upper {text : String} (word : IsWord text.toList) :
    IsWord (Text.upper text).toList := by
  rw [Text.toList_upper]
  refine ⟨?_, ?_, isChain_upper word.unpaired⟩
  · intro empty
    obtain ⟨character, rest, characters⟩ := List.exists_cons_of_ne_nil word.nonempty
    rw [characters, List.flatMap_cons, List.append_eq_nil_iff] at empty
    exact Text.mapChar_ne_nil character empty.1
  · intro letter member
    obtain ⟨character, known, image⟩ := List.mem_flatMap.mp member
    rcases Text.mapChar_cases character with same | letters
    · rw [same, List.mem_singleton] at image
      rw [image]
      exact word.solid character known
    · exact isSolid_of_isLetter (letters letter image).1

/-- Characters that run together and are no part of an operator are a word. -/
theorem IsWord.of_forall {characters : List Char} (nonempty : characters ≠ [])
    (plain : ∀ character ∈ characters, isSolid character = true ∧ isPaired character = false) :
    IsWord characters := by
  exact ⟨nonempty, fun character member => (plain character member).1,
    isChain_of_forall fun character member => (plain character member).2⟩

theorem IsLexeme.isWord {text : String} (lexeme : IsLexeme text) (plain : Kind.IsName text) :
    IsWord text.toList := by
  cases lexeme with
  | word word => exact word
  | @glyph character single glyph =>
      have sign := of_isGlyph (fun known => [known] ∈ [['['], [']'], ['('], [')']] ∨
        String.ofList [known] ∈ Kind.operators) glyph (by decide)
      have own : text = String.ofList [character] := by rw [← single, String.ofList_toList]
      rcases of_decide_eq_true sign with bracket | operator
      · exact (plain.bracket (single ▸ bracket)).elim
      · exact (plain.operator (own ▸ operator)).elim
  | @pair character double paired =>
      have sign := of_isPaired (fun known => String.ofList [known, '='] ∈ Kind.operators) paired
        (by decide)
      have own : text = String.ofList [character, '='] := by rw [← double, String.ofList_toList]
      exact (plain.operator (own ▸ of_decide_eq_true sign)).elim

/-- The name that the kind of a lexeme keeps is a lexeme. -/
theorem IsLexeme.procedure {text name : String} (lexeme : IsLexeme text)
    (kind : Kind.ofText text = .procedure name) : IsLexeme name := by
  have form := Kind.spelled text
  rw [kind] at form
  cases form with
  | procedure plain _ _ => exact .word (lexeme.isWord plain).upper

end Token

/-! ## Names of primitives -/

namespace Primitive

theorem mem_all (primitive : Primitive) : primitive ∈ all := by
  cases primitive <;> decide

/-- The names of primitives are made of capital letters. -/
theorem isUpper_of_mem_name {primitive : Primitive} {character : Char}
    (member : character ∈ primitive.name.toList) : character.isUpper = true := by
  have names : all.all (fun known => known.name.toList.all Char.isUpper) = true := by
    decide +kernel
  exact List.all_eq_true.mp (List.all_eq_true.mp names primitive primitive.mem_all) character member

theorem name_ne_nil (primitive : Primitive) : primitive.name.toList ≠ [] := by
  have names : all.all (fun known => known.name != "") = true := by
    decide +kernel
  have own := List.all_eq_true.mp names primitive primitive.mem_all
  simpa using own

theorem isName_name (primitive : Primitive) : Kind.IsName primitive.name := by
  obtain ⟨letter, member⟩ := List.exists_mem_of_ne_nil _ primitive.name_ne_nil
  have lettered := Text.isLetter_of_isUpper (isUpper_of_mem_name member)
  refine .of_letter member lettered ?_ ?_
  · intro begins
    exact absurd (isUpper_of_mem_name (List.mem_of_head? begins)) (by decide)
  · intro begins
    exact absurd (isUpper_of_mem_name (List.mem_of_head? begins)) (by decide)

/-- The name of a primitive stands for it. -/
theorem ofText_name (primitive : Primitive) : Kind.ofText primitive.name = .command primitive := by
  have names : all.all (fun known => table.lookup known.name == some known &&
      known.name != "TO" && known.name != "END") = true := by
    decide +kernel
  have own := List.all_eq_true.mp names primitive primitive.mem_all
  simp only [Bool.and_eq_true, beq_iff_eq, bne_iff_ne] at own
  have capital : Text.upper primitive.name = primitive.name :=
    Text.upper_of_isUpper fun character member => isUpper_of_mem_name member
  rw [primitive.isName_name.ofText_eq, Kind.ofName, find?, capital]
  simp [own]

/-- The name of a primitive is a lexeme. -/
theorem isLexeme_name (primitive : Primitive) : Token.IsLexeme primitive.name := by
  refine .word ⟨primitive.name_ne_nil, ?_, ?_⟩
  · intro character member
    exact Token.isSolid_of_isLetter (Text.isLetter_of_isUpper (isUpper_of_mem_name member))
  · exact Token.isChain_of_isLetter fun character member =>
      Text.isLetter_of_isUpper (isUpper_of_mem_name member)

end Primitive

end Logo
