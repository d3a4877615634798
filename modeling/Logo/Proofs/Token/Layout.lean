import Logo.Token.Scan
import Mathlib.Data.List.Chain

/-!
# Texts laid out in lexemes

A text can be given as a row of pieces, each of them a lexeme with the blanks
before it.  Scanning the text finds just these lexemes again, if each of them
is something that scanning can give and no two of them run together: a lexeme
stands right after another one only behind an opening bracket, an opening
parenthesis or a sign, or if it is itself a closing one.
-/

namespace Logo

namespace Token

/-- Whether a character runs together with others to a word. -/
def isSolid (character : Char) : Bool :=
  !Text.isBlank character && !isGlyph character && character != ';'

/-- Two characters next to each other do not make an operator. -/
def Unpaired (first second : Char) : Prop :=
  ¬(isPaired first = true ∧ second = '=')

/-- Characters that scanning takes for one word. -/
structure IsWord (characters : List Char) : Prop where
  nonempty : characters ≠ []
  solid : ∀ character ∈ characters, isSolid character = true
  unpaired : characters.IsChain Unpaired

/-- Texts that scanning takes for one lexeme. -/
inductive IsLexeme (text : String) : Prop where
  | word (characters : IsWord text.toList)
  | glyph {character : Char} (single : text.toList = [character]) (glyph : isGlyph character = true)
  | pair {character : Char} (double : text.toList = [character, '='])
      (paired : isPaired character = true)

/-! ## How characters are cut -/

theorem of_isPaired (check : Char → Bool) {character : Char} (paired : isPaired character = true)
    (checked : ['<', '>', '=', '!'].all check = true) : check character = true :=
  List.all_eq_true.mp checked character (by simpa [isPaired] using paired)

theorem of_isGlyph (check : Char → Bool) {character : Char} (glyph : isGlyph character = true)
    (checked : ['[', ']', '(', ')', '<', '>', '+', '-', '*', '/'].all check = true) :
    check character = true :=
  List.all_eq_true.mp checked character (by simpa [isGlyph] using glyph)

theorem not_isPaired_of_isBlank {character : Char} (blank : Text.isBlank character = true) :
    isPaired character = false := by
  refine Bool.eq_false_iff.mpr fun paired => ?_
  have bare := of_isPaired (!Text.isBlank ·) paired (by decide)
  simp [blank] at bare

theorem split_pair {position : Nat} {pending others : List Char} {character : Char}
    (paired : isPaired character = true) :
    split position pending (character :: '=' :: others) =
      wordEnding position pending ++
        ⟨String.ofList [character, '='], position⟩ :: split (position + 2) [] others := by
  rw [split]
  exact paired

/-- A character that makes no operator with the next one is cut by itself. -/
theorem split_single {position : Nat} {pending following : List Char} {character : Char}
    (unpaired : isPaired character = true → following.head? ≠ some '=') :
    split position pending (character :: following) =
      if Text.isBlank character then
        wordEnding position pending ++ split (position + 1) [] following
      else if isGlyph character then
        wordEnding position pending ++
          ⟨String.ofList [character], position⟩ :: split (position + 1) [] following
      else
        split (position + 1) (character :: pending) following := by
  rw [split]
  rintro others paired rfl
  exact unpaired paired rfl

theorem split_blank {position : Nat} {pending following : List Char} {character : Char}
    (blank : Text.isBlank character = true) :
    split position pending (character :: following) =
      wordEnding position pending ++ split (position + 1) [] following := by
  rw [split_single (by simp [not_isPaired_of_isBlank blank]), if_pos blank]

/-- Blanks are passed over. -/
theorem split_gap {position : Nat} {gap following : List Char}
    (blank : ∀ character ∈ gap, Text.isBlank character = true) :
    split position [] (gap ++ following) = split (position + gap.length) [] following := by
  induction gap generalizing position with
  | nil => rfl
  | cons character gap hypothesis =>
      rw [List.cons_append, split_blank (blank character (List.mem_cons_self ..)),
        hypothesis fun other member => blank other (List.mem_cons_of_mem _ member),
        List.length_cons, Nat.add_comm gap.length 1, ← Nat.add_assoc]
      rfl

/-- Whether a word ends before these characters: they end, or begin with a blank or a closer. -/
def endsWord : List Char → Bool
  | [] => true
  | character :: _ => Text.isBlank character || character == ')' || character == ']'

theorem head?_ne_of_endsWord {following : List Char} (ends : endsWord following = true) :
    following.head? ≠ some '=' := by
  intro begins
  obtain ⟨rest, rfl⟩ := List.head?_eq_some_iff.mp begins
  revert ends
  simp only [endsWord]
  decide

/-- What ends a word ends it. -/
theorem split_ending {position : Nat} {pending following : List Char}
    (ends : endsWord following = true) :
    split position pending following =
      wordEnding position pending ++ split position [] following := by
  cases following with
  | nil => simp [split, wordEnding]
  | cons character rest =>
      cases blank : Text.isBlank character with
      | true => rw [split_blank blank, split_blank blank, wordEnding]; rfl
      | false =>
          have closer : character = ')' ∨ character = ']' := by simpa [endsWord, blank] using ends
          have unpaired : isPaired character = false := by rcases closer with rfl | rfl <;> rfl
          have glyph : isGlyph character = true := by rcases closer with rfl | rfl <;> rfl
          rw [split_single (by simp [unpaired]), split_single (by simp [unpaired])]
          simp [blank, glyph, wordEnding]

/-- The characters of a word are put aside until the word ends. -/
theorem split_solid {position : Nat} {pending word following : List Char}
    (solid : ∀ character ∈ word, isSolid character = true) (unpaired : word.IsChain Unpaired)
    (ends : endsWord following = true) :
    split position pending (word ++ following) =
      split (position + word.length) (word.reverse ++ pending) following := by
  induction word generalizing position pending with
  | nil => rfl
  | cons character word hypothesis =>
      have own : isSolid character = true := solid character (List.mem_cons_self ..)
      simp only [isSolid, Bool.and_eq_true, Bool.not_eq_true'] at own
      have separate : isPaired character = true → (word ++ following).head? ≠ some '=' := by
        intro paired
        cases word with
        | nil => exact head?_ne_of_endsWord ends
        | cons next word =>
            intro begins
            exact (List.isChain_cons_cons.mp unpaired).1 ⟨paired, Option.some.inj begins⟩
      rw [List.cons_append, split_single separate, if_neg (by simp [own]), if_neg (by simp [own]),
        hypothesis (fun other member => solid other (List.mem_cons_of_mem _ member)) unpaired.tail]
      simp [Nat.add_assoc, Nat.add_comm 1]

/-- Lexemes behind which another one may stand without a blank. -/
def isOpener (lexeme : String) : Bool :=
  ["(", "[", "-"].contains lexeme

theorem isOpener_toList {text : String} (opener : isOpener text = true) :
    text.toList = ['('] ∨ text.toList = ['['] ∨ text.toList = ['-'] := by
  simp only [isOpener, List.contains_iff_mem, List.mem_cons, List.not_mem_nil, or_false] at opener
  rcases opener with rfl | rfl | rfl
  · exact .inl rfl
  · exact .inr (.inl rfl)
  · exact .inr (.inr rfl)

theorem not_isBlank_of_isGlyph {character : Char} (glyph : isGlyph character = true) :
    Text.isBlank character = false := by
  simpa using of_isGlyph (!Text.isBlank ·) glyph (by decide)

/-- One lexeme is cut off a text, if what follows cannot be taken as a part of it. -/
theorem split_lexeme {position : Nat} {text : String} {following : List Char}
    (lexeme : IsLexeme text) (apart : isOpener text = true ∨ endsWord following = true) :
    split position [] (text.toList ++ following) =
      ⟨text, position⟩ :: split (position + text.length) [] following := by
  cases lexeme with
  | word word =>
      have ends : endsWord following = true := by
        refine apart.resolve_left fun opener => ?_
        have solid := word.solid
        rcases isOpener_toList opener with single | single | single <;>
          simp [single, isSolid, isGlyph] at solid
      rw [split_solid word.solid word.unpaired ends, split_ending ends, wordEnding,
        if_neg (by simp [word.nonempty])]
      simp [String.ofList_toList, String.length_toList]
  | @glyph character single glyph =>
      have own : text = String.ofList [character] := by rw [← single, String.ofList_toList]
      have separate : isPaired character = true → following.head? ≠ some '=' := by
        intro paired
        refine head?_ne_of_endsWord (apart.resolve_left fun opener => ?_)
        rcases isOpener_toList opener with other | other | other <;>
          simp_all [isPaired]
      have size : text.length = 1 := by rw [← String.length_toList, single]; rfl
      rw [single, List.singleton_append, split_single separate,
        if_neg (by simp [not_isBlank_of_isGlyph glyph]), if_pos glyph, own.symm, size]
      rfl
  | @pair character double paired =>
      have own : text = String.ofList [character, '='] := by rw [← double, String.ofList_toList]
      have size : text.length = 2 := by rw [← String.length_toList, double]; rfl
      rw [double, List.cons_append, List.singleton_append, split_pair paired, own.symm, size]
      rfl

/-! ## Comments -/

theorem blankComments_eq_self {characters : List Char}
    (plain : ∀ character ∈ characters, character ≠ ';') :
    blankComments false characters = characters := by
  induction characters with
  | nil => rfl
  | cons character rest hypothesis =>
      have own := plain character (List.mem_cons_self ..)
      have others := hypothesis fun other member => plain other (List.mem_cons_of_mem _ member)
      rw [blankComments, others]
      by_cases line : character = '\n'
      · simp [line]
      · simp [line, own]

theorem ne_semicolon_of_mem_blankComments {inside : Bool} {characters : List Char}
    {character : Char} (member : character ∈ blankComments inside characters) :
    character ≠ ';' := by
  induction characters generalizing inside with
  | nil => cases member
  | cons first rest hypothesis =>
      rw [blankComments] at member
      split at member
      · rcases List.mem_cons.mp member with rfl | member
        · decide
        · exact hypothesis member
      · split at member
        · rcases List.mem_cons.mp member with rfl | member
          · decide
          · exact hypothesis member
        · rename_i plain
          rcases List.mem_cons.mp member with rfl | member
          · simp_all
          · exact hypothesis member

/-- No lexeme has a semicolon. -/
theorem IsLexeme.ne_semicolon {text : String} {character : Char} (lexeme : IsLexeme text)
    (member : character ∈ text.toList) : character ≠ ';' := by
  cases lexeme with
  | word word =>
      have solid := word.solid character member
      simp_all [isSolid]
  | glyph single glyph =>
      rw [single, List.mem_singleton] at member
      rintro rfl
      simp [← member, isGlyph] at glyph
  | pair double paired =>
      rw [double] at member
      rintro rfl
      rcases List.mem_cons.mp member with rfl | member
      · simp [isPaired] at paired
      · simp at member

/-! ## What scanning gives -/

theorem IsWord.of_reverse {pending : List Char} (nonempty : pending ≠ [])
    (solid : ∀ character ∈ pending, isSolid character = true)
    (unpaired : pending.IsChain fun second first => Unpaired first second) :
    IsWord pending.reverse :=
  ⟨by simpa using nonempty, by simpa using solid, List.isChain_reverse.mpr unpaired⟩

theorem isLexeme_of_mem_wordEnding {position : Nat} {pending : List Char} {lexeme : Lexeme}
    (solid : ∀ character ∈ pending, isSolid character = true)
    (unpaired : pending.IsChain fun second first => Unpaired first second)
    (member : lexeme ∈ wordEnding position pending) : IsLexeme lexeme.text := by
  unfold wordEnding at member
  split at member
  · cases member
  · rename_i nonempty
    rw [List.mem_singleton.mp member]
    refine .word ?_
    rw [String.toList_ofList]
    exact .of_reverse (by simpa using nonempty) solid unpaired

/-- All that is cut from a text without comments is a lexeme. -/
theorem isLexeme_of_mem_split {position : Nat} {pending characters : List Char} {lexeme : Lexeme}
    (plain : ∀ character ∈ characters, character ≠ ';')
    (solid : ∀ character ∈ pending, isSolid character = true)
    (unpaired : pending.IsChain fun second first => Unpaired first second)
    (apart : ∀ last ∈ pending.head?, ∀ next ∈ characters.head?, Unpaired last next)
    (member : lexeme ∈ split position pending characters) : IsLexeme lexeme.text := by
  fun_induction split position pending characters with
  | case1 position pending => exact isLexeme_of_mem_wordEnding solid unpaired member
  | case2 position pending character others paired hypothesis =>
      have rest : ∀ other ∈ others, other ≠ ';' :=
        fun other known => plain other (by simp [known])
      rcases List.mem_append.mp member with member | member
      · exact isLexeme_of_mem_wordEnding solid unpaired member
      rcases List.mem_cons.mp member with rfl | member
      · exact .pair String.toList_ofList paired
      · exact hypothesis rest nofun .nil nofun member
  | case3 position pending character following blank separate hypothesis =>
      have rest : ∀ other ∈ following, other ≠ ';' :=
        fun other known => plain other (by simp [known])
      rcases List.mem_append.mp member with member | member
      · exact isLexeme_of_mem_wordEnding solid unpaired member
      · exact hypothesis rest nofun .nil nofun member
  | case4 position pending character following visible glyph separate hypothesis =>
      have rest : ∀ other ∈ following, other ≠ ';' :=
        fun other known => plain other (by simp [known])
      rcases List.mem_append.mp member with member | member
      · exact isLexeme_of_mem_wordEnding solid unpaired member
      rcases List.mem_cons.mp member with rfl | member
      · exact .glyph String.toList_ofList glyph
      · exact hypothesis rest nofun .nil nofun member
  | case5 position pending character following visible bare separate hypothesis =>
      have rest : ∀ other ∈ following, other ≠ ';' :=
        fun other known => plain other (by simp [known])
      have own : isSolid character = true := by
        simp [isSolid, visible, bare, plain character (List.mem_cons_self ..)]
      refine hypothesis rest ?_ ?_ ?_ member
      · simpa using ⟨own, solid⟩
      · exact List.isChain_cons.mpr ⟨fun last known => apart last known character rfl, unpaired⟩
      · rintro _ ⟨⟩ next known ⟨paired, rfl⟩
        obtain ⟨others, rfl⟩ := List.head?_eq_some_iff.mp known
        exact separate others paired rfl

/-- Every token has a lexeme. -/
theorem isLexeme_of_mem_scan {text : String} {token : Token} (member : token ∈ scan text) :
    IsLexeme token.lexeme := by
  obtain ⟨lexeme, known, rfl⟩ := List.mem_map.mp member
  exact isLexeme_of_mem_split (fun _ => ne_semicolon_of_mem_blankComments) (by simp) .nil (by simp)
    known

end Token

/-! ## Rows of pieces -/

/-- A lexeme with the blanks before it. -/
structure Piece where
  gap : List Char
  lexeme : String

namespace Piece

/-- The characters of a row of pieces. -/
def written (pieces : List Piece) : List Char :=
  pieces.flatMap fun piece => piece.gap ++ piece.lexeme.toList

/-- The tokens of a row of pieces that begins at a position. -/
def layout (position : Nat) : List Piece → List Token
  | [] => []
  | piece :: rest =>
      let token := Token.ofLexeme ⟨piece.lexeme, position + piece.gap.length⟩
      token :: layout token.stop rest

/-- A piece that scanning can give, blanks being skipped. -/
structure IsProper (piece : Piece) : Prop where
  blank : ∀ character ∈ piece.gap, Text.isBlank character = true
  lexeme : Token.IsLexeme piece.lexeme

/-- One piece may stand behind another. -/
def Joins (left right : Piece) : Prop :=
  right.gap ≠ [] ∨ Token.isOpener left.lexeme = true ∨ right.lexeme = ")" ∨ right.lexeme = "]"

theorem endsWord_written {right : Piece} {rest : List Piece} (proper : right.IsProper)
    (apart : right.gap ≠ [] ∨ right.lexeme = ")" ∨ right.lexeme = "]") :
    Token.endsWord (written (right :: rest)) = true := by
  obtain ⟨gap, lexeme⟩ := right
  cases gap with
  | cons character gap =>
      have blank : Text.isBlank character = true := proper.blank character (List.mem_cons_self ..)
      simp [written, Token.endsWord, blank]
  | nil =>
      rcases apart with gap | rfl | rfl
      · exact (gap rfl).elim
      · simp [written, Token.endsWord]
      · simp [written, Token.endsWord]

/-- Proper pieces that join are split as they were put together. -/
theorem split_written {position : Nat} {pieces : List Piece}
    (proper : ∀ piece ∈ pieces, piece.IsProper) (joins : pieces.IsChain Joins) :
    (Token.split position [] (written pieces)).map Token.ofLexeme = layout position pieces := by
  induction pieces generalizing position with
  | nil => rfl
  | cons piece pieces hypothesis =>
      have own := proper piece (List.mem_cons_self ..)
      have others : ∀ other ∈ pieces, other.IsProper :=
        fun other member => proper other (List.mem_cons_of_mem _ member)
      have apart : Token.isOpener piece.lexeme = true ∨ Token.endsWord (written pieces) = true := by
        cases pieces with
        | nil => exact .inr rfl
        | cons next pieces =>
            have next_own := others next (List.mem_cons_self ..)
            rcases (List.isChain_cons_cons.mp joins).1 with gap | opener | closer
            · exact .inr (endsWord_written next_own (.inl gap))
            · exact .inl opener
            · exact .inr (endsWord_written next_own (.inr closer))
      have cut : written (piece :: pieces) =
          piece.gap ++ (piece.lexeme.toList ++ written pieces) := by
        simp [written]
      rw [cut, Token.split_gap own.blank, Token.split_lexeme own.lexeme apart, List.map_cons,
        hypothesis others joins.tail]
      rfl

/-- Proper pieces that join are scanned as they were put together. -/
theorem scan_written {pieces : List Piece} (proper : ∀ piece ∈ pieces, piece.IsProper)
    (joins : pieces.IsChain Joins) :
    Token.scan (String.ofList (written pieces)) = layout 0 pieces := by
  have plain : ∀ character ∈ written pieces, character ≠ ';' := by
    intro character member
    obtain ⟨piece, known, member⟩ := List.mem_flatMap.mp member
    rcases List.mem_append.mp member with gap | lexeme
    · rintro rfl
      exact absurd ((proper piece known).blank _ gap) (by decide)
    · exact (proper piece known).lexeme.ne_semicolon lexeme
  rw [Token.scan, Token.lexemes, String.toList_ofList, Token.blankComments_eq_self plain,
    split_written proper joins]

end Piece

/-- A lexeme alone is one token. -/
theorem Token.IsLexeme.scan_eq {text : String} (lexeme : Token.IsLexeme text) :
    Token.scan text = [Token.ofLexeme ⟨text, 0⟩] := by
  have alone : Token.scan (String.ofList (Piece.written [⟨[], text⟩])) =
      Piece.layout 0 [⟨[], text⟩] :=
    Piece.scan_written (by simpa using ⟨by simp, lexeme⟩) (List.isChain_singleton _)
  simpa [Piece.written, Piece.layout, String.ofList_toList] using alone

end Logo
