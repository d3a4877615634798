import Logo.Proofs.Token.Places

/-!
# Tokens tile the text

Scanning skips blanks and comments, and nothing else.  A place of the text is
inside a token just if it is neither, so the tokens with the blanks and the
comments between them make up the whole text.

A token depends on no character beside it: scanning the piece of the text where
it stands gives this token again, and no other.
-/

namespace Logo.Token

/-! ## Places in comments -/

/-- A place that a comment covers: a semicolon stands there or before it, on the same line. -/
def InComment (characters : List Char) (place : Nat) : Prop :=
  ∃ start ≤ place, characters[start]? = some ';' ∧
    ∀ between, start ≤ between → between ≤ place → characters[between]? ≠ some '\n'

theorem inComment_zero {characters : List Char} :
    InComment characters 0 ↔ characters[0]? = some ';' := by
  constructor
  · rintro ⟨start, here, mark, -⟩
    rwa [Nat.le_zero.mp here] at mark
  · intro mark
    refine ⟨0, Nat.le_refl 0, mark, fun between _ here => ?_⟩
    rw [Nat.le_zero.mp here, mark]
    decide

/-- A comment goes on until the line ends. -/
theorem inComment_succ {characters : List Char} {place : Nat} :
    InComment characters (place + 1) ↔
      characters[place + 1]? ≠ some '\n' ∧
        (InComment characters place ∨ characters[place + 1]? = some ';') := by
  constructor
  · rintro ⟨start, here, mark, line⟩
    refine ⟨line (place + 1) here (Nat.le_refl _), ?_⟩
    rcases Nat.le_succ_iff.mp here with before | rfl
    · exact .inl ⟨start, before, mark, fun between after earlier =>
        line between after (Nat.le_succ_of_le earlier)⟩
    · exact .inr mark
  · rintro ⟨own, ⟨start, before, mark, line⟩ | mark⟩
    · refine ⟨start, Nat.le_succ_of_le before, mark, fun between after earlier => ?_⟩
      rcases Nat.le_succ_iff.mp earlier with earlier | rfl
      · exact line between after earlier
      · exact own
    · refine ⟨place + 1, Nat.le_refl _, mark, fun between after earlier => ?_⟩
      rwa [Nat.le_antisymm earlier after]

/-- Whether a comment goes on after some characters; `inside` says whether they begin in one. -/
def insideAfter (inside : Bool) (characters : List Char) : Bool :=
  characters.foldl (fun inside character => character != '\n' && (inside || character == ';'))
    inside

/-- Whether a place is in a comment is known from what comes before it. -/
theorem insideAfter_take_iff (characters : List Char) (place : Nat) :
    insideAfter false (characters.take (place + 1)) = true ↔ InComment characters place := by
  induction place with
  | zero =>
      rw [inComment_zero]
      cases characters with
      | nil => simp [insideAfter]
      | cons character rest =>
          simp only [insideAfter, Nat.zero_add, List.take_succ_cons, List.take_zero,
            List.foldl_cons, List.foldl_nil, Bool.false_or, List.getElem?_cons_zero,
            Option.some.injEq, Bool.and_eq_true, bne_iff_ne, beq_iff_eq]
          exact ⟨And.right, fun mark => ⟨by simp [mark], mark⟩⟩
  | succ place hypothesis =>
      rw [inComment_succ, ← hypothesis, List.take_add_one]
      cases characters[place + 1]? with
      | none => simp
      | some character => simp [insideAfter]

/-- What is blanked in the later part of a text depends on the earlier part only by its end. -/
theorem blankComments_append (inside : Bool) (first second : List Char) :
    blankComments inside (first ++ second) =
      blankComments inside first ++ blankComments (insideAfter inside first) second := by
  induction first generalizing inside with
  | nil => rfl
  | cons character first hypothesis =>
      simp only [List.cons_append, blankComments, hypothesis, insideAfter, List.foldl_cons]
      by_cases line : character = '\n'
      · simp [line]
      · have solid : (character != '\n') = true := by simp [line]
        cases inside || character == ';' <;> simp [line, solid]

/-- With its comments blanked, a text is blank where it was blank or a comment. -/
theorem getElem?_blankComments {characters : List Char} {place : Nat} {character : Char}
    (here : characters[place]? = some character) :
    ∃ shown, (blankComments false characters)[place]? = some shown ∧
      (Text.isBlank shown = true ↔
        Text.isBlank character = true ∨ InComment characters place) := by
  have bound : place < characters.length := (List.getElem?_eq_some_iff.mp here).1
  have cut : characters = characters.take place ++ character :: characters.drop (place + 1) := by
    obtain ⟨_, rfl⟩ := List.getElem?_eq_some_iff.mp here
    rw [List.getElem_cons_drop, List.take_append_drop]
  have next : insideAfter false (characters.take (place + 1)) =
      (character != '\n' && (insideAfter false (characters.take place) || character == ';')) := by
    rw [List.take_add_one, here]
    simp [insideAfter]
  have first : (blankComments false characters)[place]? =
      (blankComments (insideAfter false (characters.take place))
        (character :: characters.drop (place + 1)))[0]? := by
    have length : (blankComments false (characters.take place)).length = place := by
      rw [length_blankComments, List.length_take, Nat.min_eq_left (Nat.le_of_lt bound)]
    conv_lhs => rw [cut, blankComments_append]
    rw [List.getElem?_append_right (Nat.le_of_eq length), length, Nat.sub_self]
  rw [first, ← insideAfter_take_iff, next, blankComments]
  by_cases line : character = '\n'
  · exact ⟨'\n', by simp [line], by simp [line]⟩
  · cases insideAfter false (characters.take place) || character == ';' with
    | true => exact ⟨' ', by simp [line], by simp [line]; decide⟩
    | false => exact ⟨character, by simp [line], by simp⟩

/-! ## What lexemes take up -/

/-- Lexemes that take up everything but the blanks in characters from a position on. -/
inductive Tiles : Nat → List Char → List Lexeme → Prop where
  | nil {position : Nat} : Tiles position [] []
  | blank {position : Nat} {character : Char} {following : List Char} {lexemes : List Lexeme}
      (blank : Text.isBlank character = true) (others : Tiles (position + 1) following lexemes) :
      Tiles position (character :: following) lexemes
  | lexeme {position : Nat} {own following : List Char} {lexemes : List Lexeme}
      (bare : ∀ character ∈ own, Text.isBlank character = false)
      (others : Tiles (position + own.length) following lexemes) :
      Tiles position (own ++ following) (⟨String.ofList own, position⟩ :: lexemes)

theorem Tiles.wordEnding {position : Nat} {pending following : List Char} {lexemes : List Lexeme}
    (bare : ∀ character ∈ pending, Text.isBlank character = false)
    (others : Tiles (position + pending.length) following lexemes) :
    Tiles position (pending.reverse ++ following)
      (wordEnding (position + pending.length) pending ++ lexemes) := by
  unfold Token.wordEnding
  split
  · rename_i none
    rw [List.isEmpty_iff.mp none] at others ⊢
    exact others
  · rw [Nat.add_sub_cancel]
    exact .lexeme (by simpa using bare) (by simpa using others)

/-- What is cut from a text takes up everything but its blanks. -/
theorem tiles_split {start position : Nat} {pending characters : List Char}
    (here : start + pending.length = position)
    (bare : ∀ character ∈ pending, Text.isBlank character = false) :
    Tiles start (pending.reverse ++ characters) (split position pending characters) := by
  fun_induction split position pending characters generalizing start with
  | case1 position pending =>
      subst here
      have last : Tiles start (pending.reverse ++ []) (_ ++ []) := .wordEnding bare .nil
      rwa [List.append_nil (wordEnding _ _)] at last
  | case2 position pending character others paired hypothesis =>
      subst here
      have own := of_isPaired (!Text.isBlank ·) paired (by decide)
      have pair : ∀ other ∈ [character, '='], Text.isBlank other = false := by
        simpa using ⟨by simpa using own, by decide⟩
      exact .wordEnding bare (.lexeme pair (hypothesis rfl (by simp)))
  | case3 position pending character following blank separate hypothesis =>
      subst here
      exact .wordEnding bare (.blank blank (hypothesis rfl (by simp)))
  | case4 position pending character following visible glyph separate hypothesis =>
      subst here
      have single : ∀ other ∈ [character], Text.isBlank other = false := by simpa using visible
      exact .wordEnding bare (.lexeme single (hypothesis rfl (by simp)))
  | case5 position pending character following visible solid separate hypothesis =>
      have rest : Tiles start _ _ :=
        hypothesis (by simp [← here, Nat.add_assoc]) (by simpa [visible] using bare)
      simpa using rest

theorem Tiles.le_start {position : Nat} {characters : List Char} {lexemes : List Lexeme}
    (tiles : Tiles position characters lexemes) {lexeme : Lexeme} (member : lexeme ∈ lexemes) :
    position ≤ lexeme.start := by
  induction tiles with
  | nil => cases member
  | blank _ _ hypothesis => exact (Nat.le_succ _).trans (hypothesis member)
  | lexeme _ _ hypothesis =>
      rcases List.mem_cons.mp member with rfl | member
      · exact Nat.le_refl _
      · exact (Nat.le_add_right ..).trans (hypothesis member)

/-- A place that some lexeme takes up. -/
def Covered (lexemes : List Lexeme) (place : Nat) : Prop :=
  ∃ lexeme ∈ lexemes, lexeme.start ≤ place ∧ place < lexeme.start + lexeme.text.length

theorem covered_cons {lexeme : Lexeme} {lexemes : List Lexeme} {place : Nat} :
    Covered (lexeme :: lexemes) place ↔
      (lexeme.start ≤ place ∧ place < lexeme.start + lexeme.text.length) ∨
        Covered lexemes place := by
  simp [Covered]

/--
The places that lexemes take up are those that are not blank.  In front of the
first lexeme nothing is taken up, since all others begin later.
-/
theorem Tiles.covered_iff {position offset : Nat} {characters : List Char} {lexemes : List Lexeme}
    {character : Char} (tiles : Tiles position characters lexemes)
    (here : characters[offset]? = some character) :
    Covered lexemes (position + offset) ↔ Text.isBlank character = false := by
  induction tiles generalizing offset with
  | nil => simp at here
  | @blank position first following lexemes blank others hypothesis =>
      cases offset with
      | zero =>
          obtain rfl : first = character := by simpa using here
          have uncovered : ¬ Covered lexemes position := by
            rintro ⟨lexeme, member, starts, -⟩
            have later := others.le_start member
            omega
          simpa [blank] using uncovered
      | succ offset =>
          rw [← hypothesis (by simpa using here), Nat.add_assoc, Nat.add_comm 1]
  | @lexeme position own following lexemes bare others hypothesis =>
      rw [covered_cons, String.length_ofList]
      by_cases within : offset < own.length
      · have member : character ∈ own := by
          rw [List.getElem?_append_left within] at here
          exact List.mem_of_getElem? here
        simp only [bare character member, iff_true]
        exact .inl ⟨Nat.le_add_right .., by omega⟩
      · rw [List.getElem?_append_right (Nat.le_of_not_lt within)] at here
        have later := hypothesis here
        rw [Nat.add_assoc, Nat.add_sub_cancel' (Nat.le_of_not_lt within)] at later
        rw [← later, or_iff_right fun ⟨_, ends⟩ => within (Nat.lt_of_add_lt_add_left ends)]

/-! ## Tokens -/

/-- No token goes beyond the text. -/
theorem stop_le_length {text : String} {token : Token} (member : token ∈ scan text) :
    token.stop ≤ text.length := by
  have written := slice_of_mem_scan member
  obtain ⟨lexeme, known, rfl⟩ := List.mem_map.mp member
  have size := congrArg String.length written
  have nonempty := (isLexeme_of_mem_lexemes known).length_pos
  simp only [slice, ofLexeme, String.length_ofList, List.length_take, List.length_drop,
    String.length_toList] at size ⊢
  omega

/--
The tokens of a text tile it.  They are not empty, they lie in the text, and
each of them ends before the next one begins.  A place of the text is inside a
token just if it is neither blank nor in a comment.  And each token, scanned
alone, is the same token again, from the beginning of its piece to the end.
-/
theorem scan_tiles (text : String) :
    (∀ token ∈ scan text, token.start < token.stop ∧ token.stop ≤ text.length) ∧
      ((scan text).Pairwise fun left right => left.stop ≤ right.start) ∧
      (∀ place character, text.toList[place]? = some character →
        ((∃ token ∈ scan text, token.start ≤ place ∧ place < token.stop) ↔
          ¬ (Text.isBlank character = true ∨ InComment text.toList place))) ∧
      ∀ token ∈ scan text,
        scan (slice text token) =
          [{ token with start := 0, stop := (slice text token).length }] := by
  refine ⟨fun token member => ⟨start_lt_stop member, stop_le_length member⟩, pairwise_scan text,
    ?_, ?_⟩
  · intro place character here
    obtain ⟨shown, blanked, blank⟩ := getElem?_blankComments here
    have tiles : Tiles 0 (blankComments false text.toList) (lexemes text) :=
      @tiles_split 0 0 [] _ rfl (by simp)
    have covered := tiles.covered_iff blanked
    rw [Nat.zero_add, ← Bool.not_eq_true, blank] at covered
    rw [← covered]
    simp [scan, Covered, ofLexeme]
  · intro token member
    rw [slice_of_mem_scan member, (isLexeme_of_mem_scan member).scan_eq]
    obtain ⟨lexeme, -, rfl⟩ := List.mem_map.mp member
    simp [ofLexeme]

end Logo.Token
