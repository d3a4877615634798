import Logo.Proofs.Token.Layout

/-!
# Where tokens stand

Tokens stand in the order of the text and do not overlap, and each of them is
the piece of the text between its two ends, although scanning looks at the text
only after the comments have been taken out.

A line end is never inside a token, and it ends every comment.  So the tokens of
two texts with a line end between them are the tokens of the first text followed
by those of the second, moved along.
-/

namespace Logo

namespace Token

/-! ## Lines -/

/-- A comment ends with its line. -/
theorem blankComments_lines (inside : Bool) (first second : List Char) :
    blankComments inside (first ++ '\n' :: second) =
      blankComments inside first ++ '\n' :: blankComments false second := by
  induction first generalizing inside with
  | nil => simp [blankComments]
  | cons character first hypothesis =>
      simp only [List.cons_append, blankComments]
      split
      · rw [hypothesis, List.cons_append]
      · split <;> rw [hypothesis, List.cons_append]

/-- Blanking comments keeps all places. -/
theorem length_blankComments (inside : Bool) (characters : List Char) :
    (blankComments inside characters).length = characters.length := by
  induction characters generalizing inside with
  | nil => rfl
  | cons character rest hypothesis =>
      rw [blankComments]
      split
      · simp [hypothesis]
      · split <;> simp [hypothesis]

theorem head?_ne_of_separate {character : Char} {following : List Char}
    (separate : ∀ others, isPaired character = true → following = '=' :: others → False) :
    isPaired character = true → following.head? ≠ some '=' := by
  intro paired begins
  obtain ⟨others, rfl⟩ := List.head?_eq_some_iff.mp begins
  exact separate others paired rfl

/-- A line end does not make an operator with the character before it. -/
theorem separate_lines {character : Char} {following : List Char}
    (separate : ∀ others, isPaired character = true → following = '=' :: others → False)
    (second : List Char) :
    isPaired character = true → (following ++ '\n' :: second).head? ≠ some '=' := by
  cases following with
  | nil => simp
  | cons next others => simpa using head?_ne_of_separate separate

/-- A line end finishes whatever word is pending. -/
theorem split_lines (position : Nat) (pending first second : List Char) :
    split position pending (first ++ '\n' :: second) =
      split position pending first ++ split (position + first.length + 1) [] second := by
  fun_induction split position pending first with
  | case1 position pending => exact split_blank (by decide)
  | case2 position pending character others paired hypothesis =>
      rw [List.cons_append, List.cons_append, split_pair paired, hypothesis]
      simp [Nat.add_comm, Nat.add_left_comm]
  | case3 position pending character following blank separate hypothesis =>
      rw [List.cons_append, split_blank blank, hypothesis]
      simp [Nat.add_comm, Nat.add_left_comm]
  | case4 position pending character following visible glyph separate hypothesis =>
      rw [List.cons_append, split_single (separate_lines separate second), if_neg visible,
        if_pos glyph, hypothesis]
      simp [Nat.add_comm, Nat.add_left_comm]
  | case5 position pending character following visible bare separate hypothesis =>
      rw [List.cons_append, split_single (separate_lines separate second), if_neg visible,
        if_neg bare, hypothesis]
      simp [Nat.add_comm, Nat.add_left_comm]

end Token

/-- A lexeme further down in a text. -/
def Lexeme.shift (distance : Nat) (lexeme : Lexeme) : Lexeme :=
  { lexeme with start := lexeme.start + distance }

namespace Token

theorem wordEnding_shift (distance : Nat) {position : Nat} {pending : List Char}
    (fits : pending.length ≤ position) :
    wordEnding (position + distance) pending =
      (wordEnding position pending).map (Lexeme.shift distance) := by
  unfold wordEnding
  split
  · rfl
  · simp only [List.map_cons, List.map_nil, Lexeme.shift]
    rw [Nat.sub_add_comm fits]

/-- What is cut does not depend on where the text starts. -/
theorem split_shift (distance : Nat) {position : Nat} {pending characters : List Char}
    (fits : pending.length ≤ position) :
    split (position + distance) pending characters =
      (split position pending characters).map (Lexeme.shift distance) := by
  fun_induction split position pending characters with
  | case1 position pending => exact wordEnding_shift distance fits
  | case2 position pending character others paired hypothesis =>
      rw [split_pair paired, wordEnding_shift distance fits, Nat.add_right_comm,
        hypothesis (Nat.zero_le _), List.map_append, List.map_cons]
      rfl
  | case3 position pending character following blank separate hypothesis =>
      rw [split_blank blank, wordEnding_shift distance fits, Nat.add_right_comm,
        hypothesis (Nat.zero_le _), List.map_append]
  | case4 position pending character following visible glyph separate hypothesis =>
      rw [split_single (head?_ne_of_separate separate), if_neg visible, if_pos glyph,
        wordEnding_shift distance fits, Nat.add_right_comm, hypothesis (Nat.zero_le _),
        List.map_append, List.map_cons]
      rfl
  | case5 position pending character following visible bare separate hypothesis =>
      rw [split_single (head?_ne_of_separate separate), if_neg visible, if_neg bare,
        Nat.add_right_comm, hypothesis (Nat.succ_le_succ fits)]

/-- The tokens of lines one after the other. -/
theorem lexemes_lines (first second : String) :
    lexemes (first ++ "\n" ++ second) =
      lexemes first ++ (lexemes second).map (Lexeme.shift (first.length + 1)) := by
  have cut : (first ++ "\n" ++ second).toList = first.toList ++ '\n' :: second.toList := by
    simp [String.toList_append]
  rw [lexemes, cut, blankComments_lines, split_lines, length_blankComments, String.length_toList,
    Nat.zero_add]
  have moved : split (0 + (first.length + 1)) [] _ = (lexemes second).map _ :=
    split_shift (first.length + 1) (Nat.zero_le _)
  rw [Nat.zero_add] at moved
  rw [moved]
  rfl

/-! ## Pieces of a text -/

/-- Lexemes that stand in a text from a position on, in order and without overlap. -/
inductive Located (characters : List Char) : Nat → List Lexeme → Prop where
  | nil {position : Nat} : Located characters position []
  | cons {position : Nat} {lexeme : Lexeme} {rest : List Lexeme} (after : position ≤ lexeme.start)
      (piece : (characters.drop lexeme.start).take lexeme.text.length = lexeme.text.toList)
      (others : Located characters (lexeme.start + lexeme.text.length) rest) :
      Located characters position (lexeme :: rest)

theorem Located.earlier {characters : List Char} {position before : Nat} {lexemes : List Lexeme}
    (located : Located characters position lexemes) (earlier : before ≤ position) :
    Located characters before lexemes := by
  cases located with
  | nil => exact .nil
  | cons after piece others => exact .cons (earlier.trans after) piece others

/-- One lexeme right after some characters. -/
theorem Located.next {before own after : List Char} {rest : List Lexeme}
    (others : Located (before ++ (own ++ after)) (before.length + own.length) rest) :
    Located (before ++ (own ++ after)) before.length
      (⟨String.ofList own, before.length⟩ :: rest) := by
  refine .cons (Nat.le_refl _) ?_ ?_
  · simp
  · simpa using others

theorem Located.wordEnding {before pending characters : List Char} {rest : List Lexeme}
    (others : Located (before ++ (pending.reverse ++ characters)) (before.length + pending.length)
      rest) :
    Located (before ++ (pending.reverse ++ characters)) before.length
      (wordEnding (before.length + pending.length) pending ++ rest) := by
  unfold Token.wordEnding
  split
  · exact others.earlier (Nat.le_add_right ..)
  · rw [Nat.add_sub_cancel]
    exact .next (by simpa using others)

/-- A pending word, and one lexeme right after it. -/
theorem Located.cut {before pending own following : List Char} {rest : List Lexeme}
    (others : Located (before ++ pending.reverse ++ own ++ following)
      (before ++ pending.reverse ++ own).length rest) :
    Located (before ++ (pending.reverse ++ (own ++ following))) before.length
      (Token.wordEnding (before.length + pending.length) pending ++
        ⟨String.ofList own, before.length + pending.length⟩ :: rest) := by
  have last : before.length + pending.length = (before ++ pending.reverse).length := by simp
  refine .wordEnding ?_
  rw [last, ← List.append_assoc]
  refine .next ?_
  simpa [Nat.add_assoc] using others

/-- Whatever is cut from a text stands in it. -/
theorem located_split {before pending characters : List Char} {position : Nat}
    (here : before.length + pending.length = position) :
    Located (before ++ (pending.reverse ++ characters)) before.length
      (split position pending characters) := by
  fun_induction split position pending characters generalizing before with
  | case1 position pending =>
      subst here
      have last : Located (before ++ (pending.reverse ++ [])) _ (_ ++ []) := .wordEnding .nil
      rwa [List.append_nil (wordEnding _ _)] at last
  | case2 position pending character others paired hypothesis =>
      subst here
      have rest : Located (before ++ pending.reverse ++ [character, '='] ++ others) _ _ :=
        hypothesis (by simp [Nat.add_assoc])
      exact rest.cut
  | case3 position pending character following blank separate hypothesis =>
      subst here
      have rest : Located (before ++ pending.reverse ++ [character] ++ following) _ _ :=
        hypothesis (by simp [Nat.add_assoc])
      refine .wordEnding (Located.earlier ?_ (Nat.le_succ _))
      simpa [Nat.add_assoc] using rest
  | case4 position pending character following visible glyph separate hypothesis =>
      subst here
      have rest : Located (before ++ pending.reverse ++ [character] ++ following) _ _ :=
        hypothesis (by simp [Nat.add_assoc])
      exact rest.cut
  | case5 position pending character following visible bare separate hypothesis =>
      simpa using hypothesis (by simp [← here, Nat.add_assoc])

/-- Taking out comments changes nothing but the comments, which become spaces. -/
theorem blankComments_forall₂ (inside : Bool) (characters : List Char) :
    List.Forall₂ (fun character shown => shown = character ∨ shown = ' ') characters
      (blankComments inside characters) := by
  induction characters generalizing inside with
  | nil => exact .nil
  | cons character rest hypothesis =>
      rw [blankComments]
      split
      · rename_i line
        exact .cons (.inl (eq_of_beq line).symm) (hypothesis _)
      · split
        · exact .cons (.inr rfl) (hypothesis _)
        · exact .cons (.inl rfl) (hypothesis _)

theorem eq_of_forall₂_spaces {characters shown : List Char}
    (same : List.Forall₂ (fun character shown => shown = character ∨ shown = ' ') characters shown)
    (solid : ∀ character ∈ shown, character ≠ ' ') : characters = shown := by
  induction same with
  | nil => rfl
  | cons same _ hypothesis =>
      rw [hypothesis fun other member => solid other (List.mem_cons_of_mem _ member),
        same.resolve_right (solid _ (List.mem_cons_self ..))]

/-- Lexemes without spaces stand in the text as it is, if they stand in it without comments. -/
theorem Located.of_blankComments {inside : Bool} {characters : List Char} {position : Nat}
    {lexemes : List Lexeme} (located : Located (blankComments inside characters) position lexemes)
    (solid : ∀ lexeme ∈ lexemes, ∀ character ∈ lexeme.text.toList, character ≠ ' ') :
    Located characters position lexemes := by
  induction located with
  | nil => exact .nil
  | cons after piece _ hypothesis =>
      obtain ⟨own, others⟩ := List.forall_mem_cons.mp solid
      refine .cons after ?_ (hypothesis others)
      have same := (blankComments_forall₂ inside characters)
      rw [← piece]
      refine eq_of_forall₂_spaces ?_ (piece ▸ own)
      exact List.forall₂_take _ (List.forall₂_drop _ same)

theorem IsLexeme.ne_space {text : String} {character : Char} (lexeme : IsLexeme text)
    (member : character ∈ text.toList) : character ≠ ' ' := by
  rintro rfl
  cases lexeme with
  | word word => exact absurd (word.solid _ member) (by decide)
  | glyph single glyph =>
      rw [single, List.mem_singleton] at member
      rw [← member] at glyph
      exact absurd glyph (by decide)
  | pair double paired =>
      rw [double] at member
      rcases List.mem_cons.mp member with rfl | member
      · exact absurd paired (by decide)
      · simp at member

theorem isLexeme_of_mem_lexemes {text : String} {lexeme : Lexeme} (member : lexeme ∈ lexemes text) :
    IsLexeme lexeme.text :=
  isLexeme_of_mem_scan (List.mem_map_of_mem (f := ofLexeme) member)

/-- The lexemes of a text stand in it. -/
theorem located_lexemes (text : String) : Located text.toList 0 (lexemes text) := by
  have cut : Located (blankComments false text.toList) 0 (lexemes text) :=
    @located_split [] [] (blankComments false text.toList) 0 rfl
  exact cut.of_blankComments fun lexeme member _ => (isLexeme_of_mem_lexemes member).ne_space

/-- A lexeme stands where it says. -/
theorem Located.mem {characters : List Char} {position : Nat} {lexemes : List Lexeme}
    (located : Located characters position lexemes) {lexeme : Lexeme} (member : lexeme ∈ lexemes) :
    position ≤ lexeme.start ∧
      (characters.drop lexeme.start).take lexeme.text.length = lexeme.text.toList := by
  induction located with
  | nil => cases member
  | cons after piece _ hypothesis =>
      rcases List.mem_cons.mp member with rfl | member
      · exact ⟨after, piece⟩
      · obtain ⟨later, own⟩ := hypothesis member
        exact ⟨(after.trans (Nat.le_add_right ..)).trans later, own⟩

/-- Lexemes do not overlap. -/
theorem Located.pairwise {characters : List Char} {position : Nat} {lexemes : List Lexeme}
    (located : Located characters position lexemes) :
    lexemes.Pairwise fun left right => left.start + left.text.length ≤ right.start := by
  induction located with
  | nil => exact .nil
  | cons _ _ others hypothesis => exact .cons (fun _ member => (others.mem member).1) hypothesis

theorem IsLexeme.length_pos {text : String} (lexeme : IsLexeme text) : 0 < text.length := by
  rw [← String.length_toList, List.length_pos_iff]
  cases lexeme with
  | word word => exact word.nonempty
  | glyph single _ => simp [single]
  | pair double _ => simp [double]

/-! ## Tokens -/

/-- The piece of a text where a token stands. -/
def slice (text : String) (token : Token) : String :=
  String.ofList ((text.toList.drop token.start).take (token.stop - token.start))

/-- A token is written just where it stands. -/
theorem slice_of_mem_scan {text : String} {token : Token} (member : token ∈ scan text) :
    slice text token = token.lexeme := by
  obtain ⟨lexeme, known, rfl⟩ := List.mem_map.mp member
  have piece := ((located_lexemes text).mem known).2
  rw [slice, ofLexeme, Nat.add_sub_cancel_left, piece, String.ofList_toList]

/-- Tokens stand one after the other. -/
theorem pairwise_scan (text : String) :
    (scan text).Pairwise fun left right => left.stop ≤ right.start :=
  List.pairwise_map.mpr (located_lexemes text).pairwise

/-- No token is empty. -/
theorem start_lt_stop {text : String} {token : Token} (member : token ∈ scan text) :
    token.start < token.stop := by
  obtain ⟨lexeme, known, rfl⟩ := List.mem_map.mp member
  exact Nat.lt_add_of_pos_right (isLexeme_of_mem_lexemes known).length_pos

end Token

end Logo
