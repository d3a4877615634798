import Logo.Proofs.Number.Reading
import Logo.Text.CaseFold

/-!
# Numerals and case

Whether a word spells a finite number, and which, is not a matter of case: two
words that are the same when case is ignored spell the same finite number, or
both spell none.

The only letter of such a numeral is the mark before its exponent.  Folding
leaves alone whatever is no letter, makes both marks the same, and never makes
a mark or a sign of another letter alone.
-/

namespace Logo.Text

/-! ## Folding letters -/

/-- Whether a character may stand in a numeral: it is no letter, or marks an exponent. -/
def isMark (character : Char) : Bool :=
  !isLetter character || character == 'e' || character == 'E'

/-- The same mark in lower case. -/
def lowerMark (character : Char) : Char :=
  if character = 'E' then 'e' else character

theorem isMark_lowerMark {character : Char} (mark : isMark character = true) :
    isMark (lowerMark character) = true := by
  unfold lowerMark
  split
  · decide
  · exact mark

theorem signRanges_isFixed :
    (signRanges.all fun range => foldTable.isFixed ⟨range.1, range.2, 1⟩) = true := by
  decide +kernel

/-- Folding leaves a character alone that is no letter, and an exponent mark becomes lower case. -/
theorem mapChar_fold_of_isMark {character : Char} (mark : isMark character = true) :
    foldTable.mapChar character = [lowerMark character] := by
  have lower : foldTable.mapChar 'e' = ['e'] := by decide
  have upper : foldTable.mapChar 'E' = ['e'] := by decide
  simp only [isMark, Bool.or_eq_true, Bool.not_eq_true', beq_iff_eq] at mark
  rcases mark with (sign | rfl) | rfl
  · obtain ⟨range, known, outside⟩ := List.all_eq_false.mp sign
    simp only [Bool.not_eq_true', Bool.and_eq_false_iff, decide_eq_false_iff_not, not_or,
      not_not] at outside
    have holds : (⟨range.1, range.2, 1⟩ : Span).Holds character.toNat :=
      ⟨outside.1, outside.2, Nat.mod_one _⟩
    have fixed := List.all_eq_true.mp signRanges_isFixed range known
    have other : character ≠ 'E' := by
      rintro rfl
      exact absurd sign (by decide)
    rw [CaseTable.mapChar, CaseTable.mapCode_eq_self fixed holds, lowerMark, if_neg other]
    simp
  · exact lower
  · exact upper

/-- Whether a span holds letters only, and no exponent mark. -/
def Span.isUnmarked (span : Span) : Bool :=
  Nat.blt span.last 0x110000 && span.avoids 0x45 0x45 && span.avoids 0x65 0x65 &&
    signRanges.all fun range => span.avoids range.1 range.2

/-- No character of an unmarked span can be part of a numeral. -/
theorem not_isMark_of_holds {span : Span} {code : Nat} (unmarked : span.isUnmarked = true)
    (holds : span.Holds code) : isMark (Char.ofNat code) = false := by
  simp only [Span.isUnmarked, Bool.and_eq_true, Nat.blt_eq, List.all_eq_true] at unmarked
  obtain ⟨⟨⟨small, upper⟩, lower⟩, letters⟩ := unmarked
  have same := toNat_ofNat_of_avoids small letters holds
  have notLower : Char.ofNat code ≠ 'e' := by
    intro mark
    have apart := Span.outside_of_avoids lower holds
    have code_eq : code = 0x65 := by rw [← same, mark]; rfl
    omega
  have notUpper : Char.ofNat code ≠ 'E' := by
    intro mark
    have apart := Span.outside_of_avoids upper holds
    have code_eq : code = 0x45 := by rw [← same, mark]; rfl
    omega
  simp [isMark, isLetter_of_avoids small letters holds, notLower, notUpper]

theorem images_isUnmarked :
    (foldRuns.tail.all fun run => (CaseTable.imageOf run).isUnmarked) = true := by
  decide +kernel

theorem expansions_isUnmarked :
    (foldExpansions.all fun expansion =>
      expansion.2.any fun code => (Span.single code).isUnmarked) = true := by
  decide +kernel

/-- The capitals of ASCII other than the mark do not become marks. -/
theorem capitals_isUnmarked :
    ((List.range 26).all fun index => index == 4 ||
      !isMark (Char.ofNat (0x61 + index))) = true := by
  decide +kernel

/-- What folding makes of a letter other than a mark has such a letter in it. -/
theorem exists_not_isMark_of_mapChar {character : Char} (other : isMark character = false) :
    ∃ letter ∈ foldTable.mapChar character, isMark letter = false := by
  rw [CaseTable.mapChar, CaseTable.mapCode]
  split
  · rename_i image moved
    refine ⟨Char.ofNat image, List.mem_singleton.mpr rfl, ?_⟩
    change moveIn? character.toNat (⟨0x41, 0x5a, 1, 0x61⟩ :: foldRuns.tail) = some image at moved
    rw [moveIn?] at moved
    split at moved
    · cases moved
    · split at moved
      · rename_i within
        cases moved
        unfold CaseRun.move? at within
        split at within
        · rename_i capital
          cases within
          simp only [Bool.and_eq_true, decide_eq_true_eq] at capital
          have index : character.toNat - 0x41 ∈ List.range 26 := by
            rw [List.mem_range]
            omega
          have letter := List.all_eq_true.mp capitals_isUnmarked _ index
          rw [Bool.or_eq_true, beq_iff_eq, Bool.not_eq_true'] at letter
          rcases letter with fourth | unmarked
          · have mark : character = 'E' := Char.toNat_inj.mp (show character.toNat = 0x45 by omega)
            exact absurd other (by rw [mark]; decide)
          · exact unmarked
        · cases within
      · obtain ⟨run, known, holds⟩ := CaseTable.moveIn?_mem moved
        exact not_isMark_of_holds (List.all_eq_true.mp images_isUnmarked run known) holds
  · cases expanded : expandIn? character.toNat foldTable.expansions with
    | none => exact ⟨character, by simp, other⟩
    | some letters =>
        have known := CaseTable.expandIn?_mem expanded
        obtain ⟨code, member, unmarked⟩ :=
          List.any_eq_true.mp (List.all_eq_true.mp expansions_isUnmarked _ known)
        exact ⟨Char.ofNat code, List.mem_map_of_mem member,
          not_isMark_of_holds unmarked (Span.holds_single code)⟩

/-! ## Folding texts -/

theorem toList_fold (text : String) :
    (fold text).toList = text.toList.flatMap foldTable.mapChar := by
  rw [fold, CaseTable.mapText, String.toList_ofList]

/-- Marks are folded one by one to lower case. -/
theorem flatMap_fold_of_isMark {characters : List Char}
    (marks : ∀ character ∈ characters, isMark character = true) :
    characters.flatMap foldTable.mapChar = characters.map lowerMark := by
  induction characters with
  | nil => rfl
  | cons character rest hypothesis =>
      rw [List.flatMap_cons, mapChar_fold_of_isMark (marks character (List.mem_cons_self ..)),
        hypothesis fun other member => marks other (List.mem_cons_of_mem _ member)]
      rfl

/-- What folds to marks consists of marks. -/
theorem isMark_of_fold {text : String}
    (marks : ∀ letter ∈ (fold text).toList, isMark letter = true) :
    ∀ character ∈ text.toList, isMark character = true := by
  intro character member
  rw [← Bool.not_eq_false]
  intro other
  obtain ⟨letter, made, bare⟩ := exists_not_isMark_of_mapChar other
  have folded : letter ∈ (fold text).toList := by
    rw [toList_fold]
    exact List.mem_flatMap.mpr ⟨character, member, made⟩
  rw [marks letter folded] at bare
  cases bare

/-- Two texts with one folding, one of them of marks only, differ at most in the case of marks. -/
theorem map_lowerMark_of_fold {first second : String} (same : fold first = fold second)
    (marks : ∀ character ∈ first.toList, isMark character = true) :
    first.toList.map lowerMark = second.toList.map lowerMark := by
  have folded : (fold first).toList = first.toList.map lowerMark := by
    rw [toList_fold, flatMap_fold_of_isMark marks]
  have others : ∀ character ∈ second.toList, isMark character = true := by
    apply isMark_of_fold
    rw [← same, folded]
    intro letter member
    obtain ⟨character, known, rfl⟩ := List.mem_map.mp member
    exact isMark_lowerMark (marks character known)
  rw [← folded, same, toList_fold, flatMap_fold_of_isMark others]

end Logo.Text

namespace Logo.Number

open Text (isMark lowerMark)

/-! ## Numerals consist of marks -/

theorem isMark_of_isDigit {character : Char} (digit : Text.isDigit character = true) :
    isMark character = true := by
  cases letter : Text.isLetter character with
  | false => simp [isMark, letter]
  | true => simp [Text.isDigit_of_isLetter letter] at digit

theorem isMark_of_isBlank {character : Char} (blank : Text.isBlank character = true) :
    isMark character = true := by
  cases letter : Text.isLetter character with
  | false => simp [isMark, letter]
  | true => simp [Text.isBlank_of_isLetter letter] at blank

theorem isMark_of_digitValue? {character : Char} {digit : Nat}
    (value : Text.digitValue? character = some digit) : isMark character = true :=
  isMark_of_isDigit (Option.isSome_of_eq_some value)

/-- What is read as digits consists of marks. -/
theorem readDigits_marks (afterDigit : Bool) (characters : List Char) :
    ∀ character ∈ characters,
      isMark character = true ∨ character ∈ (readDigits afterDigit characters).2 := by
  fun_induction readDigits afterDigit characters with
  | case1 => exact fun _ member => .inr member
  | case2 afterDigit first rest digit value digits remaining read hypothesis =>
      rw [read] at hypothesis
      intro character member
      rcases List.mem_cons.mp member with rfl | member
      · exact .inl (isMark_of_digitValue? value)
      · exact hypothesis character member
  | case3 afterDigit first _ joined next others digit value digits remaining read hypothesis =>
      rw [read] at hypothesis
      intro character member
      rcases List.mem_cons.mp member with rfl | member
      · rw [Bool.and_eq_true, beq_iff_eq] at joined
        rw [joined.1]
        exact .inl (by decide)
      · rcases List.mem_cons.mp member with rfl | member
        · exact .inl (isMark_of_digitValue? value)
        · exact hypothesis character member
  | case4 | case5 | case6 => exact fun _ member => .inr member

theorem readSign_marks (characters : List Char) :
    ∀ character ∈ characters, isMark character = true ∨ character ∈ (readSign characters).2 := by
  intro character member
  unfold readSign
  split
  · rcases List.mem_cons.mp member with rfl | member
    · exact .inl (by decide)
    · exact .inr member
  · rcases List.mem_cons.mp member with rfl | member
    · exact .inl (by decide)
    · exact .inr member
  · exact .inr member

/-- An exponent is made of marks. -/
theorem readExponent?_marks {characters : List Char} {power : Int}
    (reads : readExponent? characters = some power) :
    ∀ character ∈ characters, isMark character = true := by
  cases characters with
  | nil => simp
  | cons mark rest =>
      rw [readExponent?] at reads
      split at reads
      · rename_i letter
        have first : isMark mark = true := by
          simp only [Bool.or_eq_true, beq_iff_eq] at letter
          rcases letter with rfl | rfl <;> decide
        rcases sign : readSign rest with ⟨negative, unsigned⟩
        rcases read : readDigits false unsigned with ⟨_ | ⟨digit, digits⟩, _ | ⟨next, others⟩⟩
        all_goals rw [sign] at reads; dsimp only at reads; rw [read] at reads
        · cases reads
        · cases reads
        · intro character member
          have signed := readSign_marks rest
          have digital := readDigits_marks false unsigned
          rw [sign] at signed
          rw [read] at digital
          rcases List.mem_cons.mp member with rfl | member
          · exact first
          · rcases signed character member with known | member
            · exact known
            · exact (digital character member).resolve_right List.not_mem_nil
        · cases reads
      · cases reads

theorem readFraction_marks (characters : List Char) :
    ∀ character ∈ characters,
      isMark character = true ∨ character ∈ (readFraction characters).2 := by
  intro character member
  unfold readFraction
  split
  · rename_i rest
    rcases List.mem_cons.mp member with rfl | member
    · exact .inl (by decide)
    · exact readDigits_marks false rest character member
  · exact .inr member

/-- An unsigned numeral is made of marks. -/
theorem readUnsigned?_marks {negative : Bool} {characters : List Char} {number : Float}
    (reads : readUnsigned? negative characters = some number) :
    ∀ character ∈ characters, isMark character = true := by
  rw [readUnsigned?_eq, Option.ite_none_left_eq_some, Option.map_eq_some_iff] at reads
  obtain ⟨-, power, scale, -⟩ := reads
  intro character member
  rcases readDigits_marks false characters character member with known | member
  · exact known
  · rcases readFraction_marks _ character member with known | member
    · exact known
    · exact readExponent?_marks scale character member

theorem trimBlanks_marks (characters : List Char) :
    ∀ character ∈ characters, isMark character = true ∨ character ∈ trimBlanks characters := by
  have dropped : ∀ row : List Char, ∀ character ∈ row,
      isMark character = true ∨ character ∈ row.dropWhile Text.isNumeralBlank := by
    intro row character member
    rw [← List.takeWhile_append_dropWhile (p := Text.isNumeralBlank) (l := row)] at member
    rcases List.mem_append.mp member with front | back
    · have blank := List.mem_takeWhile_imp front
      rw [Text.isNumeralBlank, Bool.and_eq_true] at blank
      exact .inl (isMark_of_isBlank blank.1)
    · exact .inr back
  intro character member
  rcases dropped characters character member with known | member
  · exact .inl known
  · rcases dropped _ character (List.mem_reverse.mpr member) with known | member
    · exact .inl known
    · exact .inr (List.mem_reverse.mpr member)

/-- A word for a number stands for one that is not finite. -/
theorem isFinite_readWord? {negative : Bool} {characters : List Char} {number : Float}
    (reads : readWord? negative characters = some number) : number.isFinite = false := by
  have infinite : (ofMagnitudeBits negative infinityBits).isFinite = false := by
    cases negative <;> decide +kernel
  have undefined : (0 / 0 : Float).isFinite = false := by decide +kernel
  unfold readWord? at reads
  dsimp only at reads
  split at reads
  · cases reads
    exact infinite
  · split at reads
    · cases reads
      exact undefined
    · cases reads

/-- A word that spells a finite number consists of marks. -/
theorem finite?_marks {text : String} {number : Float} (reads : finite? text = some number) :
    ∀ character ∈ text.toList, isMark character = true := by
  rw [finite?, Option.filter_eq_some_iff] at reads
  obtain ⟨reads, finite⟩ := reads
  rw [read?] at reads
  rcases sign : readSign (trimBlanks text.toList) with ⟨negative, unsigned⟩
  rw [sign] at reads
  dsimp only at reads
  split at reads
  · rename_i word
    cases reads
    rw [isFinite_readWord? word] at finite
    cases finite
  · intro character member
    have signed := readSign_marks (trimBlanks text.toList)
    rw [sign] at signed
    rcases trimBlanks_marks text.toList character member with known | member
    · exact known
    · rcases signed character member with known | member
      · exact known
      · exact readUnsigned?_marks reads character member

/-! ## Reading ignores the case of marks -/

theorem digitValue?_lowerMark (character : Char) :
    Text.digitValue? (lowerMark character) = Text.digitValue? character := by
  unfold lowerMark
  split
  · rename_i mark
    rw [mark]
    decide
  · rfl

theorem isNumeralBlank_lowerMark (character : Char) :
    Text.isNumeralBlank (lowerMark character) = Text.isNumeralBlank character := by
  unfold lowerMark
  split
  · rename_i mark
    rw [mark]
    decide
  · rfl

theorem toLower_lowerMark (character : Char) :
    (lowerMark character).toLower = character.toLower := by
  unfold lowerMark
  split
  · rename_i mark
    rw [mark]
    decide
  · rfl

theorem lowerMark_eq_iff {character sign : Char} (lower : sign ≠ 'e') (upper : sign ≠ 'E') :
    lowerMark character = sign ↔ character = sign := by
  unfold lowerMark
  split
  · rename_i mark
    rw [mark]
    exact ⟨fun same => absurd same.symm lower, fun same => absurd same.symm upper⟩
  · exact Iff.rfl

/-- Digits are read alike in upper and in lower case. -/
theorem readDigits_map (afterDigit : Bool) (characters : List Char) :
    readDigits afterDigit (characters.map lowerMark) =
      ((readDigits afterDigit characters).1,
        (readDigits afterDigit characters).2.map lowerMark) := by
  have line (character : Char) : (lowerMark character == '_') = (character == '_') := by
    rw [Bool.eq_iff_iff, beq_iff_eq, beq_iff_eq, lowerMark_eq_iff (by decide) (by decide)]
  fun_induction readDigits afterDigit characters with
  | case1 => rfl
  | case2 afterDigit first rest digit value digits remaining read hypothesis =>
      rw [read] at hypothesis
      rw [List.map_cons, readDigits.eq_def]
      simp only [digitValue?_lowerMark, value, hypothesis]
  | case3 afterDigit first other joined next others digit value digits remaining read hypothesis =>
      rw [read] at hypothesis
      rw [List.map_cons, List.map_cons, readDigits.eq_def]
      simp only [digitValue?_lowerMark, other, line, joined, value, hypothesis, if_true]
  | case4 afterDigit first other joined next others none =>
      rw [List.map_cons, List.map_cons, readDigits.eq_def]
      simp only [digitValue?_lowerMark, other, line, joined, none, if_true]
  | case5 afterDigit first other joined =>
      rw [List.map_cons, readDigits.eq_def]
      simp only [digitValue?_lowerMark, other, line, joined, if_true, List.map_nil]
  | case6 afterDigit first rest other apart =>
      rw [List.map_cons, readDigits.eq_def]
      simp only [digitValue?_lowerMark, other, line, apart]
      rfl

theorem readSign_cons (first : Char) (rest : List Char) :
    readSign (first :: rest) =
      if first = '-' then (true, rest) else if first = '+' then (false, rest)
      else (false, first :: rest) := by
  unfold readSign
  split <;> simp_all

theorem readSign_map (characters : List Char) :
    readSign (characters.map lowerMark) =
      ((readSign characters).1, (readSign characters).2.map lowerMark) := by
  cases characters with
  | nil => rfl
  | cons first rest =>
      rw [List.map_cons, readSign_cons, readSign_cons]
      simp only [lowerMark_eq_iff (show '-' ≠ 'e' by decide) (by decide),
        lowerMark_eq_iff (show '+' ≠ 'e' by decide) (by decide)]
      split
      · rfl
      · split <;> rfl

theorem readExponent?_map (characters : List Char) :
    readExponent? (characters.map lowerMark) = readExponent? characters := by
  cases characters with
  | nil => rfl
  | cons mark rest =>
      have marks : (lowerMark mark == 'e' || lowerMark mark == 'E') =
          (mark == 'e' || mark == 'E') := by
        unfold lowerMark
        split
        · rename_i upper
          rw [upper]
          decide
        · rfl
      rw [List.map_cons, readExponent?, readExponent?, marks, readSign_map]
      dsimp only
      rw [readDigits_map]
      rcases readDigits false (readSign rest).2 with
        ⟨_ | ⟨digit, digits⟩, _ | ⟨next, others⟩⟩ <;> rfl

theorem readFraction_map (characters : List Char) :
    readFraction (characters.map lowerMark) =
      ((readFraction characters).1, (readFraction characters).2.map lowerMark) := by
  cases characters with
  | nil => rfl
  | cons first rest =>
      rw [List.map_cons, readFraction_cons, readFraction_cons]
      simp only [lowerMark_eq_iff (show '.' ≠ 'e' by decide) (by decide)]
      split
      · exact readDigits_map false rest
      · rfl

theorem readUnsigned?_map (negative : Bool) (characters : List Char) :
    readUnsigned? negative (characters.map lowerMark) = readUnsigned? negative characters := by
  rw [readUnsigned?_eq, readUnsigned?_eq, readDigits_map, readFraction_map, readExponent?_map]

theorem trimBlanks_map (characters : List Char) :
    trimBlanks (characters.map lowerMark) = (trimBlanks characters).map lowerMark := by
  have blank : Text.isNumeralBlank ∘ lowerMark = Text.isNumeralBlank :=
    funext isNumeralBlank_lowerMark
  rw [trimBlanks, trimBlanks, List.dropWhile_map, blank, ← List.map_reverse,
    List.dropWhile_map, blank, List.map_reverse]

theorem readWord?_map (negative : Bool) (characters : List Char) :
    readWord? negative (characters.map lowerMark) = readWord? negative characters := by
  have lower : Char.toLower ∘ lowerMark = Char.toLower := funext toLower_lowerMark
  rw [readWord?, readWord?, List.map_map, lower]

/-- A numeral in lower case is read as the same number. -/
theorem read?_map (characters : List Char) :
    read? (String.ofList (characters.map lowerMark)) = read? (String.ofList characters) := by
  rw [read?, read?, String.toList_ofList, String.toList_ofList, trimBlanks_map, readSign_map]
  dsimp only
  rw [readWord?_map, readUnsigned?_map]

/-- Words that are the same when case is ignored spell the same finite number, or none. -/
theorem finite?_eq_of_fold {first second : String} (same : Text.fold first = Text.fold second) :
    finite? first = finite? second := by
  have agree {first second : String} (same : Text.fold first = Text.fold second) {number : Float}
      (reads : finite? first = some number) : finite? second = some number := by
    have marks := Text.map_lowerMark_of_fold same (finite?_marks reads)
    have equal : read? second = read? first := by
      rw [← String.ofList_toList (s := second), ← read?_map, ← marks, read?_map,
        String.ofList_toList]
    rw [finite?, equal]
    exact reads
  cases left : finite? first with
  | some number => exact (agree same left).symm
  | none =>
      cases right : finite? second with
      | none => rfl
      | some number => exact left.symm.trans (agree same.symm right)

end Logo.Number
