import Logo.Number.Written
import Logo.Proofs.Number.Sign
import Logo.Proofs.Token.Spelling

/-!
# Numbers that are shown as numerals

A literal of a program is a row of digits, perhaps with a point, so it stands
for a double without a sign.  Shown without an exponent, such a double is a
numeral again, and its negation is a minus sign before the same numeral.
-/

namespace Logo.Text

theorem isDigit_iff {character : Char} :
    isDigit character = true ↔
      ∃ first ∈ zeros, first ≤ character.toNat ∧ character.toNat < first + 10 := by
  simp [isDigit, digitValue?]

theorem not_isBlank_of_isDigit {character : Char} (digit : isDigit character = true) :
    isBlank character = false := by
  have apart : ∀ first ∈ zeros, ∀ range ∈ blankRanges, range.2 < first ∨ first + 9 < range.1 := by
    decide +kernel
  obtain ⟨first, known, above, below⟩ := isDigit_iff.mp digit
  refine Bool.eq_false_iff.mpr fun blank => ?_
  obtain ⟨range, listed, within⟩ := List.any_eq_true.mp blank
  simp only [Bool.and_eq_true, decide_eq_true_eq] at within
  have := apart first known range listed
  omega

theorem not_isUpper_of_isDigit {character : Char} (digit : isDigit character = true) :
    character.isUpper = false := by
  refine Bool.eq_false_iff.mpr fun upper => ?_
  simp [isDigit_of_isLetter (isLetter_of_isUpper upper)] at digit

theorem isDigit_of_mem_digitsOf {number : Nat} {character : Char}
    (member : character ∈ Number.digitsOf number) : isDigit character = true := by
  have digit := Nat.isDigit_of_mem_toDigits (by decide) (by decide) member
  rw [isDigit_iff]
  simp only [Char.isDigit, Bool.and_eq_true, decide_eq_true_eq, ge_iff_le,
    UInt32.le_iff_toNat_le] at digit
  exact ⟨0x30, by decide, digit.1, Nat.lt_succ_of_le digit.2⟩

end Logo.Text

namespace Logo.Kind

/-- Digits make a numeral. -/
theorem isNumeral_digits {characters : List Char} (nonempty : characters ≠ [])
    (digits : ∀ character ∈ characters, Text.isDigit character = true) :
    isNumeral characters = true := by
  have whole : characters.takeWhile Text.isDigit = characters := by
    rw [List.takeWhile_eq_self_iff]
    exact digits
  have rest : characters.dropWhile Text.isDigit = [] := by
    rw [List.dropWhile_eq_nil_iff]
    exact digits
  simp [isNumeral, whole, rest, nonempty]

theorem isNumeral_point {whole fraction : List Char} (nonempty : whole ≠ []) (some : fraction ≠ [])
    (wholeDigits : ∀ character ∈ whole, Text.isDigit character = true)
    (fractionDigits : ∀ character ∈ fraction, Text.isDigit character = true) :
    isNumeral (whole ++ '.' :: fraction) = true := by
  have point : Text.isDigit '.' = false := by decide
  have front : (whole ++ '.' :: fraction).takeWhile Text.isDigit = whole := by
    rw [List.takeWhile_append_of_pos wholeDigits]
    simp [point]
  have back : (whole ++ '.' :: fraction).dropWhile Text.isDigit = '.' :: fraction := by
    rw [List.dropWhile_append_of_pos wholeDigits]
    simp [point]
  simpa [isNumeral, front, back, nonempty, some] using fractionDigits

/-- A numeral begins with a digit. -/
theorem isNumeral_head {characters : List Char} (numeral : isNumeral characters = true) :
    ∃ first rest, characters = first :: rest ∧ Text.isDigit first = true := by
  cases characters with
  | nil => cases numeral
  | cons first rest =>
      cases digit : Text.isDigit first with
      | false => simp [isNumeral_cons digit] at numeral
      | true => exact ⟨first, rest, rfl, digit⟩

/-- A numeral is a row of digits, perhaps with a point and more digits after it. -/
theorem isNumeral_parts {characters : List Char} (numeral : isNumeral characters = true) :
    ∃ whole rest, characters = whole ++ rest ∧ whole ≠ [] ∧
      (∀ character ∈ whole, Text.isDigit character = true) ∧
      (rest = [] ∨ ∃ fraction, rest = '.' :: fraction ∧
        ∀ character ∈ fraction, Text.isDigit character = true) := by
  refine ⟨characters.takeWhile Text.isDigit, characters.dropWhile Text.isDigit,
    List.takeWhile_append_dropWhile.symm, ?_, fun _ => List.mem_takeWhile_imp, ?_⟩
  · rintro none
    simp [isNumeral, none] at numeral
  · cases ending : characters.dropWhile Text.isDigit with
    | nil => exact .inl rfl
    | cons mark fraction =>
        simp only [isNumeral, ending, Bool.and_eq_true, beq_iff_eq, List.all_eq_true] at numeral
        obtain ⟨-, ⟨rfl, -⟩, digits⟩ := numeral
        exact .inr ⟨fraction, rfl, digits⟩

theorem isBlank_of_isNumeral {characters : List Char} {character : Char}
    (numeral : isNumeral characters = true) (member : character ∈ characters) :
    Text.isBlank character = false := by
  rcases isNumeral_mem numeral member with digit | rfl
  · exact Text.not_isBlank_of_isDigit digit
  · decide

/-- A numeral is a word for the scanner. -/
theorem isWord_of_isNumeral {characters : List Char} (numeral : isNumeral characters = true) :
    Token.IsWord characters := by
  have signs : ['[', ']', '(', ')', '<', '>', '+', '-', '*', '/', '=', '!', ';'].all
      (fun sign => !Text.isDigit sign && sign != '.') = true := by
    decide
  refine .of_forall ?_ ?_
  · rintro rfl
    cases numeral
  · intro character member
    have other : character ∉ ['[', ']', '(', ')', '<', '>', '+', '-', '*', '/', '=', '!', ';'] := by
      intro sign
      have bare := List.all_eq_true.mp signs character sign
      rcases isNumeral_mem numeral member with known | known <;> simp [known] at bare
    have blank := isBlank_of_isNumeral numeral member
    simp only [List.mem_cons, List.not_mem_nil, or_false, not_or] at other
    simp [Token.isSolid, Token.isGlyph, Token.isPaired, blank, other]

end Logo.Kind

namespace Logo.Number

/-! ## Reading numerals -/

theorem trimBlanks_eq_self {characters : List Char}
    (bare : ∀ character ∈ characters, Text.isBlank character = false) :
    trimBlanks characters = characters := by
  have none : ∀ row : List Char, (∀ character ∈ row, Text.isBlank character = false) →
      row.dropWhile Text.isNumeralBlank = row := by
    intro row bare
    cases row with
    | nil => rfl
    | cons first rest =>
        have := bare first (by simp)
        simp [Text.isNumeralBlank, this]
  have back := none characters.reverse (by simpa using bare)
  simp only [trimBlanks, none characters bare, back, List.reverse_reverse]

theorem readWord?_digit (negative : Bool) {first : Char} (rest : List Char)
    (digit : Text.isDigit first = true) : readWord? negative (first :: rest) = none := by
  have lower : first.toLower = first := by
    have capital := Text.not_isUpper_of_isDigit digit
    rw [Char.toLower, dif_neg]
    simpa [Char.isUpper] using capital
  have word : ∀ known ∈ ["inf", "infinity", "nan"],
      String.ofList ((first :: rest).map Char.toLower) ≠ known := by
    have letters : ["inf", "infinity", "nan"].all
        (fun known => known.toList.head?.all (!Text.isDigit ·)) = true := by
      decide
    intro known listed same
    have begins : known.toList.head? = some first := by simp [← same, lower]
    have bare := List.all_eq_true.mp letters known listed
    simp [begins, digit] at bare
  simp only [List.mem_cons, List.not_mem_nil, or_false, forall_eq_or_imp, forall_eq] at word
  simp only [readWord?, beq_eq_false_iff_ne.mpr word.1, beq_eq_false_iff_ne.mpr word.2.1,
    beq_eq_false_iff_ne.mpr word.2.2]
  rfl

theorem readSign_digit {first : Char} (rest : List Char) (digit : Text.isDigit first = true) :
    readSign (first :: rest) = (false, first :: rest) := by
  have minus : Text.isDigit '-' = false := by decide
  have plus : Text.isDigit '+' = false := by decide
  unfold readSign
  split
  · simp_all
  · simp_all
  · rfl

/-- A numeral has no sign, and no blanks to trim. -/
theorem read?_eq_readUnsigned? {text : String} (numeral : Kind.isNumeral text.toList = true) :
    read? text = readUnsigned? false text.toList := by
  have bare : trimBlanks text.toList = text.toList :=
    trimBlanks_eq_self fun _ => Kind.isBlank_of_isNumeral numeral
  obtain ⟨first, rest, characters, digit⟩ := Kind.isNumeral_head numeral
  rw [read?, bare, characters, readSign_digit rest digit]
  simp only [readWord?_digit false rest digit]

/-- Digits are read as far as they go. -/
theorem readDigits_append {digits rest : List Char}
    (decimal : ∀ character ∈ digits, Text.isDigit character = true)
    (stops : ∀ character ∈ rest.head?, Text.isDigit character = false ∧ character ≠ '_')
    (afterDigit : Bool) :
    readDigits afterDigit (digits ++ rest) = (digits.filterMap Text.digitValue?, rest) := by
  induction digits generalizing afterDigit with
  | nil =>
      cases rest with
      | nil => rfl
      | cons character rest =>
          obtain ⟨other, joined⟩ := stops character rfl
          have none : Text.digitValue? character = none := by simpa [Text.isDigit] using other
          rw [List.nil_append]
          unfold readDigits
          simp [none, joined]
  | cons character digits hypothesis =>
      obtain ⟨digit, value⟩ :=
        Option.isSome_iff_exists.mp (decimal character (List.mem_cons_self ..))
      have others := hypothesis (fun _ member => decimal _ (List.mem_cons_of_mem _ member)) true
      rw [List.cons_append]
      unfold readDigits
      simp [value, others]

/-- Every numeral stands for a number. -/
theorem exists_read?_of_isNumeral {text : String} (numeral : Kind.isNumeral text.toList = true) :
    ∃ number, read? text = some number := by
  obtain ⟨whole, rest, characters, nonempty, digits, ending⟩ := Kind.isNumeral_parts numeral
  have some : whole.filterMap Text.digitValue? ≠ [] := by
    obtain ⟨first, others, rfl⟩ := List.exists_cons_of_ne_nil nonempty
    obtain ⟨digit, value⟩ := Option.isSome_iff_exists.mp (digits first (List.mem_cons_self ..))
    simp [value]
  have all {row : List Char} (digits : ∀ character ∈ row, Text.isDigit character = true) :
      readDigits false row = (row.filterMap Text.digitValue?, []) := by
    simpa using readDigits_append digits (by simp : ∀ character ∈ ([] : List Char).head?, _) false
  rw [read?_eq_readUnsigned? numeral, characters]
  rcases ending with rfl | ⟨fraction, rfl, others⟩
  · simp [readUnsigned?, all digits, some, readExponent?]
  · have front : readDigits false (whole ++ '.' :: fraction) =
        (whole.filterMap Text.digitValue?, '.' :: fraction) :=
      readDigits_append digits (by rintro _ ⟨⟩; exact ⟨by decide, by decide⟩) false
    simp [readUnsigned?, front, all others, some, readExponent?]

theorem nearest_eq_ofMagnitudeBits (negative : Bool) (numerator denominator : Nat) :
    ∃ bits ≤ infinityBits,
      nearest negative numerator denominator = ofMagnitudeBits negative bits := by
  unfold nearest
  split
  · exact ⟨0, Nat.zero_le _, rfl⟩
  · exact ⟨_, Nat.min_le_right _ _, rfl⟩

/-- Digits are read as a magnitude with a sign. -/
theorem ofDigits_eq_ofMagnitudeBits (negative : Bool) (digits : Digits) (exponent : Int) :
    ∃ bits ≤ infinityBits, ofDigits negative digits exponent = ofMagnitudeBits negative bits := by
  unfold ofDigits
  dsimp only
  split
  · exact ⟨0, Nat.zero_le _, rfl⟩
  · split
    · exact ⟨infinityBits, Nat.le_refl _, rfl⟩
    · exact nearest_eq_ofMagnitudeBits negative _ _

/-- A literal has a magnitude and no sign. -/
theorem read?_numeral {text : String} {number : Float}
    (numeral : Kind.isNumeral text.toList = true) (reads : read? text = some number) :
    ∃ bits ≤ infinityBits, number = ofMagnitudeBits false bits := by
  rw [read?_eq_readUnsigned? numeral] at reads
  simp only [readUnsigned?, Option.ite_none_left_eq_some, Option.map_eq_some_iff] at reads
  obtain ⟨-, exponent, -, rfl⟩ := reads
  exact ofDigits_eq_ofMagnitudeBits false _ _

/-! ## Showing numbers -/

/--
A number that output shows without an exponent, in a way that is read back as
the number.
-/
structure IsPlain (number : Float) : Prop where
  finite : number.isFinite = true
  positional : 'e' ∉ (plain number).toList
  reads : ∃ again ∈ read? (plain number), (again == number) = true

instance (number : Float) : Decidable (IsPlain number) :=
  decidable_of_iff (number.isFinite = true ∧ 'e' ∉ (plain number).toList ∧
      ∃ again ∈ read? (plain number), (again == number) = true)
    ⟨fun ⟨finite, positional, reads⟩ => ⟨finite, positional, reads⟩,
      fun ⟨finite, positional, reads⟩ => ⟨finite, positional, reads⟩⟩

theorem digitsOf_ne_nil (number : Nat) : digitsOf number ≠ [] :=
  Nat.toDigits_ne_nil

theorem isNumeral_digitsOf (number : Nat) : Kind.isNumeral (digitsOf number) = true :=
  Kind.isNumeral_digits (digitsOf_ne_nil number) fun _ => Text.isDigit_of_mem_digitsOf

/-- Digits with a point among them make a numeral. -/
theorem isNumeral_positional {digits : List Char} (nonempty : digits ≠ []) (leading : Int)
    (decimal : ∀ character ∈ digits, Text.isDigit character = true) :
    Kind.isNumeral (positional digits leading) = true := by
  have zero : Text.isDigit '0' = true := by decide
  unfold positional
  split
  · show Kind.isNumeral (['0'] ++ '.' :: _) = true
    refine Kind.isNumeral_point (by simp) (by simp [nonempty]) (by simp [zero]) ?_
    intro character member
    rcases List.mem_append.mp member with padded | shown
    · obtain rfl := List.eq_of_mem_replicate padded
      exact zero
    · exact decimal character shown
  · dsimp only
    refine Kind.isNumeral_point ?_ ?_ ?_ ?_
    · simp [nonempty]
    · split <;> simp_all
    · intro character member
      rcases List.mem_append.mp member with shown | padded
      · exact decimal character (List.mem_of_mem_take shown)
      · obtain rfl := List.eq_of_mem_replicate padded
        exact zero
    · intro character member
      split at member
      · obtain rfl := List.mem_singleton.mp member
        exact zero
      · exact decimal character (List.mem_of_mem_drop member)

/-- A decimal that is written without an exponent is a numeral. -/
theorem isNumeral_write {decimal : Decimal} (unscaled : 'e' ∉ decimal.write) :
    Kind.isNumeral decimal.write = true := by
  unfold Decimal.write at *
  dsimp only at *
  split
  · exact isNumeral_positional (digitsOf_ne_nil _) _ fun _ => Text.isDigit_of_mem_digitsOf
  · rename_i scaled
    rw [if_neg scaled] at unscaled
    exact absurd (by simp [scientific]) unscaled

/-- The text of the magnitude of a value, as output shows it. -/
def Exact.shown (value : Exact) : List Char :=
  if value.numerator % value.denominator == 0 && value.whole.natAbs < plainLimit then
    digitsOf value.whole.natAbs
  else if value.significand == 0 then
    ['0', '.', '0']
  else
    (Decimal.shortest value).write

/-- A number that is shown without an exponent is shown as a numeral. -/
theorem isNumeral_shown {value : Exact} (unscaled : 'e' ∉ value.shown) :
    Kind.isNumeral value.shown = true := by
  unfold Exact.shown at *
  split
  · exact isNumeral_digitsOf _
  · rename_i broken
    rw [if_neg broken] at unscaled
    split
    · decide
    · rename_i nonzero
      rw [if_neg nonzero] at unscaled
      exact isNumeral_write unscaled

/-- A whole value other than zero has a whole part other than zero. -/
theorem Exact.whole_ne_zero {value : Exact} (nonzero : value.significand ≠ 0)
    (whole : value.numerator % value.denominator = 0) : value.whole ≠ 0 := by
  have magnitude : (if value.exponent < 0 then value.significand >>> (-value.exponent).toNat
      else value.numerator) ≠ 0 := by
    split
    · rename_i small
      have scale : value.exponent.toNat = 0 := by omega
      rw [numerator, denominator, scale, Nat.shiftLeft_zero, Nat.one_shiftLeft] at whole
      rw [Nat.shiftRight_eq_div_pow]
      exact Nat.ne_of_gt (Nat.div_pos (Nat.le_of_dvd (by omega) (Nat.dvd_of_mod_eq_zero whole))
        (Nat.two_pow_pos _))
    · rw [numerator, Nat.shiftLeft_eq]
      exact Nat.mul_ne_zero nonzero (Nat.ne_of_gt (Nat.two_pow_pos _))
  unfold Exact.whole Exact.signed
  split <;> omega

theorem Exact.natAbs_signed (value : Exact) (magnitude : Nat) :
    (value.signed magnitude).natAbs = magnitude := by
  unfold Exact.signed
  split <;> omega

/-- A negative whole number is written with a minus sign, unless it is zero. -/
theorem writeInt_whole {value : Exact} {negative : Bool}
    (nonzero : negative = true → value.whole ≠ 0) :
    writeInt { value with negative := negative }.whole =
      String.ofList ((if negative then ['-'] else []) ++ digitsOf value.whole.natAbs) := by
  have magnitude : { value with negative := negative }.whole.natAbs = value.whole.natAbs := by
    simp only [Exact.whole, Exact.natAbs_signed]
    rfl
  have sign : { value with negative := negative }.whole < 0 ↔ negative = true := by
    have unsigned : { value with negative := negative }.whole =
        if negative then -(value.whole.natAbs : Int) else value.whole.natAbs := by
      rw [← magnitude]
      simp only [Exact.whole, Exact.natAbs_signed]
      rfl
    rw [unsigned]
    cases negative with
    | false => simp
    | true =>
        have := nonzero rfl
        simp only [reduceIte, iff_true]
        omega
  simp only [writeInt, sign, magnitude]
  cases negative <;> rfl

theorem write_signed (negative : Bool) {bits : Nat} (bound : bits < infinityBits) :
    write (ofMagnitudeBits negative bits) = String.ofList ((if negative then ['-'] else []) ++
      if (Exact.ofMagnitude bits).significand == 0 then ['0', '.', '0']
      else (Decimal.shortest (Exact.ofMagnitude bits)).write) := by
  simp only [write, ofFloat?_ofMagnitudeBits negative bound]
  rfl

theorem Exact.significand_ne_zero {bits : Nat} (positive : 0 < bits) :
    (Exact.ofMagnitude bits).significand ≠ 0 := by
  unfold Exact.ofMagnitude
  split
  · exact Nat.ne_of_gt positive
  · exact Nat.ne_of_gt (Nat.add_pos_right _ (by decide))

/-- A number is shown as its magnitude, after a minus sign where it is negative. -/
theorem plain_signed (negative : Bool) {bits : Nat} (bound : bits < infinityBits)
    (signed : negative = true → 0 < bits) :
    plain (ofMagnitudeBits negative bits) =
      String.ofList ((if negative then ['-'] else []) ++ (Exact.ofMagnitude bits).shown) := by
  have size : { Exact.ofMagnitude bits with negative := negative }.whole.natAbs =
      (Exact.ofMagnitude bits).whole.natAbs := by
    simp only [Exact.whole, Exact.natAbs_signed]
    rfl
  have whole : isWhole (ofMagnitudeBits negative bits) =
      ((Exact.ofMagnitude bits).numerator % (Exact.ofMagnitude bits).denominator == 0) := by
    simp only [isWhole, ofFloat?_ofMagnitudeBits negative bound]
    rfl
  simp only [plain, ofFloat?_ofMagnitudeBits negative bound, whole, size, Exact.shown]
  split
  · rename_i short
    simp only [Bool.and_eq_true, beq_iff_eq, decide_eq_true_eq] at short
    exact writeInt_whole fun minus =>
      Exact.whole_ne_zero (Exact.significand_ne_zero (signed minus)) short.1
  · exact write_signed negative bound

/-- A number whose magnitude is plain: a plain literal, perhaps after signs. -/
def IsReadable (number : Float) : Prop :=
  ∃ negative, ∃ bits < infinityBits,
    number = ofMagnitudeBits negative bits ∧ IsPlain (ofMagnitudeBits false bits)

theorem IsReadable.of_literal {text : String} {number : Float}
    (numeral : Kind.isNumeral text.toList = true) (reads : read? text = some number)
    (plain : IsPlain number) : IsReadable number := by
  obtain ⟨bits, bound, rfl⟩ := read?_numeral numeral reads
  refine ⟨false, bits, Nat.lt_of_le_of_ne bound ?_, rfl, plain⟩
  rintro rfl
  have infinite : (ofMagnitudeBits false infinityBits).isFinite = false := by decide +kernel
  have := plain.finite
  simp [infinite] at this

/-- A number can be read back if its negation can. -/
theorem IsReadable.neg {number : Float} (readable : IsReadable number) : IsReadable (-number) := by
  obtain ⟨negative, bits, bound, rfl, plain⟩ := readable
  exact ⟨!negative, bits, bound, neg_ofMagnitudeBits negative (Nat.le_of_lt bound), plain⟩

theorem isReadable_zero : IsReadable 0 := by
  have shown : plain (ofMagnitudeBits false 0) = "0" := by decide +kernel
  refine ⟨false, 0, by decide, rfl, ?_, ?_, ?_⟩
  · decide +kernel
  · rw [shown]
    decide
  · rw [shown]
    refine ⟨ofMagnitudeBits false 0, by rfl, by decide +kernel⟩

/-- How output shows a number: as a numeral that reads as it, or with a minus sign before one. -/
inductive Shown (number : Float) : Prop where
  | unsigned {again : Float} (numeral : Kind.isNumeral (plain number).toList = true)
      (reads : read? (plain number) = some again) (same : (again == number) = true)
  | signed {digits : String} {again : Float} (text : plain number = "-" ++ digits)
      (numeral : Kind.isNumeral digits.toList = true) (reads : read? digits = some again)
      (same : (-again == number) = true)

/--
What is written of a number can be read back.  Both zeros are shown alike, and
nothing tells them apart.
-/
theorem IsReadable.shown {number : Float} (readable : IsReadable number) : Shown number := by
  obtain ⟨negative, bits, bound, rfl, plainly⟩ := readable
  obtain ⟨again, reads, same⟩ := plainly.reads
  have text := plain_signed false bound (by simp)
  have numeral : Kind.isNumeral (plain (ofMagnitudeBits false bits)).toList = true := by
    have unscaled := plainly.positional
    rw [text] at unscaled ⊢
    simp only [Bool.false_eq_true, reduceIte, List.nil_append, String.toList_ofList] at unscaled ⊢
    exact isNumeral_shown unscaled
  cases negative with
  | false => exact .unsigned numeral reads same
  | true =>
      by_cases positive : 0 < bits
      · refine .signed ?_ numeral reads ?_
        · rw [plain_signed true bound fun _ => positive, text]
          simp
        · obtain ⟨others, otherBound, rfl⟩ := read?_numeral numeral reads
          rw [show ofMagnitudeBits true bits = -(ofMagnitudeBits false bits) from
            (neg_ofMagnitudeBits false (Nat.le_of_lt bound)).symm,
            neg_beq_neg otherBound (Nat.le_of_lt bound)]
          exact same
      · obtain rfl : bits = 0 := by omega
        have shown : plain (ofMagnitudeBits true 0) = plain (ofMagnitudeBits false 0) := by
          decide +kernel
        rw [← shown] at numeral reads
        refine .unsigned numeral reads ?_
        rw [beq_ofMagnitudeBits_zero]
        exact same

end Logo.Number
