import Mathlib
import Logo.Text.Blank
import Logo.Text.Digit
import Logo.Text.UpperCase

/-!
# Upper case is final

What upper case makes of a character is left alone by upper case, and it never
is a digit, a blank or one of the signs that the language uses: only letters
change, and only to letters.

The letters that something is changed to are taken in spans, a run of letters
at a time, and each span is compared with the runs of letters that change.
-/

namespace Logo.Text

/-- Code points from `first` to `last`, `stride` apart. -/
structure Span where
  first : Nat
  last : Nat
  stride : Nat

namespace Span

/-- A code point belongs to a span. -/
def Holds (span : Span) (code : Nat) : Prop :=
  span.first ≤ code ∧ code ≤ span.last ∧ (code - span.first) % span.stride = 0

/-- The span of a single code point. -/
def single (code : Nat) : Span :=
  ⟨code, code, 1⟩

theorem holds_single (code : Nat) : (single code).Holds code :=
  ⟨Nat.le_refl code, Nat.le_refl code, Nat.mod_one _⟩

/-- Whether a span has no code point in common with a range. -/
def avoids (span : Span) (first last : Nat) : Bool :=
  Nat.blt span.last first || Nat.blt last span.first

theorem outside_of_avoids {span : Span} {first last code : Nat}
    (avoids : span.avoids first last = true) (holds : span.Holds code) :
    code < first ∨ last < code := by
  obtain ⟨lower, upper, -⟩ := holds
  simp only [Span.avoids, Bool.or_eq_true, Nat.blt_eq] at avoids
  omega

/-- Whether a span, taking every other code point, falls between those of a run that does too. -/
def interleaves (span : Span) (run : CaseRun) : Bool :=
  Nat.beq run.stride 2 && (Nat.beq span.stride 2 || Nat.beq span.first span.last) &&
    Nat.beq ((span.first + run.first) % 2) 1

/-- Whether no code point of a span is moved by some runs. -/
def isSettled (span : Span) : List CaseRun → Bool
  | [] => true
  | run :: rest =>
      Nat.blt span.last run.first ||
        (Nat.blt run.last span.first || span.interleaves run) && span.isSettled rest

/-- A run does not move the codes of a span that comes after it or lies between its steps. -/
theorem move?_eq_none {span : Span} {run : CaseRun} {code : Nat}
    (apart : run.last < span.first ∨ span.interleaves run = true)
    (holds : span.Holds code) : run.move? code = none := by
  obtain ⟨lower, upper, step⟩ := holds
  simp only [interleaves, Bool.or_eq_true, Bool.and_eq_true, Nat.beq_eq] at apart
  rw [CaseRun.move?, if_neg]
  simp only [Bool.and_eq_true, decide_eq_true_eq, beq_iff_eq]
  rintro ⟨⟨above, below⟩, inStep⟩
  rcases apart with past | ⟨⟨double, close⟩, odd⟩
  · omega
  · rw [double] at inStep
    rcases close with same | same
    · rw [same] at step
      omega
    · omega

theorem moveIn?_eq_none {span : Span} {runs : List CaseRun} {code : Nat}
    (settled : span.isSettled runs = true) (holds : span.Holds code) :
    moveIn? code runs = none := by
  induction runs with
  | nil => rfl
  | cons run rest hypothesis =>
      rw [moveIn?]
      simp only [isSettled, Bool.or_eq_true, Bool.and_eq_true, Nat.blt_eq] at settled
      split
      · rfl
      · rename_i reached
        rcases settled with before | ⟨apart, settled⟩
        · exact (reached (Nat.lt_of_le_of_lt holds.2.1 before)).elim
        · rw [move?_eq_none apart holds]
          exact hypothesis settled

/-- Whether no code point of a span is among some letters that become several. -/
def isUnexpanded (span : Span) : List (Nat × List Nat) → Bool
  | [] => true
  | (letter, _) :: rest =>
      Nat.blt span.last letter || Nat.blt letter span.first && span.isUnexpanded rest

theorem expandIn?_eq_none {span : Span} {expansions : List (Nat × List Nat)} {code : Nat}
    (unexpanded : span.isUnexpanded expansions = true) (holds : span.Holds code) :
    expandIn? code expansions = none := by
  induction expansions with
  | nil => rfl
  | cons expansion rest hypothesis =>
      obtain ⟨lower, upper, -⟩ := holds
      simp only [isUnexpanded, Bool.or_eq_true, Bool.and_eq_true, Nat.blt_eq] at unexpanded
      rw [expandIn?]
      split
      · rfl
      · rcases unexpanded with before | ⟨past, unexpanded⟩
        · omega
        · rw [if_neg (by simp; omega)]
          exact hypothesis unexpanded

end Span

namespace CaseTable

variable {table : CaseTable} {code : Nat}

/-- What a run moves its letters to. -/
def imageOf (run : CaseRun) : Span :=
  ⟨run.image, run.image + (run.last - run.first), run.stride⟩

/-- What a table makes of the letters that change. -/
def images (table : CaseTable) : List Span :=
  table.runs.map imageOf ++ table.expansions.flatMap fun expansion => expansion.2.map .single

/-- What is moved is moved into the image of a run. -/
theorem moveIn?_mem {runs : List CaseRun} {image : Nat} (moved : moveIn? code runs = some image) :
    ∃ run ∈ runs, (imageOf run).Holds image := by
  induction runs with
  | nil => cases moved
  | cons run rest hypothesis =>
      rw [moveIn?] at moved
      split at moved
      · cases moved
      · split at moved
        · rename_i here
          cases moved
          refine ⟨run, List.mem_cons_self .., ?_⟩
          unfold CaseRun.move? at here
          split at here
          · rename_i within
            cases here
            simp only [Bool.and_eq_true, decide_eq_true_eq, beq_iff_eq] at within
            refine ⟨Nat.le_add_right .., ?_, ?_⟩
            · simp only [imageOf]
              omega
            · simpa [imageOf] using within.2
          · cases here
        · obtain ⟨found, member, holds⟩ := hypothesis moved
          exact ⟨found, List.mem_cons_of_mem _ member, holds⟩

theorem expandIn?_mem {expansions : List (Nat × List Nat)} {letters : List Nat}
    (expanded : expandIn? code expansions = some letters) : (code, letters) ∈ expansions := by
  induction expansions with
  | nil => cases expanded
  | cons expansion rest hypothesis =>
      rw [expandIn?] at expanded
      split at expanded
      · cases expanded
      · split at expanded
        · rename_i same
          cases expanded
          rw [eq_of_beq same]
          exact List.mem_cons_self ..
        · exact List.mem_cons_of_mem _ (hypothesis expanded)

/-- A code point is left alone, or else all that it becomes is among the images. -/
theorem mapCode_cases (table : CaseTable) (code : Nat) :
    table.mapCode code = [code] ∨
      ∀ image ∈ table.mapCode code, ∃ span ∈ table.images, span.Holds image := by
  unfold mapCode
  split
  · rename_i moved
    right
    intro image member
    rw [List.mem_singleton.mp member]
    obtain ⟨run, known, holds⟩ := moveIn?_mem moved
    exact ⟨_, List.mem_append_left _ (List.mem_map_of_mem known), holds⟩
  · cases expanded : expandIn? code table.expansions with
    | none => exact .inl rfl
    | some letters =>
        right
        intro image member
        have known := expandIn?_mem expanded
        refine ⟨.single image, List.mem_append_right _ ?_, Span.holds_single image⟩
        exact List.mem_flatMap.mpr ⟨_, known, List.mem_map_of_mem member⟩

/-- Whether a table leaves a span alone. -/
def isFixed (table : CaseTable) (span : Span) : Bool :=
  span.isSettled table.runs && span.isUnexpanded table.expansions

/-- A span that is fixed stays as it is. -/
theorem mapCode_eq_self {span : Span} (fixed : table.isFixed span = true)
    (holds : span.Holds code) : table.mapCode code = [code] := by
  simp only [isFixed, Bool.and_eq_true] at fixed
  rw [mapCode, Span.moveIn?_eq_none fixed.1 holds]
  simp [Span.expandIn?_eq_none fixed.2 holds]

end CaseTable

/-! ## Upper case -/

/-- Ranges of code points that are no letters: the signs of ASCII, surrogates, blanks and digits. -/
def signRanges : List (Nat × Nat) :=
  (0, 0x40) :: (0x5b, 0x60) :: (0x7b, 0x7f) :: (0xd800, 0xdfff) ::
    blankRanges ++ zeros.map fun first => (first, first + 9)

/-- Whether a character may be a letter. -/
def isLetter (character : Char) : Bool :=
  signRanges.all fun range => !(range.1 ≤ character.toNat && character.toNat ≤ range.2)

theorem outside_of_isLetter {character : Char} {range : Nat × Nat}
    (letter : isLetter character = true) (known : range ∈ signRanges) :
    character.toNat < range.1 ∨ range.2 < character.toNat := by
  simpa using List.all_eq_true.mp letter range known

/-- No letter is a blank. -/
theorem isBlank_of_isLetter {character : Char} (letter : isLetter character = true) :
    isBlank character = false := by
  rw [isBlank, List.any_eq_false]
  intro range known
  have apart := outside_of_isLetter letter (show range ∈ signRanges by simp [signRanges, known])
  simp only [Bool.and_eq_true, decide_eq_true_eq]
  omega

theorem isDigit_of_isLetter {character : Char} (letter : isLetter character = true) :
    isDigit character = false := by
  have nowhere : (zeros.find? fun first =>
      first ≤ character.toNat && character.toNat < first + 10) = none := by
    rw [List.find?_eq_none]
    intro first known
    have apart := outside_of_isLetter letter
      (show (first, first + 9) ∈ signRanges by
        simp only [signRanges, List.cons_append, List.mem_cons, List.mem_append, List.mem_map]
        exact .inr (.inr (.inr (.inr (.inr ⟨first, known, rfl⟩)))))
    simp only [Bool.and_eq_true, decide_eq_true_eq]
    omega
  rw [isDigit, digitValue?, nowhere]
  rfl

/-- Whether a span holds letters only, and leaves them alone in upper case. -/
def Span.isUpper (span : Span) : Bool :=
  upperTable.isFixed span && Nat.blt span.last 0x110000 &&
    signRanges.all fun range => span.avoids range.1 range.2

theorem images_isUpper : upperTable.images.all Span.isUpper = true := by
  decide +kernel

theorem mapChar_ne_nil (character : Char) : upperTable.mapChar character ≠ [] := by
  have nonempty : upperTable.expansions.all (fun expansion => !expansion.2.isEmpty) = true := by
    decide +kernel
  rw [CaseTable.mapChar, CaseTable.mapCode]
  split
  · simp
  · cases expanded : expandIn? character.toNat upperTable.expansions with
    | none => simp
    | some letters =>
        have known := List.all_eq_true.mp nonempty _ (CaseTable.expandIn?_mem expanded)
        simpa using known

theorem toNat_ofNat_of_avoids {span : Span} {code : Nat} (small : span.last < 0x110000)
    (letters : ∀ range ∈ signRanges, span.avoids range.1 range.2 = true)
    (holds : span.Holds code) : (Char.ofNat code).toNat = code := by
  have surrogates := Span.outside_of_avoids (letters (0xd800, 0xdfff) (by simp [signRanges])) holds
  have below := holds.2.1
  have valid : code.isValidChar := by
    unfold Nat.isValidChar
    omega
  rw [Char.ofNat, dif_pos valid]
  rfl

theorem isLetter_of_avoids {span : Span} {code : Nat} (small : span.last < 0x110000)
    (letters : ∀ range ∈ signRanges, span.avoids range.1 range.2 = true)
    (holds : span.Holds code) : isLetter (Char.ofNat code) = true := by
  rw [isLetter, List.all_eq_true]
  intro range known
  have apart := Span.outside_of_avoids (letters range known) holds
  rw [toNat_ofNat_of_avoids small letters holds]
  simpa using apart

/-- A character is left alone, or becomes letters that are left alone. -/
theorem mapChar_cases (character : Char) :
    upperTable.mapChar character = [character] ∨
      ∀ letter ∈ upperTable.mapChar character,
        isLetter letter = true ∧ upperTable.mapChar letter = [letter] := by
  rcases upperTable.mapCode_cases character.toNat with same | images
  · left
    rw [CaseTable.mapChar, same]
    simp
  · right
    intro letter member
    obtain ⟨code, known, rfl⟩ := List.mem_map.mp member
    obtain ⟨span, listed, holds⟩ := images code known
    have upper := List.all_eq_true.mp images_isUpper span listed
    simp only [Span.isUpper, Bool.and_eq_true, Nat.blt_eq, List.all_eq_true] at upper
    obtain ⟨⟨fixed, small⟩, letters⟩ := upper
    refine ⟨isLetter_of_avoids small letters holds, ?_⟩
    rw [CaseTable.mapChar, toNat_ofNat_of_avoids small letters holds,
      CaseTable.mapCode_eq_self fixed holds]
    rfl

/-! ## The capitals of ASCII -/

/-- The capital letters of ASCII. -/
def capitals : Span := ⟨0x41, 0x5a, 1⟩

theorem capitals_isUpper : capitals.isUpper = true := by
  decide +kernel

theorem holds_capitals {character : Char} (capital : character.isUpper = true) :
    capitals.Holds character.toNat := by
  simp only [Char.isUpper, ge_iff_le, Bool.decide_and, Bool.and_eq_true, decide_eq_true_eq,
    UInt32.le_iff_toNat_le] at capital
  exact ⟨capital.1, capital.2, Nat.mod_one _⟩

theorem isLetter_of_isUpper {character : Char} (capital : character.isUpper = true) :
    isLetter character = true := by
  have upper := capitals_isUpper
  simp only [Span.isUpper, Bool.and_eq_true, List.all_eq_true] at upper
  rw [isLetter, List.all_eq_true]
  intro range ranged
  have apart := Span.outside_of_avoids (upper.2 range ranged) (holds_capitals capital)
  simpa using apart

theorem mapChar_of_isUpper {character : Char} (capital : character.isUpper = true) :
    upperTable.mapChar character = [character] := by
  have upper := capitals_isUpper
  simp only [Span.isUpper, Bool.and_eq_true] at upper
  rw [CaseTable.mapChar, CaseTable.mapCode_eq_self upper.1.1 (holds_capitals capital)]
  simp

/-! ## Texts in upper case -/

theorem flatMap_eq_self {mapping : Char → List Char} {characters : List Char}
    (same : ∀ character ∈ characters, mapping character = [character]) :
    characters.flatMap mapping = characters := by
  induction characters with
  | nil => rfl
  | cons character rest hypothesis =>
      rw [List.flatMap_cons, same character (List.mem_cons_self ..),
        hypothesis fun other known => same other (List.mem_cons_of_mem _ known)]
      rfl

theorem toList_upper (text : String) :
    (upper text).toList = text.toList.flatMap upperTable.mapChar := by
  rw [upper, CaseTable.mapText, String.toList_ofList]

/-- A letter in upper case is its own upper case. -/
theorem mapChar_of_mem {character letter : Char} (member : letter ∈ upperTable.mapChar character) :
    upperTable.mapChar letter = [letter] := by
  rcases mapChar_cases character with same | letters
  · rw [same, List.mem_singleton] at member
    rw [member, same]
  · exact (letters letter member).2

/-- Upper case leaves upper case alone. -/
theorem upper_upper (text : String) : upper (upper text) = upper text := by
  have fixed : ∀ letter ∈ (upper text).toList, upperTable.mapChar letter = [letter] := by
    intro letter member
    rw [toList_upper] at member
    obtain ⟨character, -, known⟩ := List.mem_flatMap.mp member
    exact mapChar_of_mem known
  rw [← String.toList_inj, toList_upper, flatMap_eq_self fixed]

/-- A sign in upper case was there before. -/
theorem eq_of_mem_mapChar {character sign : Char} (member : sign ∈ upperTable.mapChar character)
    (bare : isLetter sign = false) : upperTable.mapChar character = [sign] ∧ character = sign := by
  rcases mapChar_cases character with same | letters
  · rw [same, List.mem_singleton] at member
    rw [same, member]
    exact ⟨rfl, rfl⟩
  · simp [(letters sign member).1] at bare

/-- A text whose upper case has no letters is its own upper case. -/
theorem upper_eq_self {text : String}
    (bare : ∀ sign ∈ (upper text).toList, isLetter sign = false) : upper text = text := by
  rw [toList_upper] at bare
  have same : ∀ character ∈ text.toList, upperTable.mapChar character = [character] := by
    intro character known
    obtain ⟨sign, member⟩ := List.exists_mem_of_ne_nil _ (mapChar_ne_nil character)
    obtain ⟨single, rfl⟩ :=
      eq_of_mem_mapChar member (bare sign (List.mem_flatMap.mpr ⟨character, known, member⟩))
    exact single
  rw [← String.toList_inj, toList_upper, flatMap_eq_self same]

theorem head?_of_upper {text : String} {sign : Char}
    (begins : (upper text).toList.head? = some sign)
    (bare : isLetter sign = false) : text.toList.head? = some sign := by
  rw [toList_upper] at begins
  cases characters : text.toList with
  | nil => simp [characters] at begins
  | cons character rest =>
      obtain ⟨letter, letters, image⟩ := List.exists_cons_of_ne_nil (mapChar_ne_nil character)
      simp only [characters, List.flatMap_cons, image, List.cons_append, List.head?_cons,
        Option.some.injEq] at begins
      subst begins
      have member : letter ∈ upperTable.mapChar character := by simp [image]
      rw [(eq_of_mem_mapChar member bare).2]
      rfl

/-- A text in capitals is its own upper case. -/
theorem upper_of_isUpper {text : String}
    (capital : ∀ character ∈ text.toList, character.isUpper = true) : upper text = text := by
  rw [← String.toList_inj, toList_upper,
    flatMap_eq_self fun character member => mapChar_of_isUpper (capital character member)]

end Logo.Text
