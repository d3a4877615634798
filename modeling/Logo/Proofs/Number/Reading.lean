import Logo.Proofs.Number.Infinite
import Logo.Proofs.Number.Plain

/-!
# What is shown is read as a number

Every finite double is shown as a text that is read as a finite double again.
A numeral is read as infinite only if it stands for at least half a unit more
than the largest double, and the decimal that a double is shown as is closer to
the double than that.

Sizes are compared as rational numbers.
-/

namespace Logo.Number

/-! ## Rounding to a finite double -/

/-- What is read as a finite double is below this: the largest double, and half a unit more. -/
def overflow : ℚ := ((2 ^ 54 - 1) * 2 ^ 970 : Nat)

theorem overflow_lt : overflow < 2 ^ (1024 : ℤ) := by
  have small : (2 ^ 54 - 1) * 2 ^ 970 < 2 ^ 1024 := by decide +kernel
  rw [overflow]
  exact_mod_cast small

theorem pow_lt_overflow : (10 : ℚ) ^ (308 : ℤ) < overflow := by
  have small : 10 ^ 308 < (2 ^ 54 - 1) * 2 ^ 970 := by decide +kernel
  rw [overflow]
  exact_mod_cast small

theorem overflow_lt_pow : overflow < (10 : ℚ) ^ (309 : ℤ) := by
  have small : (2 ^ 54 - 1) * 2 ^ 970 < 10 ^ 309 := by decide +kernel
  rw [overflow]
  exact_mod_cast small

/-- A power with an integer exponent, as a ratio of powers with natural ones. -/
theorem pow_toNat {base : ℚ} (nonzero : base ≠ 0) (exponent : Int) :
    base ^ exponent.toNat = base ^ exponent * base ^ (-exponent).toNat := by
  rw [← zpow_natCast, ← zpow_natCast, ← zpow_add₀ nonzero]
  congr 1
  omega

/--
A quotient below the middle between a bound and the next count is rounded to
the bound at most.  Only a quotient whose whole part is below the bound is
rounded up.
-/
theorem divideNearest_le {numerator denominator bound : Nat}
    (below : 2 * numerator < (2 * bound + 1) * denominator) :
    divideNearest numerator denominator ≤ bound := by
  have parts := Nat.div_add_mod numerator denominator
  have whole : numerator / denominator ≤ bound := by
    refine Nat.le_of_lt_succ ((Nat.div_lt_iff_lt_mul ?_).mpr ?_)
    · exact Nat.pos_of_ne_zero fun zero => by simp [zero] at below
    · nlinarith
  rw [divideNearest]
  split
  · rename_i up
    rcases Nat.lt_or_eq_of_le whole with short | exact
    · exact short
    · rw [exact] at parts
      have rest : 2 * (numerator % denominator) < denominator := by nlinarith
      simp only [Bool.or_eq_true, decide_eq_true_eq, Bool.and_eq_true, beq_iff_eq] at up
      omega
  · exact whole

theorem two_zpow_log2 {number : Nat} (positive : 0 < number) :
    (2 : ℚ) ^ (number.log2 : ℤ) ≤ number ∧ (number : ℚ) < 2 ^ (number.log2 + 1 : ℤ) := by
  have lower := Nat.log2_self_le positive.ne'
  have upper := Nat.lt_log2_self (n := number)
  constructor
  · rw [zpow_natCast]
    exact_mod_cast lower
  · rw [← Nat.cast_succ, zpow_natCast]
    exact_mod_cast upper

theorem shiftLeft_le_iff {numerator denominator : Nat} (divides : 0 < denominator) (power : Int) :
    denominator <<< power.toNat ≤ numerator <<< (-power).toNat ↔
      (2 : ℚ) ^ power ≤ numerator / denominator := by
  have scale : (0 : ℚ) < 2 ^ (-power).toNat := by positivity
  have positive : (0 : ℚ) < denominator := by exact_mod_cast divides
  rw [Nat.shiftLeft_eq, Nat.shiftLeft_eq, ← Nat.cast_le (α := ℚ), le_div_iff₀ positive,
    ← mul_le_mul_iff_left₀ (b := (2 : ℚ) ^ power * denominator) scale]
  push_cast
  rw [pow_toNat two_ne_zero power, mul_comm (denominator : ℚ), mul_right_comm]

/--
A ratio is between its leading power of two and the next one.  The estimate
from the two lengths is right or one too large.
-/
theorem leadingPower_spec {numerator denominator : Nat} (positive : 0 < numerator)
    (divides : 0 < denominator) :
    (2 : ℚ) ^ leadingPower numerator denominator ≤ numerator / denominator ∧
      (numerator : ℚ) / denominator < 2 ^ (leadingPower numerator denominator + 1) := by
  obtain ⟨above, below⟩ := two_zpow_log2 positive
  obtain ⟨above', below'⟩ := two_zpow_log2 divides
  have divisor : (0 : ℚ) < denominator := by exact_mod_cast divides
  have lower : (2 : ℚ) ^ ((numerator.log2 : Int) - denominator.log2 - 1) ≤
      numerator / denominator := by
    rw [le_div_iff₀ divisor]
    calc (2 : ℚ) ^ ((numerator.log2 : Int) - denominator.log2 - 1) * denominator
        ≤ 2 ^ ((numerator.log2 : Int) - denominator.log2 - 1) * 2 ^ (denominator.log2 + 1 : Int) :=
          by gcongr
      _ = 2 ^ (numerator.log2 : Int) := by rw [← zpow_add₀ two_ne_zero]; congr 1; omega
      _ ≤ numerator := above
  have upper : (numerator : ℚ) / denominator <
      2 ^ ((numerator.log2 : Int) - denominator.log2 + 1) := by
    rw [div_lt_iff₀ divisor]
    calc (numerator : ℚ) < 2 ^ (numerator.log2 + 1 : Int) := below
      _ = 2 ^ ((numerator.log2 : Int) - denominator.log2 + 1) * 2 ^ (denominator.log2 : Int) := by
          rw [← zpow_add₀ two_ne_zero]; congr 1; omega
      _ ≤ 2 ^ ((numerator.log2 : Int) - denominator.log2 + 1) * denominator := by gcongr
  unfold leadingPower
  dsimp only
  split
  · rename_i reached
    exact ⟨(shiftLeft_le_iff divides _).mp reached, upper⟩
  · rename_i missed
    rw [shiftLeft_le_iff divides, not_le] at missed
    refine ⟨lower, ?_⟩
    rwa [sub_add_cancel]

theorem isFinite_ofMagnitudeBits (negative : Bool) {bits : Nat} (bound : bits < infinityBits) :
    (ofMagnitudeBits negative bits).isFinite = true := by
  rw [← Bool.not_eq_false, ← whole?_eq_none_iff, whole?, ofFloat?_ofMagnitudeBits negative bound]
  exact Option.some_ne_none _

/-- The same for a quotient in units of a power of two. -/
theorem divideNearest_shiftLeft_le {numerator denominator : Nat} (divides : 0 < denominator)
    (bound : Nat) (unit : Int)
    (below : (numerator : ℚ) / denominator < (bound + 1 / 2) * 2 ^ unit) :
    divideNearest (numerator <<< (-unit).toNat) (denominator <<< unit.toNat) ≤ bound := by
  have divisor : (0 : ℚ) < denominator := by exact_mod_cast divides
  have scale : (0 : ℚ) < 2 ^ (-unit).toNat := by positivity
  apply divideNearest_le
  rw [Nat.shiftLeft_eq, Nat.shiftLeft_eq, ← Nat.cast_lt (α := ℚ)]
  push_cast
  rw [div_lt_iff₀ divisor] at below
  rw [pow_toNat two_ne_zero unit]
  calc 2 * ((numerator : ℚ) * 2 ^ (-unit).toNat)
      < 2 * (((bound + 1 / 2) * 2 ^ unit * denominator) * 2 ^ (-unit).toNat) := by gcongr
    _ = (2 * bound + 1) * (denominator * (2 ^ unit * 2 ^ (-unit).toNat)) := by ring

/-- A ratio below the overflow is rounded to a finite double. -/
theorem isFinite_nearest (negative : Bool) {numerator denominator : Nat} (divides : 0 < denominator)
    (below : (numerator : ℚ) / denominator < overflow) :
    (nearest negative numerator denominator).isFinite = true := by
  unfold nearest
  split
  · exact isFinite_ofMagnitudeBits negative (by decide)
  · rename_i nonzero
    have positive : 0 < numerator := Nat.pos_of_ne_zero fun zero => nonzero (by simp [zero])
    obtain ⟨leads, ends⟩ := leadingPower_spec positive divides
    have power : leadingPower numerator denominator < 1024 :=
      (zpow_lt_zpow_iff_right₀ one_lt_two).mp (leads.trans_lt (below.trans overflow_lt))
    dsimp only
    generalize unit_eq : max (leadingPower numerator denominator - 52) (-1074) = unit
    refine isFinite_ofMagnitudeBits negative ((Nat.min_le_left _ _).trans_lt ?_)
    rcases lt_or_ge unit 971 with small | large
    · have within : (numerator : ℚ) / denominator < ((2 ^ 53 : Nat) + 1 / 2) * 2 ^ unit := by
        calc (numerator : ℚ) / denominator
            < 2 ^ (leadingPower numerator denominator + 1) := ends
          _ ≤ 2 ^ (53 + unit) := zpow_le_zpow_right₀ one_le_two (by omega)
          _ = (2 ^ 53 : Nat) * 2 ^ unit := by
              rw [zpow_add₀ two_ne_zero]
              norm_num
          _ ≤ ((2 ^ 53 : Nat) + 1 / 2) * 2 ^ unit := by
              gcongr
              norm_num
      have significand := divideNearest_shiftLeft_le divides (2 ^ 53) unit within
      unfold infinityBits hiddenBit
      omega
    · obtain rfl : unit = 971 := by omega
      have within : (numerator : ℚ) / denominator <
          ((2 ^ 53 - 1 : Nat) + 1 / 2) * 2 ^ (971 : Int) := by
        calc (numerator : ℚ) / denominator < overflow := below
          _ = ((2 ^ 53 - 1 : Nat) + 1 / 2) * 2 ^ (971 : Int) := by
              have double : (2 : ℚ) ^ (971 : Int) = 2 * 2 ^ 970 := by
                rw [show (971 : Int) = 1 + (970 : Nat) by norm_num, zpow_add₀ two_ne_zero,
                  zpow_natCast, zpow_one]
              rw [overflow, double, Nat.cast_mul, Nat.cast_pow, Nat.cast_ofNat]
              generalize (2 : ℚ) ^ 970 = scale
              push_cast
              ring
      have significand := divideNearest_shiftLeft_le divides (2 ^ 53 - 1) 971 within
      unfold infinityBits hiddenBit
      omega

/-! ## Rows of digits -/

namespace Digits

theorem foldl_eq (digits : Digits) (total : Nat) :
    digits.foldl (fun total digit => total * 10 + digit) total =
      total * 10 ^ digits.length + digits.value := by
  induction digits generalizing total with
  | nil => simp [value]
  | cons digit rest hypothesis =>
      rw [value, List.foldl_cons, List.foldl_cons, hypothesis, hypothesis, List.length_cons]
      ring

theorem value_cons (digit : Nat) (digits : Digits) :
    value (digit :: digits) = digit * 10 ^ digits.length + digits.value := by
  rw [value, List.foldl_cons, foldl_eq, Nat.zero_mul, Nat.zero_add]

theorem value_dropWhile (digits : Digits) :
    value (digits.dropWhile (· == 0)) = digits.value := by
  induction digits with
  | nil => rfl
  | cons digit rest hypothesis =>
      rw [List.dropWhile_cons]
      split
      · rename_i zero
        rw [hypothesis, value_cons, beq_iff_eq.mp zero, Nat.zero_mul, Nat.zero_add]
      · rfl

/-- The value of digits has no more digits than they have. -/
theorem value_lt {digits : Digits} (decimal : ∀ digit ∈ digits, digit < 10) :
    digits.value < 10 ^ digits.length := by
  induction digits with
  | nil => decide
  | cons digit rest hypothesis =>
      have first := decimal digit (List.mem_cons_self ..)
      have others := hypothesis fun other member => decimal other (List.mem_cons_of_mem _ member)
      rw [value_cons, List.length_cons, Nat.pow_succ]
      nlinarith

/-- A row of digits without zeros in front stands for at least a power of ten. -/
theorem pow_le_value {digits : Digits} {first : Nat} {others : Digits}
    (shown : digits.dropWhile (· == 0) = first :: others) :
    10 ^ others.length ≤ value (first :: others) := by
  have leads : 0 < first := by
    have stops := List.head?_dropWhile_not (· == 0) digits
    rw [shown] at stops
    simpa [Nat.pos_iff_ne_zero] using stops
  rw [value_cons]
  exact (Nat.le_mul_of_pos_left _ leads).trans (Nat.le_add_right _ _)

end Digits

/--
Digits that stand for less than the overflow are read as a finite double.  A
number with too many places would be above the overflow.
-/
theorem isFinite_ofDigits (negative : Bool) {digits : Digits} {exponent : Int}
    (below : (digits.value : ℚ) * 10 ^ exponent < overflow) :
    (ofDigits negative digits exponent).isFinite = true := by
  rw [← Digits.value_dropWhile] at below
  unfold ofDigits
  dsimp only
  cases shown : digits.dropWhile (· == 0) with
  | nil => exact isFinite_ofMagnitudeBits negative (by decide)
  | cons first others =>
      rw [shown] at below
      split
      · exact isFinite_ofMagnitudeBits negative (by decide)
      · split
        · rename_i long
          have most : (10 : ℚ) ^ (309 : Int) ≤ Digits.value (first :: others) * 10 ^ exponent := by
            calc (10 : ℚ) ^ (309 : Int) ≤ 10 ^ ((others.length : Int) + exponent) := by
                  refine zpow_le_zpow_right₀ (by norm_num) ?_
                  simp only [exponentLimit, List.length_cons] at long
                  omega
              _ = (10 ^ others.length : Nat) * 10 ^ exponent := by
                  rw [zpow_add₀ (by norm_num), zpow_natCast]
                  norm_cast
              _ ≤ Digits.value (first :: others) * 10 ^ exponent := by
                  gcongr
                  exact_mod_cast Digits.pow_le_value shown
          exact absurd (most.trans_lt below) (not_lt.mpr overflow_lt_pow.le)
        · apply isFinite_nearest
          · exact Nat.pow_pos (by decide)
          · have divisor : (0 : ℚ) < 10 ^ (-exponent).toNat := by positivity
            rw [powerOfTen, powerOfTen, Nat.pow_eq, Nat.pow_eq]
            push_cast
            rw [pow_toNat (by norm_num) exponent, ← mul_assoc, mul_div_cancel_right₀ _ divisor.ne']
            exact below

/-! ## The shortest decimal of a double -/

/-- The significand and the exponent of a double. -/
theorem Exact.bounds {number : Float} {value : Exact} (exact : Exact.ofFloat? number = some value) :
    value.significand < 2 ^ 53 ∧ value.exponent ≤ 971 := by
  have fraction : (number.toBits &&& 0xfffffffffffff).toNat < 2 ^ 52 := by
    rw [UInt64.toNat_and]
    exact Nat.and_lt_two_pow _ (by decide)
  have scale : (number.toBits >>> 52 &&& 0x7ff).toNat < 2 ^ 11 := by
    rw [UInt64.toNat_and]
    exact Nat.and_lt_two_pow _ (by decide)
  rw [ofFloat?] at exact
  split at exact
  · cases exact
  · rename_i below
    rw [beq_iff_eq] at below
    split at exact
    · cases exact
      exact ⟨by dsimp only; omega, by dsimp only; omega⟩
    · cases exact
      exact ⟨by dsimp only [hiddenBit]; omega, by dsimp only; omega⟩

namespace Decimal

/-- The number that a decimal stands for. -/
def size (decimal : Decimal) : ℚ :=
  decimal.digits * 10 ^ decimal.exponent

/-- A common denominator of a decimal and a power of two. -/
def scale (decimal : Decimal) (unit : Int) : ℚ :=
  10 ^ (-decimal.exponent).toNat * 2 ^ (-unit).toNat

theorem scale_pos (decimal : Decimal) (unit : Int) : 0 < decimal.scale unit := by
  unfold scale
  positivity

theorem cast_point (decimal : Decimal) (unit : Int) :
    (((decimal.digits * powerOfTen decimal.exponent.toNat) <<< (-unit).toNat : Nat) : ℚ) =
      decimal.size * decimal.scale unit := by
  rw [Nat.shiftLeft_eq, powerOfTen, Nat.pow_eq]
  push_cast
  rw [pow_toNat (by norm_num) decimal.exponent, size, scale]
  ring

theorem cast_scaled (decimal : Decimal) (bound : Nat) (unit : Int) :
    (((bound * powerOfTen (-decimal.exponent).toNat) <<< unit.toNat : Nat) : ℚ) =
      bound * 2 ^ unit * decimal.scale unit := by
  rw [Nat.shiftLeft_eq, powerOfTen, Nat.pow_eq]
  push_cast
  rw [pow_toNat two_ne_zero unit, scale]
  ring

/--
A decimal that is read back as a double is at most half a unit above it, and
less if it is odd.
-/
theorem size_of_reads {value : Exact} {decimal : Decimal} (reads : reads value decimal = true) :
    decimal.size ≤ (4 * value.significand + 2 : Nat) * 2 ^ (value.exponent - 2) ∧
      (value.significand % 2 = 1 →
        decimal.size < (4 * value.significand + 2 : Nat) * 2 ^ (value.exponent - 2)) := by
  have positive := scale_pos decimal (value.exponent - 2)
  unfold Decimal.reads at reads
  dsimp only at reads
  split at reads
  · rename_i even
    rw [beq_iff_eq] at even
    rw [Bool.and_eq_true, decide_eq_true_iff, decide_eq_true_iff] at reads
    have upper := Nat.cast_le (α := ℚ).mpr reads.2
    rw [cast_point, cast_scaled] at upper
    exact ⟨le_of_mul_le_mul_right upper positive, fun odd => by omega⟩
  · rw [Bool.and_eq_true, decide_eq_true_iff, decide_eq_true_iff] at reads
    have upper := Nat.cast_lt (α := ℚ).mpr reads.2
    rw [cast_point, cast_scaled] at upper
    have strict := lt_of_mul_lt_mul_right upper positive.le
    exact ⟨strict.le, fun _ => strict⟩

/-- A decimal that is read as a finite number is below the overflow. -/
theorem size_lt_of_reads {value : Exact} {decimal : Decimal}
    (significand : value.significand < 2 ^ 53) (exponent : value.exponent ≤ 971)
    (reads : reads value decimal = true) : decimal.size < overflow := by
  obtain ⟨upper, odd⟩ := size_of_reads reads
  have unit : (2 : ℚ) ^ (value.exponent - 2) ≤ 2 ^ 969 := by
    rw [← zpow_natCast]
    exact zpow_le_zpow_right₀ one_le_two (by omega)
  have top : overflow = (2 ^ 55 - 2 : Nat) * 2 ^ 969 := by
    rw [overflow, Nat.cast_mul, Nat.cast_pow, Nat.cast_ofNat, pow_succ (2 : ℚ) 969]
    generalize (2 : ℚ) ^ 969 = power
    push_cast
    ring
  rw [top]
  rcases Nat.mod_two_eq_zero_or_one value.significand with even | last
  · calc decimal.size ≤ (4 * value.significand + 2 : Nat) * 2 ^ (value.exponent - 2) := upper
      _ ≤ (4 * value.significand + 2 : Nat) * 2 ^ 969 := by gcongr
      _ < (2 ^ 55 - 2 : Nat) * 2 ^ 969 := by
          gcongr
          omega
  · calc decimal.size < (4 * value.significand + 2 : Nat) * 2 ^ (value.exponent - 2) := odd last
      _ ≤ (4 * value.significand + 2 : Nat) * 2 ^ 969 := by gcongr
      _ ≤ (2 ^ 55 - 2 : Nat) * 2 ^ 969 := by
          gcongr
          omega

/-- Dropping zeros keeps the size. -/
theorem size_dropZeros (limit : Nat) (decimal : Decimal) :
    (dropZeros limit decimal).size = decimal.size := by
  induction limit generalizing decimal with
  | zero => rfl
  | succ limit hypothesis =>
      rw [dropZeros]
      split
      · rename_i round
        have whole : decimal.digits = decimal.digits / 10 * 10 :=
          (Nat.div_mul_cancel (Nat.dvd_of_mod_eq_zero (beq_iff_eq.mp round))).symm
        rw [hypothesis, size, size, zpow_add_one₀ (by norm_num), whole]
        push_cast
        rw [Nat.mul_div_cancel _ (by decide)]
        ring
      · rfl

theorem divideNearest_eq (numerator denominator : Nat) :
    divideNearest numerator denominator = numerator / denominator + 1 ∨
      divideNearest numerator denominator = numerator / denominator := by
  rw [divideNearest]
  split
  · exact .inl rfl
  · exact .inr rfl

theorem reads_of_ofCount? {value : Exact} {leading : Int} {count : Nat} {decimal : Decimal}
    (found : ofCount? value leading count = some decimal) : reads value decimal = true := by
  unfold ofCount? at found
  dsimp only at found
  split at found
  · rename_i below above
    cases found
    rcases divideNearest_eq (value.numerator * powerOfTen (-(leading - count + 1)).toNat)
      (value.denominator * powerOfTen (leading - count + 1).toNat) with up | down
    · rwa [up]
    · rwa [down]
  · rename_i below _
    cases found
    exact below
  · rename_i _ above
    cases found
    exact above
  · cases found

theorem numerator_le {value : Exact} (top : Nat) (significand : value.significand < 2 ^ 53)
    (exponent : value.exponent ≤ top) : value.numerator ≤ (2 ^ 53 - 1) * 2 ^ top := by
  rw [Exact.numerator, Nat.shiftLeft_eq]
  have power := Nat.pow_le_pow_right Nat.two_pos (show value.exponent.toNat ≤ top by omega)
  exact Nat.mul_le_mul (Nat.le_sub_one_of_lt significand) power

/-- The shortest decimal of a number is below the overflow. -/
theorem size_shortest_lt {value : Exact} (significand : value.significand < 2 ^ 53)
    (exponent : value.exponent ≤ 971) : (shortest value).size < overflow := by
  unfold shortest
  dsimp only
  rw [size_dropZeros]
  cases search : (List.range 17).findSome? fun index =>
      ofCount? value (leadingExponent value.numerator value.denominator) (index + 1) with
  | some decimal =>
      obtain ⟨index, -, found⟩ := List.exists_of_findSome?_eq_some search
      exact size_lt_of_reads significand exponent (reads_of_ofCount? found)
  | none =>
      have whole := (Nat.div_le_self value.numerator value.denominator).trans
        (numerator_le 971 significand exponent)
      have small : (2 ^ 53 - 1) * 2 ^ 971 < (2 ^ 54 - 1) * 2 ^ 970 := by decide +kernel
      rw [Option.getD_none, size, zpow_zero, mul_one, overflow]
      exact_mod_cast whole.trans_lt small

end Decimal

/-! ## Written numbers -/

/-- The values of a row of digits. -/
def valuesOf (characters : List Char) : Digits :=
  characters.filterMap Text.digitValue?

theorem valuesOf_append (front back : List Char) :
    valuesOf (front ++ back) = valuesOf front ++ valuesOf back :=
  List.filterMap_append ..

theorem length_valuesOf {characters : List Char}
    (digits : ∀ character ∈ characters, Text.isDigit character = true) :
    (valuesOf characters).length = characters.length := by
  induction characters with
  | nil => rfl
  | cons character rest hypothesis =>
      obtain ⟨value, known⟩ :=
        Option.isSome_iff_exists.mp (digits character (List.mem_cons_self ..))
      have others := hypothesis fun other member => digits other (List.mem_cons_of_mem _ member)
      rw [valuesOf, List.filterMap_cons_some known, List.length_cons, List.length_cons]
      exact congrArg (· + 1) others

theorem lt_of_mem_valuesOf {characters : List Char} {digit : Nat}
    (member : digit ∈ valuesOf characters) : digit < 10 := by
  obtain ⟨character, -, value⟩ := List.mem_filterMap.mp member
  rw [Text.digitValue?, Option.map_eq_some_iff] at value
  obtain ⟨first, found, rfl⟩ := value
  have within := List.find?_some found
  simp only [Bool.and_eq_true, decide_eq_true_eq] at within
  omega

/-- The digits of a number stand for the number. -/
theorem value_digitsOf (number : Nat) : (valuesOf (digitsOf number)).value = number := by
  have ascii : ∀ characters : List Char, (∀ character ∈ characters, character.isDigit = true) →
      ∀ total, (valuesOf characters).foldl (fun total digit => total * 10 + digit) total =
        Nat.ofDigitChars 10 characters total := by
    intro characters
    induction characters with
    | nil => exact fun _ _ => rfl
    | cons character rest hypothesis =>
        intro digits total
        have digit := digits character (List.mem_cons_self ..)
        have value : Text.digitValue? character = some (character.toNat - 48) := by
          simp only [Char.isDigit, Bool.and_eq_true, decide_eq_true_eq, ge_iff_le,
            UInt32.le_iff_toNat_le] at digit
          have below : character.toNat < 48 + 10 := Nat.lt_succ_of_le digit.2
          have above : 48 ≤ character.toNat := digit.1
          simp [Text.digitValue?, Text.zeros, above, below]
        rw [valuesOf, List.filterMap_cons_some value, List.foldl_cons, Nat.ofDigitChars_cons,
          Nat.mul_comm 10]
        exact hypothesis (fun other member => digits other (List.mem_cons_of_mem _ member)) _
  exact (ascii _ (fun _ => Nat.isDigit_of_mem_toDigits (by decide) (by decide)) 0).trans
    Nat.ofDigitChars_ten_toDigits

/-- Zeros in front change nothing. -/
theorem value_zeros (count : Nat) (characters : List Char) :
    (valuesOf (List.replicate count '0' ++ characters)).value = (valuesOf characters).value := by
  induction count with
  | zero => rfl
  | succ count hypothesis =>
      have zero : Text.digitValue? '0' = some 0 := by decide
      rw [List.replicate_succ, List.cons_append, valuesOf, List.filterMap_cons_some zero,
        Digits.value_cons, Nat.zero_mul, Nat.zero_add]
      exact hypothesis

/-- Read the digits after a point, if there is one. -/
def readFraction : List Char → Digits × List Char
  | '.' :: rest => readDigits false rest
  | rest => ([], rest)

theorem readFraction_cons (first : Char) (rest : List Char) :
    readFraction (first :: rest) =
      if first = '.' then readDigits false rest else ([], first :: rest) := by
  unfold readFraction
  split <;> simp_all

theorem readUnsigned?_eq (negative : Bool) (characters : List Char) :
    readUnsigned? negative characters =
      if (readDigits false characters).1.isEmpty &&
          (readFraction (readDigits false characters).2).1.isEmpty then
        none
      else
        (readExponent? (readFraction (readDigits false characters).2).2).map fun exponent =>
          ofDigits negative
            ((readDigits false characters).1 ++ (readFraction (readDigits false characters).2).1)
            (exponent - (readFraction (readDigits false characters).2).1.length) :=
  rfl

/-- The digits after the point, with the point, if there are any. -/
def pointed : List Char → List Char
  | [] => []
  | fraction => '.' :: fraction

/-- A text is digits, perhaps with a point, and then perhaps an exponent. -/
inductive Spells (body : List Char) (digits : Digits) (exponent : Int) : Prop where
  | intro (whole fraction tail : List Char) (power : Int)
      (parts : body = whole ++ (pointed fraction ++ tail))
      (filled : whole ≠ [])
      (decimal : ∀ character ∈ whole ++ fraction, Text.isDigit character = true)
      (ends : ∀ mark ∈ tail.head?, Text.isDigit mark = false ∧ mark ≠ '_' ∧ mark ≠ '.')
      (bare : ∀ character ∈ tail, Text.isBlank character = false)
      (scale : readExponent? tail = some power)
      (values : digits = valuesOf (whole ++ fraction))
      (shifted : exponent = power - fraction.length)

theorem readFraction_pointed {fraction tail : List Char}
    (decimal : ∀ character ∈ fraction, Text.isDigit character = true)
    (ends : ∀ mark ∈ tail.head?, Text.isDigit mark = false ∧ mark ≠ '_' ∧ mark ≠ '.') :
    readFraction (pointed fraction ++ tail) = (valuesOf fraction, tail) := by
  cases fraction with
  | nil =>
      cases tail with
      | nil => rfl
      | cons mark rest => exact (readFraction_cons mark rest).trans (if_neg (ends mark rfl).2.2)
  | cons first others =>
      exact readDigits_append decimal (fun mark next => ⟨(ends mark next).1, (ends mark next).2.1⟩)
        false

/-- A text that spells digits and an exponent is read as such. -/
theorem Spells.readUnsigned? {body : List Char} {digits : Digits} {exponent : Int}
    (spells : Spells body digits exponent) (negative : Bool) :
    Number.readUnsigned? negative body = some (ofDigits negative digits exponent) := by
  obtain ⟨whole, fraction, tail, power, rfl, filled, decimal, ends, -, scale, rfl, rfl⟩ := spells
  have wholeDigits : ∀ character ∈ whole, Text.isDigit character = true :=
    fun character member => decimal character (List.mem_append_left _ member)
  have fractionDigits : ∀ character ∈ fraction, Text.isDigit character = true :=
    fun character member => decimal character (List.mem_append_right _ member)
  have stops : ∀ mark ∈ (pointed fraction ++ tail).head?,
      Text.isDigit mark = false ∧ mark ≠ '_' := by
    cases fraction with
    | nil => exact fun mark next => ⟨(ends mark next).1, (ends mark next).2.1⟩
    | cons =>
        rintro _ ⟨⟩
        exact ⟨by decide, by decide⟩
  have front : readDigits false (whole ++ (pointed fraction ++ tail)) =
      (valuesOf whole, pointed fraction ++ tail) :=
    readDigits_append wholeDigits stops false
  have some : ¬ ((valuesOf whole).isEmpty && (valuesOf fraction).isEmpty) = true := by
    rw [Bool.and_eq_true, List.isEmpty_iff, ← List.length_eq_zero_iff, length_valuesOf wholeDigits,
      List.length_eq_zero_iff]
    exact fun none => filled none.1
  rw [readUnsigned?_eq, front, readFraction_pointed fractionDigits ends, if_neg some, scale,
    length_valuesOf fractionDigits, valuesOf_append]
  rfl

namespace Spells

variable {body : List Char} {digits : Digits} {exponent : Int}

theorem begins (spells : Spells body digits exponent) :
    ∃ first rest, body = first :: rest ∧ Text.isDigit first = true := by
  obtain ⟨whole, fraction, tail, power, rfl, filled, decimal⟩ := spells
  obtain ⟨first, others, rfl⟩ := List.exists_cons_of_ne_nil filled
  exact ⟨first, _, rfl, decimal first (by simp)⟩

/-- What spells a number has no blanks. -/
theorem bare (spells : Spells body digits exponent) :
    ∀ character ∈ body, Text.isBlank character = false := by
  obtain ⟨whole, fraction, tail, power, rfl, -, decimal, -, bare⟩ := spells
  intro character member
  rcases List.mem_append.mp member with first | second
  · exact Text.not_isBlank_of_isDigit (decimal character (List.mem_append_left _ first))
  · rcases List.mem_append.mp second with middle | last
    · cases fraction with
      | nil => cases middle
      | cons mark others =>
          rcases List.mem_cons.mp middle with rfl | digit
          · decide
          · exact Text.not_isBlank_of_isDigit (decimal character (List.mem_append_right _ digit))
    · exact bare character last

/-- A spelling is read the same after a sign. -/
theorem read?_signed (spells : Spells body digits exponent) (negative : Bool) :
    read? (String.ofList ((if negative then ['-'] else []) ++ body)) =
      some (ofDigits negative digits exponent) := by
  have trimmed : trimBlanks ((if negative then ['-'] else []) ++ body) =
      (if negative then ['-'] else []) ++ body := by
    apply trimBlanks_eq_self
    intro character member
    rcases List.mem_append.mp member with sign | shown
    · cases negative with
      | false => cases sign
      | true =>
          rw [List.mem_singleton.mp sign]
          decide
    · exact spells.bare character shown
  obtain ⟨first, rest, rfl, digit⟩ := spells.begins
  have signed : readSign ((if negative then ['-'] else []) ++ first :: rest) =
      (negative, first :: rest) := by
    cases negative with
    | false => exact readSign_digit rest digit
    | true => rfl
  rw [read?, String.toList_ofList, trimmed, signed]
  simp only [readWord?_digit negative rest digit]
  exact spells.readUnsigned? negative

end Spells

theorem spells_digitsOf (number : Nat) : Spells (digitsOf number) (valuesOf (digitsOf number)) 0 :=
  .intro (digitsOf number) [] [] 0 (by simp [pointed]) (digitsOf_ne_nil number)
    (fun _ member => Text.isDigit_of_mem_digitsOf (by simpa using member))
    (by simp) (by simp) rfl (by simp) rfl

/-- Digits with a point spell their value. -/
theorem spells_point {whole fraction : List Char} (filled : whole ≠ []) (some : fraction ≠ [])
    (decimal : ∀ character ∈ whole ++ fraction, Text.isDigit character = true) :
    Spells (whole ++ '.' :: fraction) (valuesOf (whole ++ fraction)) (-fraction.length) := by
  obtain ⟨first, others, rfl⟩ := List.exists_cons_of_ne_nil some
  exact .intro whole (first :: others) [] 0 (by simp [pointed]) filled decimal
    (by simp) (by simp) rfl rfl (by omega)

/-- A row of digits with a point is below the power of ten that its whole part gives. -/
theorem value_point_lt {whole fraction : List Char}
    (decimal : ∀ character ∈ whole ++ fraction, Text.isDigit character = true) :
    ((valuesOf (whole ++ fraction)).value : ℚ) * 10 ^ (-fraction.length : Int) <
      10 ^ (whole.length : Int) := by
  have below : (valuesOf (whole ++ fraction)).value < 10 ^ (valuesOf (whole ++ fraction)).length :=
    Digits.value_lt fun _ => lt_of_mem_valuesOf
  rw [length_valuesOf decimal, List.length_append] at below
  have bound : ((valuesOf (whole ++ fraction)).value : ℚ) <
      10 ^ (whole.length + fraction.length) := by
    exact_mod_cast below
  calc ((valuesOf (whole ++ fraction)).value : ℚ) * 10 ^ (-fraction.length : Int)
      < 10 ^ (whole.length + fraction.length) * 10 ^ (-fraction.length : Int) := by gcongr
    _ = 10 ^ (whole.length : Int) := by
        rw [← zpow_natCast, ← zpow_add₀ (by norm_num)]
        congr 1
        omega

theorem isDigit_of_mem_replicate {count : Nat} {character : Char}
    (member : character ∈ List.replicate count '0') : Text.isDigit character = true := by
  rw [List.eq_of_mem_replicate member]
  decide

/-- Positional notation has at most sixteen digits before the point. -/
theorem exists_spells_positional {digits : List Char} {leading : Int} (filled : digits ≠ [])
    (decimal : ∀ character ∈ digits, Text.isDigit character = true)
    (short : leading < positionalBelow) :
    ∃ values exponent, Spells (positional digits leading) values exponent ∧
      (values.value : ℚ) * 10 ^ exponent < overflow := by
  have spelled {whole fraction : List Char} (some : whole ≠ []) (broken : fraction ≠ [])
      (decimal : ∀ character ∈ whole ++ fraction, Text.isDigit character = true)
      (length : whole.length ≤ 16) :
      ∃ values exponent, Spells (whole ++ '.' :: fraction) values exponent ∧
        (values.value : ℚ) * 10 ^ exponent < overflow := by
    refine ⟨_, _, spells_point some broken decimal, ?_⟩
    calc ((valuesOf (whole ++ fraction)).value : ℚ) * 10 ^ (-fraction.length : Int)
        < 10 ^ (whole.length : Int) := value_point_lt decimal
      _ ≤ 10 ^ (308 : Int) := zpow_le_zpow_right₀ (by norm_num) (by omega)
      _ < overflow := pow_lt_overflow
  have zero : Text.isDigit '0' = true := by decide
  unfold positional
  split
  · show ∃ values exponent, Spells (['0'] ++ '.' :: _) values exponent ∧ _
    refine spelled (by simp) (by simp [filled]) ?_ (by simp)
    intro character member
    simp only [List.mem_append, List.mem_singleton] at member
    rcases member with rfl | padded | shown
    · exact zero
    · exact isDigit_of_mem_replicate padded
    · exact decimal character shown
  · dsimp only
    refine spelled (by simp [filled]) (by split <;> simp_all) ?_ ?_
    · intro character member
      simp only [List.mem_append] at member
      rcases member with (shown | padded) | back
      · exact decimal character (List.mem_of_mem_take shown)
      · exact isDigit_of_mem_replicate padded
      · split at back
        · rwa [List.mem_singleton.mp back]
        · exact decimal character (List.mem_of_mem_drop back)
    · simp only [positionalBelow] at short
      simp only [List.length_append, List.length_take, List.length_replicate]
      omega

theorem readExponent?_digits (negative : Bool) {row : List Char} (filled : row ≠ [])
    (decimal : ∀ character ∈ row, Text.isDigit character = true) :
    readExponent? ('e' :: (if negative then '-' else '+') :: row) =
      some (if negative then -((valuesOf row).value : Int) else (valuesOf row).value) := by
  have all : readDigits false row = (valuesOf row, []) := by
    have stops : ∀ mark ∈ ([] : List Char).head?, Text.isDigit mark = false ∧ mark ≠ '_' := by
      simp
    have read := readDigits_append decimal stops false
    rwa [List.append_nil] at read
  have sign : readSign ((if negative then '-' else '+') :: row) = (negative, row) := by
    cases negative <;> rfl
  have some : valuesOf row ≠ [] := by
    rw [← List.length_pos_iff, length_valuesOf decimal]
    exact List.length_pos_iff.mpr filled
  obtain ⟨first, others, values⟩ := List.exists_cons_of_ne_nil some
  rw [readExponent?, if_pos (by decide), sign]
  dsimp only
  rw [all, values]

/-- The exponent that is written is read. -/
theorem readExponent?_written (leading : Int) (padding : Nat) :
    readExponent? ('e' :: (if leading < 0 then '-' else '+') ::
      (List.replicate padding '0' ++ digitsOf leading.natAbs)) = some leading := by
  have decimal : ∀ character ∈ List.replicate padding '0' ++ digitsOf leading.natAbs,
      Text.isDigit character = true := by
    intro character member
    rcases List.mem_append.mp member with padded | shown
    · exact isDigit_of_mem_replicate padded
    · exact Text.isDigit_of_mem_digitsOf shown
  have filled : List.replicate padding '0' ++ digitsOf leading.natAbs ≠ [] :=
    List.append_ne_nil_of_right_ne_nil _ (digitsOf_ne_nil _)
  have read := readExponent?_digits (decide (leading < 0)) filled decimal
  rw [value_zeros, value_digitsOf] at read
  simp only [decide_eq_true_eq] at read
  rw [read]
  congr 1
  split <;> omega

/-- A number in scientific form spells its digits with their exponent. -/
theorem spells_scientific (number : Nat) (leading : Int) :
    Spells (scientific (digitsOf number) leading) (valuesOf (digitsOf number))
      (leading + 1 - (digitsOf number).length) := by
  obtain ⟨first, others, shown⟩ := List.exists_cons_of_ne_nil (digitsOf_ne_nil number)
  have decimal : ∀ character ∈ first :: others, Text.isDigit character = true := by
    rw [← shown]
    exact fun _ => Text.isDigit_of_mem_digitsOf
  rw [shown]
  refine .intro [first] others
    ('e' :: (if leading < 0 then '-' else '+') ::
      (List.replicate (2 - (digitsOf leading.natAbs).length) '0' ++ digitsOf leading.natAbs))
    leading ?_ (by simp) decimal ?_ ?_ (readExponent?_written leading _) rfl ?_
  · rw [scientific]
    cases others <;> rfl
  · rintro _ ⟨⟩
    decide
  · intro character member
    simp only [List.mem_cons, List.mem_append] at member
    rcases member with rfl | rfl | padded | power
    · decide
    · split <;> decide
    · exact Text.not_isBlank_of_isDigit (isDigit_of_mem_replicate padded)
    · exact Text.not_isBlank_of_isDigit (Text.isDigit_of_mem_digitsOf power)
  · rw [List.length_cons]
    omega

/-- A decimal below the overflow is written so that it spells a number below the overflow. -/
theorem exists_spells_write {decimal : Decimal} (below : decimal.size < overflow) :
    ∃ values exponent, Spells decimal.write values exponent ∧
      (values.value : ℚ) * 10 ^ exponent < overflow := by
  unfold Decimal.write
  dsimp only
  split
  · rename_i near
    rw [Bool.and_eq_true, decide_eq_true_iff, decide_eq_true_iff] at near
    exact exists_spells_positional (digitsOf_ne_nil _) (fun _ => Text.isDigit_of_mem_digitsOf)
      near.2
  · refine ⟨_, _, spells_scientific _ _, ?_⟩
    rw [value_digitsOf, sub_add_cancel, add_sub_cancel_right]
    exact below

/-! ## Numbers and their texts -/

/-- The finite number that a text spells, if it does. -/
def finite? (text : String) : Option Float :=
  (read? text).filter Float.isFinite

/-- What spells a number below the overflow is read as a finite number. -/
theorem Spells.exists_finite? {body : List Char} {digits : Digits} {exponent : Int}
    (spells : Spells body digits exponent) (negative : Bool)
    (below : (digits.value : ℚ) * 10 ^ exponent < overflow) :
    ∃ number, finite? (String.ofList ((if negative then ['-'] else []) ++ body)) = some number := by
  refine ⟨ofDigits negative digits exponent, ?_⟩
  rw [finite?, spells.read?_signed negative, Option.filter_some, isFinite_ofDigits negative below]
  rfl

/-- Every finite number is shown as a text that spells a finite number. -/
theorem exists_finite?_plain {number : Float} (finite : number.isFinite = true) :
    ∃ again, finite? (plain number) = some again := by
  obtain ⟨value, known⟩ : ∃ value, Exact.ofFloat? number = some value := by
    refine Option.ne_none_iff_exists'.mp fun none => ?_
    have infinite := (whole?_eq_none_iff number).mp (Option.map_eq_none_iff.mpr none)
    exact absurd (infinite.symm.trans finite) Bool.false_ne_true
  have bounds := Exact.bounds known
  rw [plain, known]
  dsimp only
  split
  · rename_i short
    rw [Bool.and_eq_true, decide_eq_true_iff] at short
    have below : ((valuesOf (digitsOf value.whole.natAbs)).value : ℚ) * 10 ^ (0 : Int) <
        overflow := by
      rw [value_digitsOf, zpow_zero, mul_one]
      calc (value.whole.natAbs : ℚ) < (plainLimit : Nat) := by exact_mod_cast short.2
        _ ≤ 10 ^ (308 : Int) := by
            rw [plainLimit, powerOfTen, Nat.pow_eq, Nat.cast_pow, ← zpow_natCast]
            exact zpow_le_zpow_right₀ (by norm_num) (by norm_num)
        _ < overflow := pow_lt_overflow
    have signed : writeInt value.whole = String.ofList
        ((if decide (value.whole < 0) then ['-'] else []) ++ digitsOf value.whole.natAbs) := by
      rw [writeInt]
      simp only [decide_eq_true_eq]
      split <;> rfl
    rw [signed]
    exact (spells_digitsOf value.whole.natAbs).exists_finite? _ below
  · have spelled : ∃ values exponent,
        Spells (if value.significand == 0 then ['0', '.', '0'] else (Decimal.shortest value).write)
          values exponent ∧ (values.value : ℚ) * 10 ^ exponent < overflow := by
      split
      · show ∃ values exponent, Spells (positional ['0'] 0) values exponent ∧ _
        refine exists_spells_positional (List.cons_ne_nil _ _) ?_ (by decide)
        intro character member
        rw [List.mem_singleton.mp member]
        decide
      · exact exists_spells_write (Decimal.size_shortest_lt bounds.1 bounds.2)
    obtain ⟨values, exponent, spells, below⟩ := spelled
    rw [write, known]
    exact spells.exists_finite? value.negative below

end Logo.Number
