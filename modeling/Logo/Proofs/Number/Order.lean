import Logo.Proofs.Number.Infinite

/-!
# The order of doubles

Doubles compare as their ranks do: by kind first, from minus infinity to
infinity, and among finite numbers of one sign by exponent and mantissa.  Only
what is no number has no rank, so among numbers the order is a linear one, up
to the two zeros.  Sums with finite numbers are numbers again, and a quotient
of zero by a count is zero.
-/

namespace Logo.Number

open Float.Model (Format UnpackedFloat)
open Float.Model.UnpackedFloat (Sign Accuracy ExtendedMantissa packComponents)

/-! ## Ranks -/

/-- Where a number stands: by its kind first, then by exponent and mantissa. -/
def rank : UnpackedFloat → Int ×ₗ Int ×ₗ Int
  | .infinity .negative => toLex (-2, toLex (0, 0))
  | .finite .negative mantissa exponent _ => toLex (-1, toLex (-exponent, -mantissa))
  | .finite .positive mantissa exponent _ => toLex (1, toLex (exponent, mantissa))
  | .infinity .positive => toLex (2, toLex (0, 0))
  | .zero _ | .notANumber => toLex (0, toLex (0, 0))

theorem compare_natCast (first second : Nat) :
    compare (first : Int) (second : Int) = compare first second := by
  simp [compare, compareOfLessAndEq]

theorem compare_neg (first second : Int) :
    compare (-first) (-second) = (compare first second).swap := by
  rw [← Std.OrientedCmp.eq_swap]
  simp [compare, compareOfLessAndEq, eq_comm]

/-- Numbers compare as their ranks do, and nothing compares with what is no number. -/
theorem compare_eq (first second : UnpackedFloat) :
    first.compare second =
      if first.isNaN || second.isNaN then none else some (compare (rank first) (rank second)) := by
  rcases first with (_ | _) | _ | _ | ⟨_ | _, mantissa, exponent, _⟩ <;>
    rcases second with (_ | _) | _ | _ | ⟨_ | _, mantissa', exponent', _⟩ <;>
    first
    | rfl
    | skip
  · show some ((compare exponent exponent').then (compare mantissa mantissa')).swap =
      some ((compare (-exponent) (-exponent')).then (compare (-mantissa : Int) (-mantissa')))
    rw [compare_neg, compare_neg, compare_natCast, Ordering.swap_then]
  · show some ((compare exponent exponent').then (compare mantissa mantissa')) =
      some ((compare exponent exponent').then (compare (mantissa : Int) mantissa'))
    rw [compare_natCast]

/-- Where a double stands. -/
def place (number : Float) : Int ×ₗ Int ×ₗ Int :=
  rank number.toModel.unpack

/-- Numbers are ordered by their places. -/
theorem le_iff_place_le (first second : Float) :
    first ≤ second ↔ first.isNaN = false ∧ second.isNaN = false ∧ place first ≤ place second := by
  show decide (first.toModel ≤ second.toModel) = true ↔ _
  rw [decide_eq_true_iff]
  show ((first.toModel.unpack.compare second.toModel.unpack).any Ordering.isLE) = true ↔
    first.toModel.unpack.isNaN = false ∧ second.toModel.unpack.isNaN = false ∧ _
  rw [compare_eq, place, place, ← compare_le_iff_le]
  cases first.toModel.unpack.isNaN <;> cases second.toModel.unpack.isNaN <;>
    simp [Ordering.isLE_iff_ne_gt]

theorem lt_iff_place_lt (first second : Float) :
    first < second ↔ first.isNaN = false ∧ second.isNaN = false ∧ place first < place second := by
  show decide (first.toModel < second.toModel) = true ↔ _
  rw [decide_eq_true_iff]
  show (first.toModel.unpack.compare second.toModel.unpack == some .lt) = true ↔
    first.toModel.unpack.isNaN = false ∧ second.toModel.unpack.isNaN = false ∧ _
  rw [compare_eq, place, place, ← compare_lt_iff_lt]
  cases first.toModel.unpack.isNaN <;> cases second.toModel.unpack.isNaN <;> simp

/-- Numbers are equal exactly if their places are. -/
theorem beq_iff_place_eq (first second : Float) :
    (first == second) = true ↔
      first.isNaN = false ∧ second.isNaN = false ∧ place first = place second := by
  show (first.toModel.unpack.compare second.toModel.unpack == some .eq) = true ↔
    first.toModel.unpack.isNaN = false ∧ second.toModel.unpack.isNaN = false ∧ _
  rw [compare_eq, place, place]
  cases first.toModel.unpack.isNaN <;> cases second.toModel.unpack.isNaN <;>
    simp [compare_eq_iff_eq]

variable {first second third : Float}

theorem number_of_isFinite (finite : first.isFinite = true) : first.isNaN = false := by
  change first.toModel.unpack.isFinite = true at finite
  change first.toModel.unpack.isNaN = false
  cases unpacked : first.toModel.unpack with
  | notANumber =>
      rw [unpacked] at finite
      cases finite
  | _ => rfl

theorem le_refl_of_number (number : first.isNaN = false) : first ≤ first :=
  (le_iff_place_le first first).mpr ⟨number, number, le_rfl⟩

theorem float_le_trans (before : first ≤ second) (after : second ≤ third) : first ≤ third := by
  rw [le_iff_place_le] at before after ⊢
  exact ⟨before.1, after.2.1, before.2.2.trans after.2.2⟩

theorem float_le_of_lt (before : first < second) : first ≤ second := by
  rw [lt_iff_place_lt] at before
  exact (le_iff_place_le first second).mpr ⟨before.1, before.2.1, before.2.2.le⟩

/-- A number that is not below another one is at least as large. -/
theorem float_le_of_not_lt (number : first.isNaN = false) (other : second.isNaN = false)
    (later : ¬ first < second) : second ≤ first := by
  rw [lt_iff_place_lt] at later
  refine (le_iff_place_le second first).mpr ⟨other, number, le_of_not_gt fun before => ?_⟩
  exact later ⟨number, other, before⟩

theorem float_not_le_of_lt (before : first < second) : ¬ second ≤ first := by
  intro after
  rw [lt_iff_place_lt] at before
  rw [le_iff_place_le] at after
  exact absurd before.2.2 (not_lt_of_ge after.2.2)

theorem number_of_nonneg (nonneg : 0 ≤ first) : first.isNaN = false :=
  ((le_iff_place_le 0 first).mp nonneg).2.1

/-! ## Sums are numbers -/

theorem isNaN_unpack_packComponents (sign : Sign) {exponent : BitVec 11} (mantissa : BitVec 52)
    (finite : exponent ≠ -1#11) :
    (UnpackedFloat.unpack Format.binary64
      (packComponents Format.binary64 sign exponent mantissa)).isNaN = false := by
  simp only [UnpackedFloat.unpack, UnpackedFloat.unpackExponent_packComponents, if_neg finite]
  split
  · split <;> rfl
  · rfl

/-- Where packing does not overflow, the exponent is not the one of infinity. -/
theorem biased_ne {biased : Nat} (small : ¬ 2 ^ Format.binary64.exponentBits ≤ biased + 1) :
    BitVec.ofNat Format.binary64.exponentBits biased ≠ -1#11 := by
  intro full
  have equal := congrArg BitVec.toNat full
  simp only [BitVec.toNat_ofNat] at equal
  replace equal : biased % 2048 = 2047 := equal
  replace small : ¬ 2048 ≤ biased + 1 := small
  omega

theorem isNaN_pack {number : UnpackedFloat} (known : number.isNaN = false) :
    (UnpackedFloat.unpack Format.binary64
      (UnpackedFloat.pack Format.binary64 number)).isNaN = false := by
  cases number with
  | infinity sign => cases sign <;> rfl
  | notANumber => cases known
  | zero sign => cases sign <;> rfl
  | finite sign mantissa exponent positive =>
      rw [UnpackedFloat.pack]
      split
      · cases sign <;> rfl
      · rename_i small
        split
        · exact isNaN_unpack_packComponents _ _ (biased_ne small)
        · exact isNaN_unpack_packComponents _ _ (by decide)

/-- What is rounded is a number. -/
theorem isNaN_roundWithAccuracy (sign : Sign) (mantissa : Nat) (exponent : Int)
    (accuracy : Accuracy) :
    (UnpackedFloat.roundWithAccuracy Format.binary64 sign mantissa exponent accuracy).isNaN =
      false := by
  rw [UnpackedFloat.roundWithAccuracy]
  dsimp only
  split <;> rfl

theorem isNaN_normalize (mantissa exponent : Int) (sign : Sign) :
    (UnpackedFloat.normalize Format.binary64 mantissa exponent sign).isNaN = false := by
  rw [UnpackedFloat.normalize]
  split
  · exact isNaN_roundWithAccuracy _ _ _ _
  · rfl
  · exact isNaN_roundWithAccuracy _ _ _ _

/-- A number and a finite number have a sum. -/
theorem isNaN_add (number : first.isNaN = false) (finite : second.isFinite = true) :
    (first + second).isNaN = false := by
  have known : first.toModel.unpack.isNaN = false := number
  have bounded : second.toModel.unpack.isFinite = true := finite
  apply isNaN_pack
  generalize first.toModel.unpack = summand at known
  generalize second.toModel.unpack = other at bounded
  cases summand with
  | notANumber => cases known
  | infinity sign =>
      cases other with
      | infinity | notANumber => cases bounded
      | zero | finite => rfl
  | zero sign =>
      cases other with
      | infinity | notANumber => cases bounded
      | zero other =>
          rw [UnpackedFloat.add]
          split <;> rfl
      | finite => rfl
  | finite sign mantissa exponent positive =>
      cases other with
      | infinity | notANumber => cases bounded
      | zero => rfl
      | finite => exact isNaN_normalize _ _ _

/-! ## Zero by a count -/

/-- A number above zero. -/
def IsPositive (number : UnpackedFloat) : Prop :=
  number = .infinity .positive ∨
    ∃ mantissa exponent positive, number = .finite .positive mantissa exponent positive

theorem isPositive_assemble {exponent : BitVec 11} {mantissa : BitVec 52}
    (number : exponent = -1#11 → mantissa = 0#52) (nonzero : exponent = 0#11 → mantissa ≠ 0#52) :
    IsPositive (assemble .positive exponent mantissa) := by
  simp only [assemble, UnpackedFloat.unpack, UnpackedFloat.unpackMantissa_packComponents,
    UnpackedFloat.unpackExponent_packComponents, unpackSign_packComponents, ofBitVec_toBitVec]
  split
  · rename_i full
    rw [if_pos (number full)]
    exact Or.inl rfl
  · split
    · rename_i small
      rw [dif_neg (nonzero small)]
      exact Or.inr ⟨_, _, _, rfl⟩
    · exact Or.inr ⟨_, _, _, rfl⟩

theorem isPositive_pack {mantissa : Nat} {exponent : Int} (positive : 0 < mantissa)
    (short : mantissa < 2 ^ 53) (least : -1074 ≤ exponent) :
    IsPositive (UnpackedFloat.unpack Format.binary64
      (UnpackedFloat.pack Format.binary64 (.finite .positive mantissa exponent positive))) := by
  rw [UnpackedFloat.pack]
  split
  · exact Or.inl rfl
  · rename_i small
    split
    · apply isPositive_assemble
      · intro full
        exact absurd full (biased_ne small)
      · intro none
        have equal := congrArg BitVec.toNat none
        simp only [BitVec.toNat_ofNat] at equal
        replace equal : (exponent + 1023 + 52).toNat % 2048 = 0 := equal
        replace small : ¬ 2048 ≤ (exponent + 1023 + 52).toNat + 1 := small
        omega
    · rename_i length
      apply isPositive_assemble
      · intro full
        cases full
      · intro _ none
        have equal := congrArg BitVec.toNat none
        simp only [BitVec.toNat_ofNat] at equal
        replace equal : mantissa % 2 ^ 52 = 0 := equal
        replace length : ¬ mantissa.log2 + 1 = 53 := length
        have bound := (Nat.log2_lt (Nat.ne_of_gt positive)).mpr short
        have below := (Nat.log2_lt (k := 52) (Nat.ne_of_gt positive)).mp (by omega)
        omega

/-- A number of 53 bits at most needs no rounding. -/
theorem roundWithAccuracy_exact (sign : Sign) {mantissa : Nat} {exponent : Int}
    (positive : 0 < mantissa) (short : mantissa.log2 < 53) (least : -1074 ≤ exponent) :
    UnpackedFloat.roundWithAccuracy Format.binary64 sign mantissa exponent .exact =
      .finite sign mantissa exponent positive := by
  have still : UnpackedFloat.shiftToTargetExponent Format.binary64 mantissa exponent .exact =
      (⟨mantissa, false, false⟩, exponent) := by
    have none : (max ((mantissa.log2 : Int) + 1 + exponent - 53) (-1074) - exponent).toNat = 0 := by
      omega
    show ((⟨mantissa, false, false⟩ : ExtendedMantissa) >>>
        (max ((mantissa.log2 : Int) + 1 + exponent - 53) (-1074) - exponent).toNat,
      exponent +
        ((max ((mantissa.log2 : Int) + 1 + exponent - 53) (-1074) - exponent).toNat : Int)) = _
    rw [none, Int.natCast_zero, Int.add_zero]
    rfl
  have same : (⟨mantissa, false, false⟩ : ExtendedMantissa).roundedMantissa = mantissa := rfl
  rw [UnpackedFloat.roundWithAccuracy]
  simp only [still, same, dif_neg (Nat.ne_of_gt positive)]

/-- A count is positive as a double.  It is shifted until its highest bit is the hidden one. -/
theorem isPositive_normalize {count : Nat} (positive : 0 < count) (short : count < 2 ^ 53) :
    IsPositive (UnpackedFloat.unpack Format.binary64 (UnpackedFloat.pack Format.binary64
      (UnpackedFloat.normalize Format.binary64 count 0 .positive))) := by
  have bound := (Nat.log2_lt (Nat.ne_of_gt positive)).mpr short
  have above : compare (count : Int) 0 = .gt := Int.compare_eq_gt.mpr (by omega)
  have normalized : UnpackedFloat.normalize Format.binary64 count 0 .positive =
      UnpackedFloat.round Format.binary64 .positive count 0 := by
    rw [UnpackedFloat.normalize, above]
    rfl
  have amount : (0 - max ((count.log2 : Int) + 1 + 0 - 53) (-1074)).toNat = 52 - count.log2 := by
    omega
  have rounded : UnpackedFloat.round Format.binary64 .positive count 0 =
      UnpackedFloat.roundWithAccuracy Format.binary64 .positive (count <<< (52 - count.log2))
        (0 - ((52 - count.log2 : Nat) : Int)) .exact := by
    rw [← amount]
    rfl
  have shifted : count <<< (52 - count.log2) < 2 ^ 53 := by
    rw [Nat.shiftLeft_eq]
    calc count * 2 ^ (52 - count.log2)
        < 2 ^ (count.log2 + 1) * 2 ^ (52 - count.log2) :=
          Nat.mul_lt_mul_of_pos_right Nat.lt_log2_self (Nat.two_pow_pos _)
      _ = 2 ^ 53 := by
          rw [← Nat.pow_add]
          congr 1
          omega
  have nonzero : 0 < count <<< (52 - count.log2) := by
    rw [Nat.shiftLeft_eq]
    exact Nat.mul_pos positive (Nat.two_pow_pos _)
  rw [normalized, rounded, roundWithAccuracy_exact .positive nonzero
    ((Nat.log2_lt (Nat.ne_of_gt nonzero)).mpr shifted) (by omega)]
  exact isPositive_pack nonzero shifted (by omega)

theorem isPositive_ofMagnitudeBits {bits : Nat} (positive : 0 < bits)
    (bound : bits ≤ infinityBits) :
    IsPositive (ofMagnitudeBits false bits).toModel.unpack := by
  rw [unpack_ofMagnitudeBits false bound]
  apply isPositive_assemble (mantissa_of_le bound)
  intro scale fraction
  replace scale := congrArg BitVec.toNat scale
  replace fraction := congrArg BitVec.toNat fraction
  simp only [BitVec.toNat_ofNat] at scale fraction
  unfold infinityBits at bound
  unfold hiddenBit at scale bound
  omega

theorem le_leadingPower (count : Nat) : (count.log2 : Int) - 1 ≤ leadingPower count 1 := by
  have one : (1 : Nat).log2 = 0 := by decide
  rw [leadingPower, one]
  split <;> omega

/-- A count other than zero is above zero as a double, however it is rounded. -/
theorem isPositive_ofNat {count : Nat} (positive : 0 < count) :
    IsPositive (ofNat count).toModel.unpack := by
  unfold ofNat
  split
  · rename_i short
    have exact : count.toUInt64.toNat = count := by
      rw [Nat.toUInt64_eq, UInt64.toNat_ofNat', Nat.mod_eq_of_lt]
      exact Nat.lt_trans short (by decide)
    have unpacked := isPositive_normalize positive short
    rw [← exact] at unpacked
    exact unpacked
  · rename_i long
    have length := (Nat.le_log2 (k := 53) (Nat.ne_of_gt positive)).mpr (by omega)
    have power := le_leadingPower count
    rw [nearest, if_neg (by simpa using Nat.ne_of_gt positive)]
    apply isPositive_ofMagnitudeBits
    · unfold infinityBits hiddenBit
      have unit : 0 < (max (leadingPower count 1 - 52) (-1074) + 1074).toNat := by omega
      omega
    · exact Nat.min_le_right _ _

/-- Zero divided by a count is zero. -/
theorem zero_div_ofNat {count : Nat} (positive : 0 < count) : ofNat 0 / ofNat count = 0 := by
  have bits : (ofNat 0).toModel.toBits = 0 := by decide +kernel
  have zero : (ofNat 0).toModel.unpack = .zero .positive := by
    rw [Float.Model.unpack, bits]
    rfl
  have quotient : UnpackedFloat.div Format.binary64 (.zero .positive) (ofNat count).toModel.unpack =
      .zero .positive := by
    rcases isPositive_ofNat positive with infinite | ⟨mantissa, exponent, some, finite⟩
    · rw [infinite]
      rfl
    · rw [finite]
      rfl
  show Float.ofModel (Float.Model.pack (UnpackedFloat.div Format.binary64
    (ofNat 0).toModel.unpack (ofNat count).toModel.unpack)) = 0
  rw [zero, quotient]
  decide +kernel

end Logo.Number
