import Logo.Proofs.Number.Order

/-!
# Sums do not fall short

A double that is not below zero, added to another one, gives a sum that is not
below the other one.  The exact sum is certainly not below it, and rounding
cannot take the sum below a number that needs no rounding: the exponent of the
sum is at least that of the number, and where it is the same, bits are only
dropped that the number does not have.
-/

namespace Logo.Number

open Float.Model (Format UnpackedFloat)
open Float.Model.UnpackedFloat (Sign Accuracy ExtendedMantissa packComponents)

/-! ## Numbers that need no rounding -/

/-- A mantissa of 53 bits at most, and of just as many unless the exponent is the least one. -/
structure IsCanonical (mantissa : Nat) (exponent : Int) : Prop where
  short : mantissa < 2 ^ 53
  least : -1074 ≤ exponent
  full : 2 ^ 52 ≤ mantissa ∨ exponent = -1074

/-- What is unpacked needs no rounding. -/
theorem isCanonical_unpack {bits : BitVec Format.binary64.numBits} {sign : Sign} {mantissa : Nat}
    {exponent : Int} {positive : 0 < mantissa}
    (unpacked :
      UnpackedFloat.unpack Format.binary64 bits = .finite sign mantissa exponent positive) :
    IsCanonical mantissa exponent := by
  have short := (unpack_bounds unpacked).1
  rw [UnpackedFloat.unpack] at unpacked
  dsimp only at unpacked
  split at unpacked
  · split at unpacked <;> cases unpacked
  · split at unpacked
    · rename_i small
      split at unpacked
      · cases unpacked
      · cases unpacked
        rw [small]
        exact ⟨short, by decide, Or.inr (by decide)⟩
    · rename_i large
      cases unpacked
      have scale : (UnpackedFloat.unpackExponent bits).toNat ≠ 0 :=
        fun none => large (BitVec.eq_of_toNat_eq none)
      have size := toNat_append_one (UnpackedFloat.unpackMantissa bits)
      unfold hiddenBit at size
      refine ⟨short, ?_, Or.inl (by omega)⟩
      show -1074 ≤ ((UnpackedFloat.unpackExponent bits).toNat : Int) - (1023 + 52)
      omega

theorem assemble_normal (sign : Sign) {scale : BitVec 11} {fraction : BitVec 52}
    (finite : scale ≠ -1#11) (large : scale ≠ 0#11) {mantissa : Nat} {exponent : Int}
    (positive : 0 < mantissa) (bits : mantissa = hiddenBit + fraction.toNat)
    (power : exponent = scale.toNat - 1075) :
    assemble sign scale fraction = .finite sign mantissa exponent positive := by
  rw [← toNat_append_one] at bits
  subst bits power
  simp only [assemble, UnpackedFloat.unpack, UnpackedFloat.unpackMantissa_packComponents,
    UnpackedFloat.unpackExponent_packComponents, unpackSign_packComponents, ofBitVec_toBitVec,
    if_neg finite, if_neg large]
  rfl

theorem assemble_subnormal (sign : Sign) {fraction : BitVec 52} {mantissa : Nat}
    (positive : 0 < mantissa) (bits : mantissa = fraction.toNat) :
    assemble sign 0#11 fraction = .finite sign mantissa (-1074) positive := by
  subst bits
  have some : fraction ≠ 0#52 := by
    rintro rfl
    exact Nat.lt_irrefl 0 positive
  have finite : (0#11 : BitVec 11) ≠ -1#11 := by decide
  simp only [assemble, UnpackedFloat.unpack, UnpackedFloat.unpackMantissa_packComponents,
    UnpackedFloat.unpackExponent_packComponents, unpackSign_packComponents, ofBitVec_toBitVec,
    if_neg finite, if_true, dif_neg some]
  rfl

/-- A number that needs no rounding and is not too large is one that can be packed. -/
theorem exists_assemble (sign : Sign) {mantissa : Nat} {exponent : Int} (positive : 0 < mantissa)
    (canonical : IsCanonical mantissa exponent) (small : exponent ≤ 971) :
    ∃ scale fraction, scale ≠ -1#11 ∧
      assemble sign scale fraction = .finite sign mantissa exponent positive := by
  obtain ⟨short, least, full⟩ := canonical
  by_cases long : 2 ^ 52 ≤ mantissa
  · have scale : (BitVec.ofNat 11 (exponent + 1075).toNat).toNat = (exponent + 1075).toNat := by
      rw [BitVec.toNat_ofNat, Nat.mod_eq_of_lt]
      omega
    have fraction : (BitVec.ofNat 52 mantissa).toNat = mantissa - 2 ^ 52 := by
      rw [BitVec.toNat_ofNat]
      omega
    have finite : BitVec.ofNat 11 (exponent + 1075).toNat ≠ -1#11 := by
      intro same
      have equal : (exponent + 1075).toNat = 2047 := scale.symm.trans (congrArg BitVec.toNat same)
      omega
    have large : BitVec.ofNat 11 (exponent + 1075).toNat ≠ 0#11 := by
      intro same
      have equal : (exponent + 1075).toNat = 0 := scale.symm.trans (congrArg BitVec.toNat same)
      omega
    refine ⟨_, BitVec.ofNat 52 mantissa, finite, ?_⟩
    refine assemble_normal sign finite large positive ?_ ?_
    · rw [fraction, hiddenBit]
      omega
    · rw [scale]
      omega
  · obtain rfl := full.resolve_left long
    refine ⟨0#11, BitVec.ofNat 52 mantissa, by decide, assemble_subnormal sign positive ?_⟩
    rw [BitVec.toNat_ofNat, Nat.mod_eq_of_lt (Nat.not_le.mp long)]

/-- Such a number comes back from packing. -/
theorem unpack_pack (sign : Sign) {mantissa : Nat} {exponent : Int} (positive : 0 < mantissa)
    (canonical : IsCanonical mantissa exponent) (small : exponent ≤ 971) :
    UnpackedFloat.unpack Format.binary64
      (UnpackedFloat.pack Format.binary64 (.finite sign mantissa exponent positive)) =
        .finite sign mantissa exponent positive := by
  obtain ⟨scale, fraction, finite, same⟩ := exists_assemble sign positive canonical small
  rw [← same, pack_assemble fun full => absurd full finite]
  rfl

/-! ## Rounding -/

/-- Rounding never goes below what is rounded. -/
theorem le_roundedMantissa (extended : ExtendedMantissa) :
    extended.mantissa ≤ extended.roundedMantissa := by
  rcases extended with ⟨mantissa, round | round, sticky | sticky⟩
  · exact Nat.le_refl _
  · exact Nat.le_refl _
  · exact Nat.le_add_right _ _
  · exact Nat.le_succ _

theorem mantissa_shiftToTargetExponent (mantissa : Nat) (exponent : Int) :
    (UnpackedFloat.shiftToTargetExponent Format.binary64 mantissa exponent .exact).1.mantissa =
      mantissa / 2 ^ (max ((mantissa.log2 : Int) + exponent - 52) (-1074) - exponent).toNat := by
  have amount : (max ((mantissa.log2 : Int) + 1 + exponent - 53) (-1074) - exponent).toNat =
      (max ((mantissa.log2 : Int) + exponent - 52) (-1074) - exponent).toNat := by
    omega
  rw [← amount]
  exact mantissa_shiftRight ⟨mantissa, false, false⟩ _

/-- After rounding, one bit too many is taken off by a last shift. -/
theorem isCanonical_carry {mantissa : Nat} {exponent : Int} (positive : 0 < mantissa)
    (short : mantissa ≤ 2 ^ 53) (least : -1074 ≤ exponent)
    (full : 2 ^ 52 ≤ mantissa ∨ exponent = -1074) :
    let last := UnpackedFloat.shiftToTargetExponent Format.binary64 mantissa exponent .exact
    0 < last.1.mantissa ∧ IsCanonical last.1.mantissa last.2 ∧
      (exponent < last.2 ∨ exponent = last.2 ∧ mantissa = last.1.mantissa) := by
  dsimp only
  rw [mantissa_shiftToTargetExponent, exponent_shiftToTargetExponent]
  rcases Nat.lt_or_eq_of_le short with below | rfl
  · have length : mantissa.log2 < 53 := (Nat.log2_lt (Nat.ne_of_gt positive)).mpr below
    have still : max exponent (max ((mantissa.log2 : Int) + exponent - 52) (-1074)) = exponent := by
      omega
    have none : (max ((mantissa.log2 : Int) + exponent - 52) (-1074) - exponent).toNat = 0 := by
      omega
    rw [still, none, Nat.pow_zero, Nat.div_one]
    exact ⟨positive, ⟨below, least, full⟩, Or.inr ⟨rfl, rfl⟩⟩
  · have carried : max exponent (max (((2 ^ 53 : Nat).log2 : Int) + exponent - 52) (-1074)) =
        exponent + 1 := by
      rw [Nat.log2_two_pow]
      omega
    have one : (max (((2 ^ 53 : Nat).log2 : Int) + exponent - 52) (-1074) - exponent).toNat =
        1 := by
      rw [Nat.log2_two_pow]
      omega
    rw [carried, one]
    exact ⟨by decide, ⟨by decide, by omega, Or.inl (by decide)⟩, Or.inl (by omega)⟩

/-- A number that needs no rounding, as a lower bound of one that may need it. -/
structure Undershoots (mantissa : Nat) (exponent : Int) (larger : Nat) (power : Int) : Prop where
  least : -1074 ≤ power
  below : power ≤ exponent
  le : mantissa * 2 ^ (exponent - power).toNat ≤ larger

namespace Undershoots

variable {mantissa larger : Nat} {exponent power : Int}

theorem larger_pos (undershoots : Undershoots mantissa exponent larger power)
    (positive : 0 < mantissa) : 0 < larger :=
  Nat.lt_of_lt_of_le (Nat.mul_pos positive (Nat.two_pow_pos _)) undershoots.le

/-- The exponent to which the larger number is rounded is not below the one of the smaller. -/
theorem le_target (undershoots : Undershoots mantissa exponent larger power)
    (positive : 0 < mantissa) (canonical : IsCanonical mantissa exponent) :
    exponent ≤ max ((larger.log2 : Int) + power - 52) (-1074) := by
  have some := undershoots.larger_pos positive
  obtain ⟨least, below, le⟩ := undershoots
  rcases canonical.full with full | rfl
  · have length : 52 + (exponent - power).toNat ≤ larger.log2 := by
      rw [Nat.le_log2 (Nat.ne_of_gt some), Nat.pow_add]
      exact Nat.le_trans (Nat.mul_le_mul_right _ full) le
    omega
  · omega

/-- The bits that are left after the first shift, and what they are rounded to. -/
theorem first_shift (undershoots : Undershoots mantissa exponent larger power)
    (positive : 0 < mantissa) (canonical : IsCanonical mantissa exponent) :
    let first := UnpackedFloat.shiftToTargetExponent Format.binary64 larger power .exact
    (2 ^ 52 ≤ first.1.roundedMantissa ∨ first.2 = -1074) ∧ -1074 ≤ first.2 ∧
      (exponent < first.2 ∨ exponent = first.2 ∧ mantissa ≤ first.1.roundedMantissa) := by
  dsimp only
  have target := undershoots.le_target positive canonical
  have some := undershoots.larger_pos positive
  obtain ⟨least, below, le⟩ := undershoots
  have rounded := le_roundedMantissa
    (UnpackedFloat.shiftToTargetExponent Format.binary64 larger power .exact).1
  rw [mantissa_shiftToTargetExponent] at rounded
  have reached : max power (max ((larger.log2 : Int) + power - 52) (-1074)) =
      max ((larger.log2 : Int) + power - 52) (-1074) := by
    omega
  rw [exponent_shiftToTargetExponent, reached]
  refine ⟨?_, by omega, ?_⟩
  · by_cases smallest : max ((larger.log2 : Int) + power - 52) (-1074) = -1074
    · exact Or.inr smallest
    · left
      refine Nat.le_trans ?_ rounded
      rw [Nat.le_div_iff_mul_le (Nat.two_pow_pos _), ← Nat.pow_add]
      refine Nat.le_trans (Nat.pow_le_pow_right (by decide) ?_)
        (Nat.log2_self_le (Nat.ne_of_gt some))
      omega
  · rcases Int.lt_or_eq_of_le target with less | same
    · exact Or.inl less
    · refine Or.inr ⟨same, Nat.le_trans ?_ rounded⟩
      rw [← same, Nat.le_div_iff_mul_le (Nat.two_pow_pos _)]
      exact le

/--
Rounding does not take a number below one that needs no rounding.  The exponent
of what is rounded is low enough already.
-/
theorem round (undershoots : Undershoots mantissa exponent larger power)
    (positive : 0 < mantissa) (canonical : IsCanonical mantissa exponent) :
    ∃ final scale some, UnpackedFloat.round Format.binary64 .positive larger power =
        .finite .positive final scale some ∧
      IsCanonical final scale ∧ (exponent < scale ∨ exponent = scale ∧ mantissa ≤ final) := by
  have target := undershoots.le_target positive canonical
  obtain ⟨full, least, grows⟩ := undershoots.first_shift positive canonical
  have short := roundedMantissa_shiftToTargetExponent_le larger power
  have still : (power - max ((larger.log2 : Int) + 1 + power - 53) (-1074)).toNat = 0 := by
    have below := undershoots.below
    omega
  have rounded : UnpackedFloat.round Format.binary64 .positive larger power =
      UnpackedFloat.roundWithAccuracy Format.binary64 .positive larger power .exact := by
    show UnpackedFloat.roundWithAccuracy Format.binary64 .positive
      (larger <<< (power - max ((larger.log2 : Int) + 1 + power - 53) (-1074)).toNat)
      (power - ((power - max ((larger.log2 : Int) + 1 + power - 53) (-1074)).toNat : Int)) .exact =
        _
    rw [still, Nat.shiftLeft_zero, Int.natCast_zero, Int.sub_zero]
  rw [rounded, UnpackedFloat.roundWithAccuracy]
  generalize UnpackedFloat.shiftToTargetExponent Format.binary64 larger power .exact = first
    at least full grows short
  have some : 0 < first.1.roundedMantissa := by
    have bound := canonical.least
    rcases grows with less | ⟨-, le⟩
    · rcases full with full | lowest
      · exact Nat.lt_of_lt_of_le (by decide) full
      · omega
    · exact Nat.lt_of_lt_of_le positive le
  obtain ⟨left, canonical', carried⟩ := isCanonical_carry some short least full
  simp only [dif_neg (Nat.ne_of_gt left)]
  refine ⟨_, _, left, rfl, canonical', ?_⟩
  rcases carried with more | ⟨same, kept⟩
  · left
    omega
  · rw [← same, ← kept]
    exact grows

end Undershoots

/-! ## Sums -/

theorem rank_finite_le {mantissa mantissa' : Nat} {exponent exponent' : Int}
    {positive : 0 < mantissa} {positive' : 0 < mantissa'}
    (le : exponent < exponent' ∨ exponent = exponent' ∧ mantissa ≤ mantissa') :
    rank (.finite .positive mantissa exponent positive) ≤
      rank (.finite .positive mantissa' exponent' positive') := by
  rw [rank, rank, Prod.Lex.toLex_le_toLex]
  refine Or.inr ⟨rfl, ?_⟩
  rw [Prod.Lex.toLex_le_toLex]
  exact le.imp_right fun both => ⟨both.1, Int.ofNat_le.mpr both.2⟩

/-- The exact sum of two mantissas, with the smaller one of their exponents. -/
def sumMantissa (mantissa : Nat) (exponent : Int) (mantissa' : Nat) (exponent' : Int) : Nat :=
  mantissa <<< (exponent - min exponent exponent').toNat +
    mantissa' <<< (exponent' - min exponent exponent').toNat

section

variable {mantissa mantissa' : Nat} {exponent exponent' : Int}

/-- A sum is not below its first part before it is rounded. -/
theorem undershoots_sum (canonical : IsCanonical mantissa exponent)
    (canonical' : IsCanonical mantissa' exponent') :
    Undershoots mantissa exponent (sumMantissa mantissa exponent mantissa' exponent')
      (min exponent exponent') where
  least := le_min canonical.least canonical'.least
  below := min_le_left exponent exponent'
  le := by
    rw [sumMantissa, Nat.shiftLeft_eq]
    exact Nat.le_add_right _ _

/-- Numbers above zero are added exactly, and then rounded. -/
theorem add_finite (positive : 0 < mantissa) (positive' : 0 < mantissa') :
    UnpackedFloat.add Format.binary64 (.finite .positive mantissa exponent positive)
        (.finite .positive mantissa' exponent' positive') =
      UnpackedFloat.round Format.binary64 .positive
        (sumMantissa mantissa exponent mantissa' exponent') (min exponent exponent') := by
  have some : 0 < sumMantissa mantissa exponent mantissa' exponent' := by
    rw [sumMantissa, Nat.shiftLeft_eq]
    exact Nat.add_pos_left (Nat.mul_pos positive (Nat.two_pow_pos _)) _
  have above : compare (sumMantissa mantissa exponent mantissa' exponent' : Int) 0 = .gt :=
    Int.compare_eq_gt.mpr (by omega)
  show UnpackedFloat.normalize Format.binary64
    (sumMantissa mantissa exponent mantissa' exponent' : Nat) (min exponent exponent') .positive = _
  rw [UnpackedFloat.normalize, above]
  rfl

end

/-- A number that is not below zero, and needs no rounding. -/
inductive IsNonneg : UnpackedFloat → Prop where
  | zero (sign : Sign) : IsNonneg (.zero sign)
  | finite {mantissa : Nat} {exponent : Int} (positive : 0 < mantissa)
      (canonical : IsCanonical mantissa exponent) :
      IsNonneg (.finite .positive mantissa exponent positive)
  | infinity : IsNonneg (.infinity .positive)

/-- A double that is not below zero is unpacked to such a number. -/
theorem isNonneg_unpack {number : Float} (nonneg : 0 ≤ number) :
    IsNonneg number.toModel.unpack := by
  have zero : place 0 = toLex (0, toLex (0, 0)) := by decide +kernel
  obtain ⟨-, known, above⟩ := (le_iff_place_le 0 number).mp nonneg
  rw [zero, place] at above
  replace known : number.toModel.unpack.isNaN = false := known
  cases unpacked : number.toModel.unpack with
  | notANumber =>
      rw [unpacked] at known
      cases known
  | zero sign => exact .zero sign
  | infinity sign =>
      cases sign with
      | positive => exact .infinity
      | negative =>
          rw [unpacked] at above
          exact absurd above (by decide)
  | finite sign mantissa exponent positive =>
      cases sign with
      | positive => exact .finite positive (isCanonical_unpack unpacked)
      | negative =>
          rw [unpacked, rank, Prod.Lex.toLex_le_toLex] at above
          simp at above

namespace IsNonneg

variable {number other : UnpackedFloat}

theorem isNaN (nonneg : IsNonneg number) : number.isNaN = false := by
  cases nonneg <;> rfl

theorem rank_le_infinity (nonneg : IsNonneg number) : rank number ≤ rank (.infinity .positive) := by
  cases nonneg with
  | zero sign => exact (by decide : rank (.zero .positive) ≤ rank (.infinity .positive))
  | finite positive canonical =>
      rw [rank, rank, Prod.Lex.toLex_le_toLex]
      exact Or.inl one_lt_two
  | infinity => exact le_rfl

/-- Packing does not make a number smaller. -/
theorem rank_le_pack (nonneg : IsNonneg number) :
    rank number ≤
      rank (UnpackedFloat.unpack Format.binary64 (UnpackedFloat.pack Format.binary64 number)) := by
  cases nonneg with
  | zero sign => cases sign <;> exact le_rfl
  | infinity => exact le_rfl
  | @finite mantissa exponent positive canonical =>
      by_cases small : exponent ≤ 971
      · rw [unpack_pack .positive positive canonical small]
      · have overflow : 2 ^ Format.binary64.exponentBits ≤
            (exponent + Format.binary64.exponentBias +
              Format.binary64.mantissaBitsWithoutImplicit).toNat + 1 := by
          show 2048 ≤ (exponent + 1023 + 52).toNat + 1
          omega
        rw [UnpackedFloat.pack, if_pos overflow]
        exact (IsNonneg.finite positive canonical).rank_le_infinity

/-- No rank is below that of zero. -/
theorem zero_le_rank (nonneg : IsNonneg number) : toLex (0, toLex (0, 0)) ≤ rank number := by
  cases nonneg with
  | zero sign => exact le_rfl
  | finite positive canonical =>
      rw [rank, Prod.Lex.toLex_le_toLex]
      exact Or.inl one_pos
  | infinity => decide

/-- A sum is not below its first summand. -/
theorem add (nonneg : IsNonneg number) (nonneg' : IsNonneg other) :
    IsNonneg (UnpackedFloat.add Format.binary64 number other) ∧
      rank number ≤ rank (UnpackedFloat.add Format.binary64 number other) := by
  cases nonneg with
  | infinity => cases nonneg' <;> exact ⟨.infinity, le_rfl⟩
  | zero sign =>
      have sum : IsNonneg (UnpackedFloat.add Format.binary64 (.zero sign) other) := by
        cases nonneg' with
        | zero sign' =>
            rw [UnpackedFloat.add]
            split <;> exact .zero _
        | finite positive canonical => exact .finite positive canonical
        | infinity => exact .infinity
      exact ⟨sum, sum.zero_le_rank⟩
  | finite positive canonical =>
      cases nonneg' with
      | zero sign => exact ⟨.finite positive canonical, le_rfl⟩
      | infinity => exact ⟨.infinity, (IsNonneg.finite positive canonical).rank_le_infinity⟩
      | finite positive' canonical' =>
          obtain ⟨mantissa, exponent, some, sum, canonical'', grows⟩ :=
            (undershoots_sum canonical canonical').round positive canonical
          rw [add_finite positive positive', sum]
          exact ⟨.finite some canonical'', rank_finite_le grows⟩

end IsNonneg

/-- Adding what is not below zero to what is not below zero does not make it smaller. -/
theorem float_le_add {first second : Float} (nonneg : 0 ≤ first) (nonneg' : 0 ≤ second) :
    first ≤ first + second := by
  have summand := isNonneg_unpack nonneg
  obtain ⟨sum, grows⟩ := summand.add (isNonneg_unpack nonneg')
  exact (le_iff_place_le first (first + second)).mpr
    ⟨summand.isNaN, isNaN_pack sum.isNaN, grows.trans sum.rank_le_pack⟩

end Logo.Number
