import Logo.Number.Rounding
import Logo.Proofs.Number.Sign

/-!
# Infinite doubles

Two questions about doubles that are not finite.  A double has a whole part
exactly if it is finite.  And an angle in degrees is infinite exactly if it is
infinite in radians: the factor between them is small, so the product of a
finite angle stays far from the end of the range, however it is rounded.
-/

namespace Logo.Number

open Float.Model (Format UnpackedFloat totalExponent)
open Float.Model.UnpackedFloat (Sign Accuracy ExtendedMantissa packComponents)

/-! ## Rounding keeps within the range -/

theorem mantissa_shiftRight (extended : ExtendedMantissa) (amount : Nat) :
    (extended >>> amount).mantissa = extended.mantissa / 2 ^ amount := by
  induction amount with
  | zero => exact (Nat.div_one _).symm
  | succ amount induction =>
      change (extended >>> amount).mantissa / 2 = _
      rw [induction, Nat.div_div_eq_div_mul, Nat.pow_succ]

/-- Rounding adds one at most. -/
theorem roundedMantissa_le (extended : ExtendedMantissa) :
    extended.roundedMantissa ≤ extended.mantissa + 1 := by
  rcases extended with ⟨mantissa, round | round, sticky | sticky⟩
  · exact Nat.le_succ mantissa
  · exact Nat.le_succ mantissa
  · show mantissa + mantissa % 2 ≤ mantissa + 1
    omega
  · exact Nat.le_refl _

theorem log2_lt_of_lt {number bits : Nat} (below : number < 2 ^ (bits + 1)) :
    number.log2 < bits + 1 := by
  by_cases zero : number = 0
  · subst zero
    exact Nat.succ_pos bits
  · exact (Nat.log2_lt zero).mpr below

/-- The exponent after a shift is the one that the mantissa should have, or greater. -/
theorem exponent_shiftToTargetExponent (mantissa : Nat) (exponent : Int) :
    (UnpackedFloat.shiftToTargetExponent Format.binary64 mantissa exponent .exact).2 =
      max exponent (max (mantissa.log2 + exponent - 52) (-1074)) := by
  show exponent +
    ((max ((mantissa.log2 : Int) + 1 + exponent - 53) (-1074) - exponent).toNat : Int) = _
  omega

/-- After a shift the mantissa has 53 bits at most, so rounding makes it at most 2 ^ 53. -/
theorem roundedMantissa_shiftToTargetExponent_le (mantissa : Nat) (exponent : Int) :
    (UnpackedFloat.shiftToTargetExponent Format.binary64 mantissa exponent
      .exact).1.roundedMantissa ≤ 2 ^ 53 := by
  refine Nat.le_trans (roundedMantissa_le _) ?_
  show (ExtendedMantissa.mk mantissa false false >>>
    (max ((mantissa.log2 : Int) + 1 + exponent - 53) (-1074) - exponent).toNat).mantissa + 1 ≤
      2 ^ 53
  generalize shifted :
    (max ((mantissa.log2 : Int) + 1 + exponent - 53) (-1074) - exponent).toNat = amount
  have enough : mantissa.log2 + 1 ≤ 53 + amount := by omega
  rw [mantissa_shiftRight, Nat.succ_le_iff, Nat.div_lt_iff_lt_mul (Nat.two_pow_pos amount),
    ← Nat.pow_add]
  calc mantissa < 2 ^ (mantissa.log2 + 1) := Nat.lt_log2_self
    _ ≤ 2 ^ (53 + amount) := Nat.pow_le_pow_right (by decide) enough

/-- A number that stays finite when it is packed. -/
def InRange : UnpackedFloat → Prop
  | .infinity _ => False
  | .finite _ _ exponent _ => exponent ≤ 971
  | _ => True

theorem InRange.roundWithAccuracy (sign : Sign) {mantissa : Nat} {exponent : Int}
    (small : exponent ≤ 970) (within : mantissa.log2 + exponent ≤ 1022) :
    InRange (UnpackedFloat.roundWithAccuracy Format.binary64 sign mantissa exponent .exact) := by
  have start := exponent_shiftToTargetExponent mantissa exponent
  have rounded := roundedMantissa_shiftToTargetExponent_le mantissa exponent
  rw [UnpackedFloat.roundWithAccuracy]
  generalize UnpackedFloat.shiftToTargetExponent Format.binary64 mantissa exponent .exact = first
    at start rounded
  have last := exponent_shiftToTargetExponent first.1.roundedMantissa first.2
  dsimp only
  generalize UnpackedFloat.shiftToTargetExponent Format.binary64 first.1.roundedMantissa first.2
    .exact = second at last
  split
  · trivial
  · have short : first.1.roundedMantissa.log2 < 53 + 1 := log2_lt_of_lt (by omega)
    show second.2 ≤ 971
    omega

theorem isInf_unpack_packComponents (sign : Sign) {exponent : BitVec 11} (mantissa : BitVec 52)
    (finite : exponent ≠ -1#11) :
    (UnpackedFloat.unpack Format.binary64
      (packComponents Format.binary64 sign exponent mantissa)).isInf = false := by
  simp only [UnpackedFloat.unpack, UnpackedFloat.unpackExponent_packComponents, if_neg finite]
  split
  · split <;> rfl
  · rfl

theorem InRange.isInf_pack {number : UnpackedFloat} (inRange : InRange number) :
    (UnpackedFloat.unpack Format.binary64
      (UnpackedFloat.pack Format.binary64 number)).isInf = false := by
  cases number with
  | infinity => exact inRange.elim
  | notANumber => rfl
  | zero sign => cases sign <;> rfl
  | finite sign mantissa exponent positive =>
      have bound : exponent ≤ 971 := inRange
      have small : (exponent + 1023 + 52).toNat < 2047 := by omega
      rw [UnpackedFloat.pack]
      split
      · rename_i overflow
        exact absurd small (Nat.not_lt.mpr (Nat.le_of_succ_le_succ overflow))
      · split
        · apply isInf_unpack_packComponents
          intro full
          have biased := congrArg BitVec.toNat full
          simp only [BitVec.toNat_ofNat] at biased
          replace biased : (exponent + 1023 + 52).toNat % 2048 = 2047 := biased
          omega
        · exact isInf_unpack_packComponents _ _ (by decide)

theorem isInf_pack_infinity (sign : Sign) :
    (UnpackedFloat.unpack Format.binary64
      (UnpackedFloat.pack Format.binary64 (.infinity sign))).isInf = true := by
  cases sign <;> rfl

/-- What is unpacked has 53 bits at most, and its exponent is in the range. -/
theorem unpack_bounds {bits : BitVec Format.binary64.numBits} {sign : Sign} {mantissa : Nat}
    {exponent : Int} {positive : 0 < mantissa}
    (unpacked :
      UnpackedFloat.unpack Format.binary64 bits = .finite sign mantissa exponent positive) :
    mantissa < 2 ^ 53 ∧ exponent ≤ 971 := by
  rw [UnpackedFloat.unpack] at unpacked
  dsimp only at unpacked
  split at unpacked
  · split at unpacked <;> cases unpacked
  · rename_i finite
    split at unpacked
    · rename_i small
      split at unpacked
      · cases unpacked
      · cases unpacked
        have fraction := (UnpackedFloat.unpackMantissa bits).isLt
        refine ⟨Nat.lt_trans fraction (by decide), ?_⟩
        rw [small]
        decide
    · cases unpacked
      have scale := (UnpackedFloat.unpackExponent bits).isLt
      have least : (UnpackedFloat.unpackExponent bits).toNat ≠ 2047 :=
        fun full => finite (BitVec.eq_of_toNat_eq full)
      refine ⟨(1#1 ++ UnpackedFloat.unpackMantissa bits).isLt, ?_⟩
      show ((UnpackedFloat.unpackExponent bits).toNat : Int) - (1023 + 52) ≤ 971
      replace scale : (UnpackedFloat.unpackExponent bits).toNat < 2048 := scale
      omega

/-- The factor by which degrees become radians. -/
theorem unpack_factor :
    ∃ positive, (pi / 180 : Float).toModel.unpack =
      .finite .positive 5030569068109113 (-58) positive := by
  have bits : (pi / 180 : Float).toModel.toBits = 0x3f91df46a2529d39 := by decide +kernel
  refine ⟨by decide, ?_⟩
  rw [Float.Model.unpack, bits]
  rfl

/-- Radians are infinite exactly if degrees are. -/
theorem isInf_radians (degrees : Float) : (radians degrees).isInf = degrees.isInf := by
  obtain ⟨positive, factor⟩ := unpack_factor
  show (UnpackedFloat.unpack Format.binary64 (UnpackedFloat.pack Format.binary64
    (UnpackedFloat.mul Format.binary64 degrees.toModel.unpack
      (pi / 180 : Float).toModel.unpack))).isInf = degrees.toModel.unpack.isInf
  rw [factor]
  rcases unpacked : degrees.toModel.unpack with sign | _ | sign | ⟨sign, mantissa, exponent, some⟩
  · exact isInf_pack_infinity _
  · exact InRange.isInf_pack trivial
  · exact InRange.isInf_pack trivial
  · obtain ⟨short, low⟩ := unpack_bounds unpacked
    apply InRange.isInf_pack
    apply InRange.roundWithAccuracy
    · omega
    · have product : mantissa * 5030569068109113 < 2 ^ 106 := by omega
      have length := log2_lt_of_lt product
      omega

/-! ## Doubles without a whole part -/

theorem toNat_unpackExponent (bits : UInt64) :
    (@UnpackedFloat.unpackExponent Format.binary64 bits.toBitVec).toNat =
      (bits >>> 52 &&& 0x7ff).toNat := by
  rw [UnpackedFloat.unpackExponent, BitVec.toNat_cast, BitVec.extractLsb_toNat, UInt64.toNat_and,
    UInt64.toNat_shiftRight]
  show bits.toNat >>> 52 % 2 ^ 11 = bits.toNat >>> 52 &&& 2 ^ 11 - 1
  rw [Nat.and_two_pow_sub_one_eq_mod]

theorem unpackExponent_eq_iff (bits : UInt64) :
    @UnpackedFloat.unpackExponent Format.binary64 bits.toBitVec = -1#11 ↔
      (bits >>> 52 &&& 0x7ff).toNat = 2047 := by
  rw [← toNat_unpackExponent]
  constructor
  · intro full
    rw [full]
    decide
  · intro full
    exact BitVec.eq_of_toNat_eq full

/-- The numbers without an exact value are those with the largest exponent. -/
theorem ofFloat?_eq_none_iff (number : Float) :
    Exact.ofFloat? number = none ↔ (number.toBits >>> 52 &&& 0x7ff).toNat = 2047 := by
  rw [Exact.ofFloat?]
  split
  · rename_i full
    exact ⟨fun _ => beq_iff_eq.mp full, fun _ => rfl⟩
  · rename_i finite
    refine ⟨fun missing => ?_, fun full => absurd (beq_iff_eq.mpr full) finite⟩
    split at missing <;> cases missing

theorem isFinite_eq_false_iff (number : Float) :
    number.isFinite = false ↔
      @UnpackedFloat.unpackExponent Format.binary64 number.toModel.toBits.toBitVec = -1#11 := by
  show number.toModel.unpack.isFinite = false ↔ _
  rw [Float.Model.unpack, UnpackedFloat.unpack]
  dsimp only
  split
  · rename_i full
    refine ⟨fun _ => full, fun _ => ?_⟩
    split <;> rfl
  · rename_i finite
    refine ⟨fun beyond => ?_, fun full => absurd full finite⟩
    split at beyond
    · split at beyond <;> cases beyond
    · cases beyond

/-- Exactly the finite doubles have a whole part. -/
theorem whole?_eq_none_iff (number : Float) : whole? number = none ↔ number.isFinite = false := by
  rw [whole?, Option.map_eq_none_iff, ofFloat?_eq_none_iff, isFinite_eq_false_iff,
    unpackExponent_eq_iff]
  rfl

end Logo.Number
