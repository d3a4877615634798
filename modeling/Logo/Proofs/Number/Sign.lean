import Mathlib
import Logo.Number.Exact

/-!
# The sign of a double

A double is a sign together with the bits below it, and negation changes the
sign alone.  So two doubles with the same magnitude have the same exact value
up to the sign, and negating both sides of a comparison changes nothing.
-/

namespace Logo.Number

open Float.Model (Format UnpackedFloat)
open Float.Model.UnpackedFloat (Sign packComponents)

/-! ## Doubles in parts -/

/-- The number that a sign, an exponent and a mantissa stand for. -/
def assemble (sign : Sign) (exponent : BitVec 11) (mantissa : BitVec 52) : UnpackedFloat :=
  UnpackedFloat.unpack Format.binary64 (packComponents Format.binary64 sign exponent mantissa)

theorem unpackSign_packComponents (format : Format) (sign : Sign)
    (exponent : BitVec format.exponentBits)
    (mantissa : BitVec format.mantissaBitsWithoutImplicit) :
    UnpackedFloat.unpackSign (packComponents format sign exponent mantissa) = sign.toBitVec := by
  apply BitVec.eq_of_getLsbD_eq
  intro index below
  obtain rfl : index = 0 := by omega
  simp [UnpackedFloat.unpackSign, packComponents, BitVec.getLsbD_append, BitVec.getElem_append]

theorem ofBitVec_toBitVec (sign : Sign) : Sign.ofBitVec sign.toBitVec = sign := by
  cases sign <;> rfl

theorem toNat_append_one (mantissa : BitVec 52) :
    (1#1 ++ mantissa).toNat = hiddenBit + mantissa.toNat := by
  rw [BitVec.toNat_append, ← Nat.shiftLeft_add_eq_or_of_lt mantissa.isLt]
  rfl

/-- Negation changes the sign and nothing else. -/
theorem neg_assemble (sign : Sign) (exponent : BitVec 11) (mantissa : BitVec 52) :
    (assemble sign exponent mantissa).neg = assemble (-sign) exponent mantissa := by
  simp only [assemble, UnpackedFloat.unpack, UnpackedFloat.unpackMantissa_packComponents,
    UnpackedFloat.unpackExponent_packComponents, unpackSign_packComponents, ofBitVec_toBitVec]
  split
  · split <;> rfl
  · split
    · split <;> rfl
    · rfl

theorem pack_subnormal (sign : Sign) {mantissa : BitVec 52} (positive : 0 < mantissa.toNat) :
    UnpackedFloat.pack Format.binary64 (.finite sign mantissa.toNat (-1074) positive) =
      packComponents Format.binary64 sign 0#11 mantissa := by
  have length : mantissa.toNat.log2 < 52 := (Nat.log2_lt (by omega)).2 mantissa.isLt
  have short : ¬ mantissa.toNat.log2 + 1 = Format.binary64.mantissaBits := by
    show ¬ mantissa.toNat.log2 + 1 = 53
    omega
  rw [UnpackedFloat.pack, if_neg (by decide), if_neg short]
  simp

theorem pack_normal (sign : Sign) {exponent : BitVec 11} (mantissa : BitVec 52)
    (finite : exponent ≠ -1#11) (positive : 0 < (1#1 ++ mantissa).toNat) :
    UnpackedFloat.pack Format.binary64
        (.finite sign (1#1 ++ mantissa).toNat (exponent.toNat - 1075) positive) =
      packComponents Format.binary64 sign exponent mantissa := by
  have full : (1#1 ++ mantissa).toNat.log2 + 1 = Format.binary64.mantissaBits := by
    have bound := mantissa.isLt
    have size := toNat_append_one mantissa
    unfold hiddenBit at size
    have above := (Nat.log2_lt (k := 53) (Nat.ne_of_gt positive)).2 (by omega)
    have below := (Nat.le_log2 (k := 52) (Nat.ne_of_gt positive)).2 (by omega)
    show _ = 53
    omega
  have scale : ((exponent.toNat : Int) - 1075 + Format.binary64.exponentBias +
      Format.binary64.mantissaBitsWithoutImplicit).toNat = exponent.toNat := by
    show ((exponent.toNat : Int) - 1075 + 1023 + 52).toNat = _
    omega
  have small : ¬ 2 ^ Format.binary64.exponentBits ≤ exponent.toNat + 1 := by
    show ¬ 2048 ≤ exponent.toNat + 1
    have bound := exponent.isLt
    have least : exponent.toNat ≠ 2047 := fun equal => finite (BitVec.eq_of_toNat_eq equal)
    omega
  rw [UnpackedFloat.pack]
  simp only [scale, if_neg small, if_pos full]
  congr 1
  · simp
  · apply BitVec.eq_of_toNat_eq
    have bound := mantissa.isLt
    simp only [BitVec.toNat_ofNat, toNat_append_one, hiddenBit]
    show (0x10000000000000 + mantissa.toNat) % 2 ^ 52 = _
    omega

/-- Packing undoes unpacking, unless there is no number. -/
theorem pack_assemble {sign : Sign} {exponent : BitVec 11} {mantissa : BitVec 52}
    (number : exponent = -1#11 → mantissa = 0#52) :
    UnpackedFloat.pack Format.binary64 (assemble sign exponent mantissa) =
      packComponents Format.binary64 sign exponent mantissa := by
  simp only [assemble, UnpackedFloat.unpack, UnpackedFloat.unpackMantissa_packComponents,
    UnpackedFloat.unpackExponent_packComponents, unpackSign_packComponents, ofBitVec_toBitVec]
  split
  · rename_i full
    rw [if_pos (number full), UnpackedFloat.pack, UnpackedFloat.packedInfinity, full, number full]
    rfl
  · rename_i finite
    split
    · rename_i small
      subst small
      split
      · rename_i none
        rw [UnpackedFloat.pack, UnpackedFloat.packedZero, none]
        rfl
      · exact pack_subnormal sign _
    · exact pack_normal sign mantissa finite _

/-! ## Magnitudes -/

/-- The sign of a number that is negative or not. -/
def signOf (negative : Bool) : Sign :=
  if negative then .negative else .positive

theorem signOf_not (negative : Bool) : signOf (!negative) = -signOf negative := by
  cases negative <;> rfl

theorem toBitVec_signed (negative : Bool) {bits : Nat} (bound : bits < signBit) :
    (UInt64.ofNat (if negative then signBit + bits else bits)).toBitVec =
      packComponents Format.binary64 (signOf negative)
        (BitVec.ofNat 11 (bits / hiddenBit)) (BitVec.ofNat 52 bits) := by
  apply BitVec.eq_of_toNat_eq
  have exponent := (BitVec.ofNat 11 (bits / hiddenBit)).isLt
  have mantissa := (BitVec.ofNat 52 bits).isLt
  rw [packComponents, BitVec.toNat_append, ← Nat.shiftLeft_add_eq_or_of_lt mantissa,
    BitVec.toNat_append, ← Nat.shiftLeft_add_eq_or_of_lt exponent]
  simp only [Nat.shiftLeft_eq, BitVec.toNat_ofNat]
  unfold signBit at bound
  cases negative
  · show bits % 2 ^ 64 =
      (0 * 2 ^ 11 + bits / 0x10000000000000 % 2 ^ 11) * 2 ^ 52 + bits % 2 ^ 52
    omega
  · show (0x8000000000000000 + bits) % 2 ^ 64 =
      (1 * 2 ^ 11 + bits / 0x10000000000000 % 2 ^ 11) * 2 ^ 52 + bits % 2 ^ 52
    omega

/-- Up to infinity, no magnitude stands for something that is no number. -/
theorem mantissa_of_le {bits : Nat} (bound : bits ≤ infinityBits) :
    BitVec.ofNat 11 (bits / hiddenBit) = -1#11 → BitVec.ofNat 52 bits = 0#52 := by
  intro full
  have scale := congrArg BitVec.toNat full
  simp only [BitVec.toNat_ofNat] at scale
  replace scale : bits / 0x10000000000000 % 2 ^ 11 = 2047 := scale
  apply BitVec.eq_of_toNat_eq
  simp only [BitVec.toNat_ofNat]
  unfold infinityBits hiddenBit at bound
  omega

theorem lt_of_le_infinityBits {bits : Nat} (bound : bits ≤ infinityBits) : bits < signBit := by
  unfold infinityBits hiddenBit at bound
  unfold signBit
  omega

theorem toBits_ofMagnitudeBits (negative : Bool) {bits : Nat} (bound : bits ≤ infinityBits) :
    (ofMagnitudeBits negative bits).toBits =
      UInt64.ofNat (if negative then signBit + bits else bits) := by
  apply UInt64.toBitVec_inj.1
  show UnpackedFloat.pack Format.binary64 (UnpackedFloat.unpack Format.binary64 _) = _
  rw [toBitVec_signed negative (lt_of_le_infinityBits bound)]
  exact pack_assemble (mantissa_of_le bound)

theorem unpack_ofMagnitudeBits (negative : Bool) {bits : Nat} (bound : bits ≤ infinityBits) :
    (ofMagnitudeBits negative bits).toModel.unpack =
      assemble (signOf negative) (BitVec.ofNat 11 (bits / hiddenBit)) (BitVec.ofNat 52 bits) := by
  show UnpackedFloat.unpack Format.binary64 (ofMagnitudeBits negative bits).toBits.toBitVec = _
  rw [toBits_ofMagnitudeBits negative bound, toBitVec_signed negative (lt_of_le_infinityBits bound)]
  rfl

/-- A number is negated by changing its sign. -/
theorem neg_ofMagnitudeBits (negative : Bool) {bits : Nat} (bound : bits ≤ infinityBits) :
    -(ofMagnitudeBits negative bits) = ofMagnitudeBits (!negative) bits := by
  show Float.ofModel (Float.Model.pack (ofMagnitudeBits negative bits).toModel.unpack.neg) =
    Float.ofModel (Float.Model.pack (UnpackedFloat.unpack Format.binary64 _))
  rw [unpack_ofMagnitudeBits negative bound, neg_assemble, ← signOf_not,
    toBitVec_signed (!negative) (lt_of_le_infinityBits bound)]
  rfl

/-! ## Comparison -/

theorem compare_neg_neg (first second : UnpackedFloat) :
    first.neg.compare second.neg = (first.compare second).map Ordering.swap := by
  rcases first with (_ | _) | _ | _ | ⟨_ | _, _, _, _⟩ <;>
    rcases second with (_ | _) | _ | _ | ⟨_ | _, _, _, _⟩ <;>
    simp [UnpackedFloat.neg, UnpackedFloat.compare, Neg.neg, compare]

theorem beq_neg_neg (first second : UnpackedFloat) :
    first.neg.beq second.neg = first.beq second := by
  rw [UnpackedFloat.beq, UnpackedFloat.beq, compare_neg_neg]
  rcases first.compare second with _ | _ | _ | _ <;> rfl

/-- Nothing tells the two zeros apart. -/
theorem beq_zero (number : UnpackedFloat) (sign other : Sign) :
    number.beq (.zero sign) = number.beq (.zero other) := by
  cases number with
  | finite sign => cases sign <;> rfl
  | infinity sign => cases sign <;> rfl
  | _ => rfl

/-- Two numbers are equal exactly if their negations are. -/
theorem neg_beq_neg {first second : Bool} {left right : Nat}
    (leftBound : left ≤ infinityBits) (rightBound : right ≤ infinityBits) :
    (-(ofMagnitudeBits first left) == -(ofMagnitudeBits second right)) =
      (ofMagnitudeBits first left == ofMagnitudeBits second right) := by
  rw [neg_ofMagnitudeBits first leftBound, neg_ofMagnitudeBits second rightBound]
  show (ofMagnitudeBits (!first) left).toModel.unpack.beq
      (ofMagnitudeBits (!second) right).toModel.unpack =
    (ofMagnitudeBits first left).toModel.unpack.beq (ofMagnitudeBits second right).toModel.unpack
  simp only [unpack_ofMagnitudeBits _ leftBound, unpack_ofMagnitudeBits _ rightBound, signOf_not,
    ← neg_assemble, beq_neg_neg]

theorem beq_ofMagnitudeBits_zero (number : Float) (negative : Bool) :
    (number == ofMagnitudeBits negative 0) = (number == ofMagnitudeBits false 0) := by
  cases negative
  · rfl
  · exact beq_zero number.toModel.unpack .negative .positive

/-! ## Exact values -/

/-- The exact value of a magnitude. -/
def Exact.ofMagnitude (bits : Nat) : Exact :=
  if bits / hiddenBit = 0 then
    ⟨false, bits, -1074⟩
  else
    ⟨false, bits % hiddenBit + hiddenBit, (bits / hiddenBit : Nat) - 1075⟩

theorem scale_ofNat (word : Nat) :
    (UInt64.ofNat word >>> 52 &&& 0x7ff).toNat = word % UInt64.size / hiddenBit % 2048 := by
  rw [UInt64.toNat_and, UInt64.toNat_shiftRight, UInt64.toNat_ofNat']
  show (word % UInt64.size) >>> 52 &&& 2 ^ 11 - 1 = _
  rw [Nat.and_two_pow_sub_one_eq_mod, Nat.shiftRight_eq_div_pow]
  rfl

theorem fraction_ofNat (word : Nat) :
    (UInt64.ofNat word &&& 0xfffffffffffff).toNat = word % UInt64.size % hiddenBit := by
  rw [UInt64.toNat_and, UInt64.toNat_ofNat']
  show word % UInt64.size &&& 2 ^ 52 - 1 = _
  rw [Nat.and_two_pow_sub_one_eq_mod]
  rfl

theorem sign_ofNat (word : Nat) :
    (UInt64.ofNat word >>> 63 == 1) = decide (word % UInt64.size / signBit = 1) := by
  rw [Bool.eq_iff_iff, beq_iff_eq, decide_eq_true_iff, ← UInt64.toNat_inj,
    UInt64.toNat_shiftRight, UInt64.toNat_ofNat']
  show (word % UInt64.size) >>> 63 = 1 ↔ _
  rw [Nat.shiftRight_eq_div_pow]
  rfl

/-- The exact value of a finite double shows its sign, and nothing else depends on it. -/
theorem ofFloat?_ofMagnitudeBits (negative : Bool) {bits : Nat} (bound : bits < infinityBits) :
    Exact.ofFloat? (ofMagnitudeBits negative bits) =
      some { Exact.ofMagnitude bits with negative := negative } := by
  have small : bits < 2047 * 0x10000000000000 := bound
  have sign : (if negative then signBit + bits else bits) % UInt64.size / signBit = 1 ↔
      negative = true := by
    unfold signBit UInt64.size
    cases negative <;> simp only [reduceIte, Bool.false_eq_true, iff_true, iff_false] <;> omega
  have scale : (if negative then signBit + bits else bits) % UInt64.size / hiddenBit % 2048 =
      bits / hiddenBit := by
    unfold signBit UInt64.size hiddenBit
    split <;> omega
  have fraction : (if negative then signBit + bits else bits) % UInt64.size % hiddenBit =
      bits % hiddenBit := by
    unfold signBit UInt64.size hiddenBit
    split <;> omega
  rw [Exact.ofFloat?, toBits_ofMagnitudeBits negative (Nat.le_of_lt bound)]
  simp only [scale_ofNat, fraction_ofNat, sign_ofNat, sign, scale, fraction, Bool.decide_eq_true,
    beq_iff_eq, Exact.ofMagnitude]
  unfold hiddenBit
  rw [if_neg (by omega)]
  split
  · rw [Nat.mod_eq_of_lt (by omega)]
  · rfl

end Logo.Number
