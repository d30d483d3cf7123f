import Mathlib
import RationalCalc.Binary64.Exact

/-!
Doubles as real numbers. The machine takes an encoding apart into a sign, a significand and an
exponent of two; here its parts are related to the fields that the exact value is read from. A double
rounds a real number if it is near it, or an infinity in place of a number that is too large.
-/

namespace RationalCalc.Binary64

open Float.Model Float.Model.UnpackedFloat

def field (bits : Nat) : Nat :=
  bits % signBit / fractionSpan

def fraction (bits : Nat) : Nat :=
  bits % signBit % fractionSpan

def sign (bits : Nat) : Sign :=
  if signBit ≤ bits then .negative else .positive

theorem field_le (bits : Nat) : field bits ≤ 2047 := by
  unfold field signBit fractionSpan
  omega

theorem fraction_lt (bits : Nat) : fraction bits < 2 ^ 52 := by
  unfold fraction fractionSpan
  omega

theorem magnitude_eq (bits : Nat) : bits % signBit = field bits * 2 ^ 52 + fraction bits := by
  unfold field fraction fractionSpan
  omega

/-! What the machine takes apart -/

theorem unpackExponent_toNat (bits : BitVec Format.binary64.numBits) :
    (unpackExponent bits).toNat = bits.toNat / 2 ^ 52 % 2 ^ 11 := by
  simp [unpackExponent, Nat.shiftRight_eq_div_pow]

theorem unpackMantissa_toNat (bits : BitVec Format.binary64.numBits) :
    (unpackMantissa bits).toNat = bits.toNat % 2 ^ 52 := by
  simp [unpackMantissa]

theorem unpackSign_toNat (bits : BitVec Format.binary64.numBits) :
    (unpackSign bits).toNat = bits.toNat / 2 ^ 63 := by
  have short : bits.toNat < 2 ^ 64 := bits.isLt
  simp [unpackSign, Nat.shiftRight_eq_div_pow]
  omega

theorem unpackSign_sign (bits : BitVec Format.binary64.numBits) :
    Sign.ofBitVec (unpackSign bits) = sign bits.toNat := by
  have short : bits.toNat < 2 ^ 64 := bits.isLt
  have plain : unpackSign bits = 0#1 ↔ bits.toNat < 2 ^ 63 := by
    rw [← BitVec.toNat_inj, unpackSign_toNat]
    simp
  unfold sign signBit Sign.ofBitVec
  simp only [plain]
  split <;> split <;> first | rfl | omega

def parts (bits : Nat) : UnpackedFloat :=
  if field bits = 2047 then if fraction bits = 0 then .infinity (sign bits) else .notANumber
  else if field bits = 0 then
    if h : fraction bits = 0 then .zero (sign bits)
    else .finite (sign bits) (fraction bits) (-1074) (Nat.pos_of_ne_zero h)
  else .finite (sign bits) (2 ^ 52 + fraction bits) (field bits - 1075) (by omega)

theorem unpack_parts (bits : BitVec Format.binary64.numBits) :
    UnpackedFloat.unpack Format.binary64 bits = parts bits.toNat := by
  have exponent : (unpackExponent bits).toNat = field bits.toNat := by
    rw [unpackExponent_toNat]
    unfold field signBit fractionSpan
    omega
  have mantissa : (unpackMantissa bits).toNat = fraction bits.toNat := by
    rw [unpackMantissa_toNat]
    unfold fraction signBit fractionSpan
    omega
  have full : unpackExponent bits = -1#11 ↔ field bits.toNat = 2047 := by
    rw [← BitVec.toNat_inj, exponent]
    rfl
  have none : unpackExponent bits = 0#11 ↔ field bits.toNat = 0 := by
    rw [← BitVec.toNat_inj, exponent]
    rfl
  have bare : unpackMantissa bits = 0#52 ↔ fraction bits.toNat = 0 := by
    rw [← BitVec.toNat_inj, mantissa]
    rfl
  have whole : (1#1 ++ unpackMantissa bits).toNat = 2 ^ 52 + fraction bits.toNat := by
    have short := (unpackMantissa bits).isLt
    rw [BitVec.toNat_append, ← mantissa, Nat.shiftLeft_eq, Nat.mul_comm,
      ← Nat.two_pow_add_eq_or_of_lt short]
    rfl
  unfold parts UnpackedFloat.unpack
  simp only [full, none, bare, unpackSign_sign, exponent, mantissa, whole]
  split
  · rfl
  · split
    · rename_i least
      simp only [least]
      rfl
    · rfl

def decoded (x : Float) : UnpackedFloat :=
  parts x.toBits.toNat

theorem unpack_eq (x : Float) : x.toModel.unpack = decoded x :=
  unpack_parts _

/-! The real number -/

def unit : Sign → ℝ
  | .negative => -1
  | .positive => 1

/-- The number that the parts stand for, zero if they are no finite number. -/
noncomputable def partsValue : UnpackedFloat → ℝ
  | .finite s m e _ => unit s * (m * 2 ^ e)
  | _ => 0

noncomputable def value (x : Float) : ℝ :=
  (exact x : ℝ)

/-- How far a result of size `v` may be off. -/
noncomputable def slack (v : ℝ) : ℝ :=
  |v| / 2 ^ 52 + 2 ^ (-1074 : ℤ)

/-- A finite double is off by no more than the slack, an infinity stands for a large number. -/
def Rounds (x : Float) (v : ℝ) : Prop :=
  isFinite x = true ∧ |value x - v| ≤ slack v ∨
    2 ^ 1023 ≤ v ∧ decoded x = .infinity .positive ∨
    v ≤ -2 ^ 1023 ∧ decoded x = .infinity .negative

theorem value_literal (x : Float) (v : ℚ) (written : exact x = v) : value x = v := by
  rw [value, written]

theorem value_zero : value 0.0 = 0 := by
  simpa using value_literal 0.0 0 rfl

theorem value_one : value 1.0 = 1 := by
  simpa using value_literal 1.0 1 rfl

theorem value_two : value 2.0 = 2 := by
  simpa using value_literal 2.0 2 rfl

theorem value_scientific (x : Float) :
    value x = unit (sign x.toBits.toNat) * ((scientific x).1 * 2 ^ (scientific x).2) := by
  have shifted (m : Nat) (e : Int) :
      mkRat (m <<< e.toNat : Nat) (1 <<< (-e).toNat) = m * (2 : ℚ) ^ e := by
    rw [Rat.mkRat_eq_div, Nat.shiftLeft_eq, Nat.shiftLeft_eq]
    rcases le_total 0 e with up | down
    · obtain ⟨k, rfl⟩ := Int.eq_ofNat_of_zero_le up
      simp
    · obtain ⟨k, rfl⟩ := Int.exists_eq_neg_ofNat down
      simp [div_eq_mul_inv]
  unfold value exact sign isNegative
  simp only [shifted, decide_eq_true_eq]
  split <;> simp [unit]

theorem decoded_isFinite (x : Float) : (decoded x).isFinite = isFinite x := by
  have top := field_le x.toBits.toNat
  have low := fraction_lt x.toBits.toNat
  have known : isFinite x = decide (field x.toBits.toNat ≠ 2047) := by
    simp only [isFinite, magnitudeBits, magnitude_eq, infinityBits, decide_eq_decide]
    omega
  rw [known]
  unfold decoded parts
  split_ifs with full bare least none <;> simp_all [UnpackedFloat.isFinite]

theorem isInfinite_iff (x : Float) : isInfinite x = true ↔ ∃ s, decoded x = .infinity s := by
  have low := fraction_lt x.toBits.toNat
  have known : isInfinite x = true ↔ field x.toBits.toNat = 2047 ∧ fraction x.toBits.toNat = 0 := by
    rw [isInfinite, beq_iff_eq, magnitudeBits, magnitude_eq, infinityBits]
    omega
  rw [known]
  unfold decoded parts
  split_ifs with full bare least none <;> simp_all

theorem value_eq (x : Float) (finite : isFinite x = true) : value x = partsValue (decoded x) := by
  have read : scientific x = if field x.toBits.toNat = 0 then (fraction x.toBits.toNat, -1074)
      else (2 ^ 52 + fraction x.toBits.toNat, (field x.toBits.toNat : Int) - 1075) := by
    show (if field x.toBits.toNat = 0 then (fraction x.toBits.toNat, minExponent)
      else (fraction x.toBits.toNat + fractionSpan, minExponent + field x.toBits.toNat - 1)) = _
    unfold minExponent fractionSpan
    split_ifs
    · rfl
    · congr 1 <;> omega
  rw [← decoded_isFinite] at finite
  rw [value_scientific, read]
  revert finite
  unfold decoded parts
  split_ifs with full bare least none <;> simp_all [partsValue, UnpackedFloat.isFinite]

end RationalCalc.Binary64
