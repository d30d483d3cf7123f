import RationalCalc.Proofs.Binary64.Value

/-!
Rounding, as far as the size estimates need it: the result of an operation on finite doubles is
within the 52nd binary digit of the exact result, or within the least positive double, unless the
exact result is so large that only an infinity is left. To which side a result goes is left open. A
significand and an exponent are canonical if no other pair with a significand of 53 bits stands for
the same number; then they survive being encoded, unless the number is too large.
-/

namespace RationalCalc.Binary64

open Float.Model Float.Model.UnpackedFloat

/-- Parts of a number that no other parts with a significand of at most 53 bits stand for. -/
def Canonical : UnpackedFloat → Prop
  | .finite _ m e _ => m < 2 ^ 53 ∧ -1074 ≤ e ∧ (2 ^ 52 ≤ m ∨ e = -1074)
  | .zero _ => True
  | _ => False

theorem parts_canonical (bits : Nat) (finite : (parts bits).isFinite = true) :
    Canonical (parts bits) := by
  have low := fraction_lt bits
  revert finite
  unfold parts
  split_ifs
  · exact fun finite => by cases finite
  · exact fun finite => by cases finite
  · exact fun _ => trivial
  · exact fun _ => ⟨by omega, le_rfl, .inr rfl⟩
  · exact fun _ => ⟨by omega, by omega, .inl (by omega)⟩

theorem decoded_canonical (x : Float) (finite : isFinite x = true) : Canonical (decoded x) :=
  parts_canonical _ (by rw [← finite]; exact decoded_isFinite x)

/-! Encoding -/

theorem unpackSign_packed (s : Sign) (exponent : BitVec 11) (mantissa : BitVec 52) :
    Sign.ofBitVec (@unpackSign Format.binary64 (packComponents .binary64 s exponent mantissa)) =
      s := by
  have exponentShort := exponent.isLt
  have mantissaShort := mantissa.isLt
  have bits : (packComponents .binary64 s exponent mantissa).toNat =
      s.toBitVec.toNat * 2 ^ 63 + exponent.toNat * 2 ^ 52 + mantissa.toNat := by
    simp only [packComponents, BitVec.toNat_append, Nat.shiftLeft_eq]
    rw [Nat.mul_comm s.toBitVec.toNat, ← Nat.two_pow_add_eq_or_of_lt exponentShort,
      Nat.mul_comm _ (2 ^ 52), ← Nat.two_pow_add_eq_or_of_lt mantissaShort]
    omega
  have top : (@unpackSign Format.binary64 (packComponents .binary64 s exponent mantissa)) =
      s.toBitVec := by
    rw [← BitVec.toNat_inj, unpackSign_toNat, bits]
    omega
  rw [top]
  cases s <;> rfl

def capped : UnpackedFloat → UnpackedFloat
  | .finite s m e positive => if 972 ≤ e then .infinity s else .finite s m e positive
  | parts => parts

theorem unpack_infinity (s : Sign) :
    UnpackedFloat.unpack Format.binary64 (packedInfinity .binary64 s) = .infinity s := by
  unfold UnpackedFloat.unpack packedInfinity
  simp only [unpackExponent_packComponents, unpackMantissa_packComponents, unpackSign_packed]
  rfl

theorem unpack_least (s : Sign) (mantissa : BitVec 52) (m : Nat) (same : mantissa.toNat = m)
    (positive : 0 < m) :
    UnpackedFloat.unpack Format.binary64 (packComponents .binary64 s 0#11 mantissa) =
      .finite s m (-1074) positive := by
  subst same
  have some : mantissa ≠ 0#52 := fun none => by simp [none] at positive
  unfold UnpackedFloat.unpack
  simp only [unpackExponent_packComponents, unpackMantissa_packComponents, unpackSign_packed]
  rw [if_neg (by decide), if_pos trivial, dif_neg some]
  rfl

theorem unpack_normal (s : Sign) (exponent : BitVec 11) (mantissa : BitVec 52) (m : Nat) (e : Int)
    (low : 0 < exponent.toNat) (high : exponent.toNat < 2047) (power : exponent.toNat - 1075 = e)
    (same : 2 ^ 52 + mantissa.toNat = m) (positive : 0 < m) :
    UnpackedFloat.unpack Format.binary64 (packComponents .binary64 s exponent mantissa) =
      .finite s m e positive := by
  have notFull : exponent ≠ -1#11 := fun full => by simp [full] at high
  have notLeast : exponent ≠ 0#11 := fun least => by simp [least] at low
  have whole : (1#1 ++ mantissa).toNat = m := by
    rw [BitVec.toNat_append, Nat.shiftLeft_eq, Nat.mul_comm,
      ← Nat.two_pow_add_eq_or_of_lt mantissa.isLt, ← same]
    rfl
  subst power
  unfold UnpackedFloat.unpack
  simp only [unpackExponent_packComponents, unpackMantissa_packComponents, unpackSign_packed,
    whole]
  rw [if_neg notFull, if_neg notLeast]
  rfl

theorem unpack_pack (parts : UnpackedFloat) (canonical : Canonical parts) :
    (Float.Model.pack parts).unpack = capped parts := by
  cases parts with
  | infinity s => cases canonical
  | notANumber => cases canonical
  | zero s => cases s <;> rfl
  | finite s m e positive =>
      obtain ⟨short, least, full⟩ := canonical
      have bits : UnpackedFloat.pack Format.binary64 (.finite s m e positive) =
          if 2 ^ 11 ≤ (e + 1023 + 52).toNat + 1 then packedInfinity .binary64 s
          else if m.log2 + 1 = 53 then
            packComponents .binary64 s (BitVec.ofNat 11 (e + 1023 + 52).toNat) (BitVec.ofNat 52 m)
          else packComponents .binary64 s 0#11 (BitVec.ofNat 52 m) := rfl
      show UnpackedFloat.unpack Format.binary64 (UnpackedFloat.pack Format.binary64 _) = _
      rw [bits, capped]
      -- too large to be encoded, with a full significand, or below all of those
      by_cases large : 972 ≤ e
      · rw [if_pos (by omega), if_pos large]
        exact unpack_infinity s
      · rw [if_neg (by omega), if_neg large]
        by_cases whole : 2 ^ 52 ≤ m
        · have length : m.log2 = 52 := by
            rw [Nat.log2_eq_iff positive.ne']
            omega
          rw [if_pos (by omega)]
          apply unpack_normal
          all_goals simp only [BitVec.toNat_ofNat]; omega
        · have length : m.log2 < 52 := by
            rw [Nat.log2_lt positive.ne']
            omega
          rw [if_neg (by omega), full.resolve_left whole]
          apply unpack_least
          rw [BitVec.toNat_ofNat]
          omega

/-! Rounding a significand -/

theorem shifted_mantissa (em : ExtendedMantissa) (shift : Nat) :
    (em >>> shift).mantissa = em.mantissa / 2 ^ shift := by
  show (shift.repeat ExtendedMantissa.shiftRightOne em).mantissa = _
  induction shift with
  | zero => simp [Nat.repeat]
  | succ shift ih =>
      show (shift.repeat ExtendedMantissa.shiftRightOne em).mantissa / 2 = _
      rw [ih, Nat.div_div_eq_div_mul, pow_succ]

theorem rounded_mantissa (em : ExtendedMantissa) :
    em.roundedMantissa = em.mantissa ∨ em.roundedMantissa = em.mantissa + 1 := by
  have half := Nat.mod_two_eq_zero_or_one em.mantissa
  unfold ExtendedMantissa.roundedMantissa Accuracy.roundToNearestEven
  split <;> omega

theorem ofMantissa_mantissa (m : Nat) (accuracy : Accuracy) :
    (ExtendedMantissa.ofMantissaAndAccuracy m accuracy).mantissa = m := by
  unfold ExtendedMantissa.ofMantissaAndAccuracy
  split <;> rfl

/-- A significand rounded up to 54 bits is a power of two, so that the second shift loses nothing. -/
theorem settled_parts (s : Sign) (r : Nat) (e : Int) (short : r ≤ 2 ^ 53) (least : -1074 ≤ e)
    (full : 2 ^ 52 ≤ r ∨ e = -1074) (shift : Nat)
    (again : shift = (max (r.log2 + 1 + e - 53) (-1074) - e).toNat) (parts : UnpackedFloat)
    (settled : parts = if h : r / 2 ^ shift = 0 then .zero s
      else .finite s (r / 2 ^ shift) (e + shift) (Nat.pos_of_ne_zero h)) :
    Canonical parts ∧ partsValue parts = unit s * (r * 2 ^ e) := by
  rcases short.lt_or_eq with below | power
  -- with 53 bits nothing is left to shift out
  · have none : shift = 0 := by
      have length : r.log2 ≤ 52 := by
        by_cases some : r = 0
        · simp [some]
        · have := (Nat.log2_lt some).mpr below
          omega
      omega
    subst none
    rw [settled]
    by_cases some : r = 0
    · subst some
      simp [Canonical, partsValue]
    · rw [dif_neg (by simpa using some)]
      simp only [pow_zero, Nat.div_one, Nat.cast_zero, add_zero]
      exact ⟨⟨below, least, full⟩, rfl⟩
  · have one : shift = 1 := by
      have length : r.log2 = 53 := by rw [power]; decide
      omega
    subst one power
    rw [settled]
    have twice : (2 : ℝ) ^ (e + 1) = 2 ^ e * 2 := zpow_add_one₀ two_ne_zero e
    refine ⟨⟨by norm_num, by omega, .inl (by norm_num)⟩, ?_⟩
    norm_num [partsValue, twice]
    exact .inl (by ring)

theorem rounded_parts (s : Sign) (m : Nat) (e : Int) (accuracy : Accuracy)
    (full : 2 ^ 52 ≤ m ∨ e ≤ -1074) :
    ∃ k r : Nat, (2 ^ 52 ≤ m / 2 ^ k ∨ e + k = -1074) ∧
      (r = m / 2 ^ k ∨ r = m / 2 ^ k + 1) ∧
      Canonical (roundWithAccuracy .binary64 s m e accuracy) ∧
      partsValue (roundWithAccuracy .binary64 s m e accuracy) = unit s * (r * 2 ^ (e + k)) := by
  obtain ⟨k, shift⟩ : ∃ k : Nat, k = (max (m.log2 + 1 + e - 53) (-1074) - e).toNat := ⟨_, rfl⟩
  have choice := rounded_mantissa (ExtendedMantissa.ofMantissaAndAccuracy m accuracy >>> k)
  rw [shifted_mantissa, ofMantissa_mantissa] at choice
  have long : 2 ^ 52 ≤ m → 52 ≤ m.log2 := fun whole => (Nat.le_log2 (by omega)).mpr whole
  have short : m / 2 ^ k < 2 ^ 53 := by
    rw [Nat.div_lt_iff_lt_mul (by positivity), ← pow_add]
    exact Nat.lt_log2_self.trans_le (Nat.pow_le_pow_right two_pos (by omega))
  -- the shift leaves 53 bits, or more where the least exponent needs it
  have settles : 2 ^ 52 ≤ m / 2 ^ k ∨ e + k = -1074 := by
    by_cases least : (m.log2 + 1 + e - 53 : Int) ≤ -1074
    · exact .inr (by omega)
    · left
      have some : m ≠ 0 := by
        rintro rfl
        simp at least full
        omega
      rw [Nat.le_div_iff_mul_le (by positivity), ← pow_add]
      exact (Nat.pow_le_pow_right two_pos (by omega)).trans (Nat.log2_self_le some)
  refine ⟨k, _, settles, choice, ?_⟩
  apply settled_parts s _ (e + k) (by omega) (by omega) (by omega) _ rfl
  unfold roundWithAccuracy
  simp only [shiftToTargetExponent, shiftToExponent, shifted_mantissa, ofMantissa_mantissa]
  subst shift
  rfl

/-! The error -/

theorem unit_mul_self (s : Sign) : unit s * unit s = 1 := by
  cases s <;> norm_num [unit]

theorem abs_unit_mul (s : Sign) (v : ℝ) : |unit s * v| = |v| := by
  cases s <;> simp [unit]

/-- Parts are near `w` times a power of two if their significand was cut off from `w`. -/
theorem roundWithAccuracy_near (s : Sign) (m : Nat) (e : Int) (accuracy : Accuracy)
    (full : 2 ^ 52 ≤ m ∨ e ≤ -1074) (w : ℝ) (low : m ≤ w) (high : w ≤ m + 1) :
    Canonical (roundWithAccuracy .binary64 s m e accuracy) ∧
      |partsValue (roundWithAccuracy .binary64 s m e accuracy) - unit s * (w * 2 ^ e)| ≤
        slack (w * 2 ^ e) := by
  obtain ⟨k, r, settles, choice, canonical, same⟩ := rounded_parts s m e accuracy full
  refine ⟨canonical, ?_⟩
  have positive : (0 : ℝ) < 2 ^ k := by positivity
  have ulp : (0 : ℝ) < 2 ^ (e + k) := by positivity
  have split : (2 : ℝ) ^ e = 2 ^ (e + k) / 2 ^ k := by
    rw [zpow_add₀ two_ne_zero, zpow_natCast]
    field_simp
  have floorLow : ((m / 2 ^ k : Nat) : ℝ) ≤ w / 2 ^ k := by
    rw [le_div_iff₀ positive]
    exact le_trans (by exact_mod_cast Nat.div_mul_le_self m (2 ^ k)) low
  have floorHigh : w / 2 ^ k ≤ (m / 2 ^ k : Nat) + 1 := by
    rw [div_le_iff₀ positive]
    refine high.trans ?_
    have := Nat.lt_div_mul_add (a := m) (b := 2 ^ k) (by positivity)
    have : m + 1 ≤ (m / 2 ^ k + 1) * 2 ^ k := by rw [add_mul, one_mul]; omega
    exact_mod_cast this
  have near : |(r : ℝ) - w / 2 ^ k| ≤ 1 := by
    rw [abs_le]
    rcases choice with rfl | rfl
    · constructor <;> linarith
    · push_cast
      constructor <;> linarith
  have nonneg : 0 ≤ w * (2 : ℝ) ^ e := mul_nonneg ((Nat.cast_nonneg m).trans low) (by positivity)
  have small : (2 : ℝ) ^ (e + k) ≤ slack (w * 2 ^ e) := by
    unfold slack
    rw [abs_of_nonneg nonneg]
    rcases settles with whole | least
    · have : (2 : ℝ) ^ 52 ≤ w / 2 ^ k := le_trans (by exact_mod_cast whole) floorLow
      have : (2 : ℝ) ^ 52 * 2 ^ (e + k) ≤ w * 2 ^ e := by
        rw [split]
        calc (2 : ℝ) ^ 52 * 2 ^ (e + k) ≤ w / 2 ^ k * 2 ^ (e + k) := by gcongr
          _ = w * (2 ^ (e + k) / 2 ^ k) := by ring
      have tiny : (0 : ℝ) < 2 ^ (-1074 : ℤ) := by positivity
      linarith
    · rw [least]
      have : 0 ≤ w * (2 : ℝ) ^ e / 2 ^ 52 := by positivity
      linarith
  calc |partsValue (roundWithAccuracy .binary64 s m e accuracy) - unit s * (w * 2 ^ e)|
      = |(r : ℝ) - w / 2 ^ k| * 2 ^ (e + k) := by
        rw [same, split, ← mul_sub, abs_unit_mul, ← abs_of_pos ulp, ← abs_mul, abs_of_pos ulp]
        congr 1
        ring
    _ ≤ 1 * 2 ^ (e + k) := by gcongr
    _ ≤ slack (w * 2 ^ e) := by rw [one_mul]; exact small

end RationalCalc.Binary64
