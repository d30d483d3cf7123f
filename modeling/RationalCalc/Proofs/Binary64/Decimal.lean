import RationalCalc.Proofs.Binary64.Logarithm

/-!
The decimal logarithm. What the machine's function returns is not computed here; it is only known to
be close to the logarithm, as libraries document it, and the special cases in front of it are settled.
-/

namespace RationalCalc.Binary64

open Float.Model Float.Model.UnpackedFloat

/-- The machine's function is off by no more than a few units of the last place. -/
def DecimalLogarithm (machine : Float → Float) : Prop :=
  ∀ x : Float, isFinite x = true → 0 < value x →
    Near (machine x) (Real.logb 10 (value x)) (4 * slack (1 + |Real.logb 10 (value x)|))

variable {machine : Float → Float} {x : Float} {t r : ℝ}

theorem log10_finite (finite : isFinite x = true) (above : 1 < value x) :
    log10 x machine = machine x := by
  obtain ⟨nan, isZero, negative, infinite, isOne⟩ := ordinary finite above
  unfold log10
  rw [if_neg nan, if_neg isZero, if_neg negative, if_neg infinite, if_neg isOne]

theorem log10_infinite (infinite : decoded x = .infinity .positive) : log10 x machine = x := by
  have zero : decoded 0.0 = .zero .positive := by
    have bits : (0.0 : Float).toBits.toNat = 0 := rfl
    rw [decoded, bits, zero_parts]
  have nan : ¬x.isNaN = true := by
    rw [isNaN_iff, infinite]
    rintro ⟨⟩
  have isZero : ¬(x == 0.0) = true := by
    rw [beq_iff_compare, infinite, zero]
    rintro ⟨⟩
  have negative : ¬x < 0.0 := by
    rw [lt_iff_compare, infinite, zero]
    rintro ⟨⟩
  have top : isInfinite x = true := by
    have bits : magnitudeBits x = field x.toBits.toNat * 2 ^ 52 + fraction x.toBits.toNat :=
      magnitude_eq _
    unfold decoded parts at infinite
    split_ifs at infinite with full bare
    rw [isInfinite, bits, full, bare]
    rfl
  unfold log10
  rw [if_neg nan, if_neg isZero, if_neg negative, if_pos top]

theorem log10_atLeast (accurate : DecimalLogarithm machine) (known : AtLeast x t) (above : 1 < t)
    (fits : r + (2 + Real.logb 10 t) / 2 ^ 50 ≤ Real.logb 10 t) :
    AtLeast (log10 x machine) r := by
  rcases atLeast_cases known with ⟨finite, low⟩ | infinite
  · rw [log10_finite finite (above.trans_le low)]
    refine (accurate x finite (by linarith)).atLeast ?_
    have positive : 0 < Real.logb 10 t := Real.logb_pos (by norm_num) above
    have monotone : Real.logb 10 t ≤ Real.logb 10 (value x) :=
      Real.logb_le_logb_of_le (by norm_num) (by linarith) low
    have size := slack_le (v := 1 + |Real.logb 10 (value x)|) (le_of_eq (abs_of_pos (by positivity)))
    rw [abs_of_pos (positive.trans_le monotone)] at size ⊢
    linarith
  · rw [log10_infinite infinite]
    exact infinite_atLeast infinite r

/-! A function that is close -/

theorem finite_range (finite : isFinite x = true) (positive : 0 < value x) :
    (2 : ℝ) ^ (-1074 : ℤ) ≤ value x ∧ value x ≤ 2 ^ (1024 : ℤ) := by
  have low := fraction_lt x.toBits.toNat
  have top := field_le x.toBits.toNat
  have known := decoded_isFinite x
  rw [finite] at known
  have bound (s : Sign) (m : Nat) (e : Int) (some : 1 ≤ m) (short : m ≤ 2 ^ 53) (least : -1074 ≤ e)
      (most : e ≤ 971) (above : 0 < unit s * (m * 2 ^ e : ℝ)) :
      (2 : ℝ) ^ (-1074 : ℤ) ≤ unit s * (m * 2 ^ e) ∧ unit s * (m * 2 ^ e) ≤ (2 : ℝ) ^ (1024 : ℤ) := by
    have someReal : (1 : ℝ) ≤ m := by exact_mod_cast some
    have shortReal : (m : ℝ) ≤ 2 ^ (53 : ℤ) := by exact_mod_cast short
    have size : unit s * (m * 2 ^ e : ℝ) = m * 2 ^ e := by
      rw [← abs_of_pos above, abs_unit_mul, abs_of_nonneg (by positivity)]
    rw [size]
    constructor
    · calc (2 : ℝ) ^ (-1074 : ℤ) ≤ 2 ^ e := zpow_le_zpow_right₀ one_le_two least
        _ ≤ m * 2 ^ e := le_mul_of_one_le_left (by positivity) someReal
    · calc (m : ℝ) * 2 ^ e ≤ 2 ^ (53 : ℤ) * 2 ^ (971 : ℤ) := by
            gcongr
            exact one_le_two
        _ = 2 ^ (1024 : ℤ) := by rw [← zpow_add₀ two_ne_zero]; norm_num
  rw [value_eq x finite] at positive ⊢
  revert positive
  revert known
  unfold decoded parts
  split_ifs with full bare least none
  · exact fun known => by cases known
  · exact fun known => by cases known
  · exact fun _ positive => absurd positive (lt_irrefl _)
  · exact fun _ => bound _ _ _ (Nat.pos_of_ne_zero none) (by omega) le_rfl (by omega)
  · exact fun _ => bound _ _ _ (by omega) (by omega) (by omega) (by omega)

theorem logb_range (finite : isFinite x = true) (positive : 0 < value x) :
    |Real.logb 10 (value x)| ≤ 1074 := by
  obtain ⟨low, high⟩ := finite_range finite positive
  have two : 0 ≤ Real.logb 10 2 ∧ Real.logb 10 2 ≤ 1 := by
    constructor
    · exact Real.logb_nonneg (by norm_num) (by norm_num)
    · rw [Real.logb_le_iff_le_rpow (by norm_num) (by norm_num)]
      norm_num
  have below : ((-1074 : ℤ) : ℝ) * Real.logb 10 2 ≤ Real.logb 10 (value x) := by
    rw [← Real.logb_rpow_eq_mul_logb_of_pos two_pos, Real.rpow_intCast]
    exact Real.logb_le_logb_of_le (by norm_num) (by positivity) low
  have above : Real.logb 10 (value x) ≤ ((1024 : ℤ) : ℝ) * Real.logb 10 2 := by
    rw [← Real.logb_rpow_eq_mul_logb_of_pos two_pos, Real.rpow_intCast]
    exact Real.logb_le_logb_of_le (by norm_num) positive high
  push_cast at below above
  rw [abs_le]
  constructor <;> linarith

/-- The double nearest to a rational that is close to the logarithm. -/
noncomputable def roundedLog10 (x : Float) : Float :=
  nearest (exists_rat_near (Real.logb 10 (value x)) (slack_pos 1)).choose

theorem roundedLog10_accurate : DecimalLogarithm roundedLog10 := by
  intro x finite positive
  have close := (exists_rat_near (Real.logb 10 (value x)) (slack_pos 1)).choose_spec
  have size := logb_range finite positive
  have nonneg := abs_nonneg (Real.logb 10 (value x))
  have one : slack 1 ≤ (1 + 1) / 2 ^ 52 := slack_le (abs_one (α := ℝ)).le
  have most := le_slack (1 + |Real.logb 10 (value x)|)
  rw [abs_of_pos (by linarith)] at most
  rw [abs_sub_comm] at close
  norm_num at one most
  refine near_of_rounds (nearest_rounds _) close.le (le_refl _) ?_ ?_
  · norm_num
    linarith
  · norm_num
    linarith

end RationalCalc.Binary64
