import RationalCalc.Binary64.LogGamma
import RationalCalc.Proofs.Binary64.Logarithm

/-!
How far the logarithm of the gamma function may be off from eight on. Only the leading term of the
asymptotic series counts; the rest, the error of the logarithm and the rounding stay below a fiftieth
of the argument.
-/

namespace RationalCalc.Binary64

open Float.Model Float.Model.UnpackedFloat

theorem asymptotic_near {x : Float} (finite : isFinite x = true) (above : 8 ≤ value x) :
    Near (4.18938533204672725052e-01 + 1.0 / x * polynomial [8.33333333333329678849e-02,
      -2.77777777728775536470e-03, 7.93650558643019558500e-04, -5.95187557450339963135e-04,
      8.36339918996282139126e-04, -1.63092934096575273989e-03] (1.0 / x * (1.0 / x)))
      (42 / 100) (13 / 1000) := by
  have positive : 0 < value x := by linarith
  have small : |1 / value x| ≤ 1 / 8 := by
    rw [abs_of_pos (by positivity)]
    gcongr
  have inverse : Near (1.0 / x) 0 (126 / 1000) := by
    have quotient : Near (1.0 / x) (1 / value x) (1 / 2 ^ 51) :=
      one_near.div (near_exact finite) 8 (1 / 8) 1 (by norm_num)
        (by rwa [abs_of_pos positive]) small (by norm_num) (by norm_num) (by norm_num)
    refine quotient.moved ?_
    rw [sub_zero]
    norm_num at small ⊢
    linarith
  generalize 1.0 / x = z at *
  have square : Near (z * z) 0 (16 / 1000) := by
    have product := inverse.mul inverse 0 0 1 (by simp) (by simp) (by norm_num) (by norm_num)
      (le_refl _)
    exact product.moved (by norm_num)
  have series := polynomial_near [8.33333333333329678849e-02, -2.77777777728775536470e-03,
      7.93650558643019558500e-04, -5.95187557450339963135e-04, 8.36339918996282139126e-04,
      -1.63092934096575273989e-03] (86 / 1000) (near_literals _ (84 / 1000) (by decide +kernel))
    square (by norm_num) (by norm_num) (by norm_num) (by norm_num)
  have scaled := inverse.mul series 0 0 1 (by simp) (by simp) (by norm_num) (by norm_num) (le_refl _)
  have constant := near_literal 4.18938533204672725052e-01 (42 / 100) (11 / 10000)
    (by decide +kernel)
  push_cast at constant
  have sum := constant.add scaled 1 (by norm_num) (by norm_num) (le_refl _)
  exact sum.moved (by norm_num)

theorem log_range {X : ℝ} (above : 8 ≤ X) (below : X ≤ 2 ^ 59) :
    2 ≤ Real.log X ∧ Real.log X ≤ 41 := by
  have low : 3 * Real.log 2 ≤ Real.log X := by
    rw [← Real.log_rpow two_pos]
    exact Real.log_le_log (by positivity) (by norm_num; exact above)
  have high : Real.log X ≤ 59 * Real.log 2 := by
    rw [← Real.log_rpow two_pos]
    exact Real.log_le_log (by linarith) (by norm_num at below ⊢; exact below)
  have := Real.log_two_gt_d9
  have := Real.log_two_lt_d9
  constructor <;> linarith

theorem fromEight_near {x : Float} (finite : isFinite x = true) (above : 8 ≤ value x)
    (below : value x ≤ 2 ^ 59) :
    Near (fromEight x) ((value x - 1 / 2) * (Real.log (value x) - 1) + 42 / 100)
      (183 / 10000 * value x + 14 / 1000) := by
  have series := asymptotic_near finite above
  have logarithm := ln_near finite (by linarith)
  obtain ⟨low, high⟩ := log_range above below
  have far : (2 : ℝ) ^ 59 * 100 ≤ 2 ^ 100 := by norm_num
  have exact := near_exact finite
  generalize value x = X at *
  generalize Real.log X = L at *
  have base : Near (x - 0.5) (X - 1 / 2) ((X + 1) / 2 ^ 52) :=
    exact.sub half_near X (by rw [abs_of_nonneg (by linarith)]; linarith) (by linarith) (by linarith)
  have factor : Near (ln x - 1.0) (L - 1) (181 / 10000) :=
    logarithm.sub one_near 41 (by rw [abs_of_nonneg (by linarith)]; linarith) (by norm_num)
      (by norm_num)
  have product : Near ((x - 0.5) * (ln x - 1.0)) ((X - 1 / 2) * (L - 1)) (182 / 10000 * X) :=
    base.mul factor X 40 (41 * X) (by rw [abs_of_nonneg (by linarith)]; linarith)
      (by rw [abs_of_nonneg (by linarith)]; linarith) (by linarith) (by linarith) (by linarith)
  have nonneg : 0 ≤ (X - 1 / 2) * (L - 1) := mul_nonneg (by linarith) (by linarith)
  have most : (X - 1 / 2) * (L - 1) ≤ X * 40 := by gcongr <;> linarith
  unfold fromEight
  exact product.add series (42 * X) (by rw [abs_of_nonneg (by linarith)]; linarith) (by linarith)
    (by linarith)

/-! Which of the formulas is taken -/

theorem lnGamma_cases {x : Float} (finite : isFinite x = true) (above : 8 ≤ value x) :
    lnGamma x = fromEight x ∧ value x < 2 ^ 58 ∨
      lnGamma x = x * (ln x - 1.0) ∧ 2 ^ 58 ≤ value x := by
  have eight : value 8.0 = 8 := by simpa using value_literal 8.0 8 rfl
  have known := decoded_isFinite x
  rw [finite] at known
  have same := value_eq x finite
  obtain ⟨positive, low, -, split⟩ := parts_above_one x.toBits.toNat known
    (by rw [← decoded, ← same]; linarith)
  rw [decoded, split] at same
  have bits : magnitudeBits x = field x.toBits.toNat * 2 ^ 52 + fraction x.toBits.toNat :=
    magnitude_eq _
  have short := fraction_lt x.toBits.toNat
  have notNegative : ¬isNegative x = true := by
    intro negative
    have turned : sign x.toBits.toNat = .negative := if_pos (by simpa [isNegative] using negative)
    rw [positive] at turned
    cases turned
  have notSmall : ¬highWord x < 0x3b900000 := by
    rw [highWord, bits, highUnit]
    omega
  have notRoot : ¬(x == 1.0 || x == 2.0) = true := by
    rw [Bool.or_eq_true, beq_iff finite rfl, beq_iff finite rfl, value_one, value_two]
    rintro (equal | equal) <;> linarith
  have notTwo : ¬x < 2.0 := by
    rw [lt_iff finite rfl, value_two]
    linarith
  have notEight : ¬x < 8.0 := by
    rw [lt_iff finite rfl, eight]
    linarith
  unfold lnGamma lnGammaPositive
  rw [if_neg (by rw [finite]; decide), if_neg notSmall, if_neg notNegative, if_neg notRoot,
    if_neg notTwo, if_neg notEight]
  -- the threshold in the encoding is two to the power of 58
  by_cases moderate : highWord x < 0x43900000
  · left
    rw [if_pos moderate]
    refine ⟨rfl, ?_⟩
    rw [highWord, bits, highUnit] at moderate
    have narrow : (fraction x.toBits.toNat : ℝ) < 2 ^ 52 := by exact_mod_cast short
    have power : (2 : ℝ) ^ ((field x.toBits.toNat : ℤ) - 1075) ≤ 2 ^ (5 : ℤ) :=
      zpow_le_zpow_right₀ one_le_two (by omega)
    rw [same]
    calc (2 ^ 52 + fraction x.toBits.toNat : ℝ) * 2 ^ ((field x.toBits.toNat : ℤ) - 1075)
        < 2 ^ 53 * 2 ^ ((field x.toBits.toNat : ℤ) - 1075) := by
          gcongr
          linarith
      _ ≤ 2 ^ 53 * 2 ^ (5 : ℤ) := by gcongr
      _ = 2 ^ 58 := by norm_num
  · right
    rw [if_neg moderate]
    refine ⟨rfl, ?_⟩
    rw [highWord, bits, highUnit] at moderate
    have power : (2 : ℝ) ^ (6 : ℤ) ≤ 2 ^ ((field x.toBits.toNat : ℤ) - 1075) :=
      zpow_le_zpow_right₀ one_le_two (by omega)
    rw [same]
    calc (2 : ℝ) ^ 58 = 2 ^ 52 * (2 : ℝ) ^ (6 : ℤ) := by norm_num
      _ ≤ (2 ^ 52 + fraction x.toBits.toNat : ℝ) * 2 ^ ((field x.toBits.toNat : ℤ) - 1075) := by
        gcongr
        exact le_add_of_nonneg_right (Nat.cast_nonneg _)

/-! From below -/

theorem lnGamma_atLeast {x : Float} (known : AtLeast x 3000) : AtLeast (lnGamma x) 20000 := by
  rcases atLeast_cases known with ⟨finite, above⟩ | infinite
  · have logarithm := ln_near finite (by linarith)
    have eight : 8 ≤ Real.log (value x) := by
      rw [Real.le_log_iff_exp_le (by linarith)]
      have power : Real.exp 8 = Real.exp 1 ^ 8 := by
        rw [← Real.exp_nat_mul]
        norm_num
      have base : Real.exp 1 ^ 8 ≤ 2.7182818286 ^ 8 := by
        gcongr
        exact Real.exp_one_lt_d9.le
      norm_num at base
      linarith
    rcases lnGamma_cases finite (by linarith) with ⟨same, below⟩ | ⟨same, -⟩
    · rw [same]
      apply (fromEight_near finite (by linarith) (by linarith)).atLeast
      nlinarith
    · rw [same]
      have factor : AtLeast (ln x - 1.0) (69 / 10) := by
        have low := (abs_le.mp logarithm.2).1
        have difference : 695 / 100 ≤ value (ln x) - value 1.0 := by
          rw [value_one]
          linarith
        exact atLeast_of_rounds (sub_rounds logarithm.1 one_near.1) difference (by norm_num)
          (by norm_num)
      exact known.mul factor (by norm_num) (by norm_num) (by norm_num)
  · have notFinite : isFinite x = false := by
      rw [← decoded_isFinite, infinite]
      rfl
    unfold lnGamma
    rw [if_pos (by rw [notFinite]; rfl)]
    exact known.mul known (by norm_num) (by norm_num) (by norm_num)

/-! Factorials -/

/-- The leading term of the logarithm of a factorial, and of the entropy of a choice. -/
noncomputable def leading (m : ℝ) : ℝ :=
  m * Real.log m - m

theorem leading_near {m X : ℝ} (above : 3000 ≤ m) (below : m ≤ 2 ^ 53) (close : |X - (m + 1)| ≤ 5) :
    |(X - 1 / 2) * (Real.log X - 1) - leading m| ≤ 280 := by
  obtain ⟨low, high⟩ := abs_le.mp close
  have mPositive : 0 < m := by linarith
  have positive : 0 < X := by linarith
  have far : (2 : ℝ) ^ 53 + 6 ≤ 2 ^ 59 := by norm_num
  have range := log_range (show 8 ≤ X by linarith) (by linarith)
  have more : m * (Real.log X - Real.log m) ≤ 6 := by
    have ratio := Real.log_le_sub_one_of_pos (div_pos positive mPositive)
    rw [Real.log_div positive.ne' mPositive.ne'] at ratio
    calc m * (Real.log X - Real.log m) ≤ m * (X / m - 1) := by gcongr
      _ = X - m := by field_simp
      _ ≤ 6 := by linarith
  have less : m * (Real.log m - Real.log X) ≤ 7 := by
    have ratio := Real.log_le_sub_one_of_pos (div_pos mPositive positive)
    rw [Real.log_div mPositive.ne' positive.ne'] at ratio
    calc m * (Real.log m - Real.log X) ≤ m * (m / X - 1) := by gcongr
      _ = m * (m - X) / X := by field_simp
      _ ≤ 7 := by
        rw [div_le_iff₀ positive]
        nlinarith
  have split : (X - 1 / 2) * (Real.log X - 1) - leading m =
      (X - 1 / 2 - m) * (Real.log X - 1) + m * (Real.log X - Real.log m) := by
    unfold leading
    ring
  have small : |(X - 1 / 2 - m) * (Real.log X - 1)| ≤ 6 * 40 := by
    rw [abs_mul]
    gcongr
    · rw [abs_le]
      constructor <;> linarith
    · rw [abs_le]
      constructor <;> linarith
  rw [split, abs_le]
  rw [abs_le] at small
  constructor <;> linarith

theorem lnGamma_near {x : Float} {m : ℝ} (finite : isFinite x = true) (above : 3000 ≤ m)
    (below : m ≤ 2 ^ 53) (close : |value x - (m + 1)| ≤ 5) :
    Near (lnGamma x) (leading m) (37 / 2000 * m + 300) := by
  obtain ⟨low, high⟩ := abs_le.mp close
  have far : (2 : ℝ) ^ 53 + 6 < 2 ^ 58 := by norm_num
  have wider : (2 : ℝ) ^ 58 ≤ 2 ^ 59 := by norm_num
  rcases lnGamma_cases finite (by linarith) with ⟨same, small⟩ | ⟨-, large⟩
  · rw [same]
    refine (fromEight_near finite (by linarith) (by linarith)).moved ?_
    have main := leading_near above below close
    rw [abs_le] at main
    have shifted : |(value x - 1 / 2) * (Real.log (value x) - 1) + 42 / 100 - leading m| ≤ 281 := by
      rw [abs_le]
      constructor <;> linarith
    linarith
  · linarith

end RationalCalc.Binary64
