import RationalCalc.Arithmetic.Counting
import RationalCalc.Arithmetic.Power
import RationalCalc.Proofs.Estimates

/-!
What is admitted is not astronomically large. A result of more than twice the digits of its limit is
refused before any factor is multiplied, with one exception: combinations of more things than doubles
tell apart, where about a half of them is chosen.
-/

namespace RationalCalc.Arithmetic

open Binary64 Nat

variable {machine : Float → Float} {estimate : Float} {t : ℝ} {n r c : Nat} {limits : Limits}

theorem admitted_refused (known : AtLeast estimate 8100) (factors : Int) :
    admitted estimate factors .standard = .error .tooBig := by
  have limit : value Limits.standard.countingDigits = 8000 := by
    simpa using value_literal Limits.standard.countingDigits 8000 rfl
  unfold admitted
  rw [if_pos (Estimate.exceeds_of_atLeast rfl known (by rw [limit]; norm_num))]

theorem measured_refused {α : Type} {rest : Float → Except Fault α} (n : Int)
    (refused : isFinite (nearestInt n) = true → rest (nearestInt n) = .error .tooBig) :
    (measured n >>= rest) = .error .tooBig := by
  unfold measured
  by_cases finite : isFinite (nearestInt n) = true
  · rw [if_pos finite]
    exact refused finite
  · rw [if_neg finite]
    rfl

theorem isInteger_natCast (n : Nat) : isInteger (n : ℚ) = true := by
  simp [isInteger]

theorem factorial_refused (large : Counting.bound ≤ n !) :
    factorial n .standard = .error .tooBig := by
  have many : 3000 < n := by
    by_contra few
    exact absurd large (not_le.mpr (Counting.factorial_small (by omega)))
  have valid : ¬((n : ℚ).num < 0) := by simp
  unfold factorial
  rw [isInteger_natCast]
  simp only [Bool.not_true, Bool.false_eq_true, if_false, if_neg valid]
  refine measured_refused _ fun _ => ?_
  rw [Rat.num_natCast]
  rw [admitted_refused (Estimate.factorialDigits_atLeast many)]
  rfl

theorem operands_valid (ordered : r ≤ n) : (decide ((n : ℚ).num < 0) ||
    decide ((r : ℚ).num < 0) || decide ((n : ℚ).num < (r : ℚ).num)) = false := by
  rw [Rat.num_natCast, Rat.num_natCast]
  simp only [Bool.or_eq_false_iff, decide_eq_false_iff_not]
  omega

theorem arrangements_refused (accurate : DecimalLogarithm machine) (ordered : r ≤ n)
    (large : Counting.bound ≤ n.descFactorial r) :
    arrangements n r .standard machine = .error .tooBig := by
  unfold arrangements
  rw [isInteger_natCast, isInteger_natCast, operands_valid ordered]
  simp only [Bool.not_true, Bool.or_self, Bool.false_eq_true, if_false]
  refine measured_refused _ fun finite => measured_refused _ fun finite' => ?_
  rw [Rat.num_natCast, Rat.num_natCast] at *
  rw [admitted_refused (Estimate.arrangementDigits_atLeast accurate finite finite' ordered large)]
  rfl

theorem combinations_refused (accurate : DecimalLogarithm machine) (ordered : r ≤ n)
    (covered : n < 2 ^ 53 ∨ 3 * min r (n - r) ≤ n) (large : Counting.bound ≤ n.choose r) :
    combinations n r .standard machine = .error .tooBig := by
  obtain ⟨c, rfl⟩ := Nat.exists_eq_add_of_le ordered
  have complement : ((r + c : Nat) : ℚ).num - (r : ℚ).num = (c : Int) := by
    rw [Rat.num_natCast, Rat.num_natCast]
    omega
  rw [Nat.add_sub_cancel_left] at covered
  unfold combinations
  rw [isInteger_natCast, isInteger_natCast, operands_valid ordered, complement]
  simp only [Bool.not_true, Bool.or_self, Bool.false_eq_true, if_false]
  refine measured_refused _ fun finite => measured_refused _ fun finite' =>
    measured_refused _ fun finite'' => ?_
  rw [Rat.num_natCast] at finite finite'
  rw [Rat.num_natCast, Rat.num_natCast, admitted_refused
    (Estimate.combinationDigits_atLeast accurate finite finite' finite'' large covered)]
  rfl

/-! Powers -/

theorem zpow_parts_le (base : ℚ) (exponent : Int) (some : base ≠ 0) :
    (base ^ exponent).num.natAbs ≤ max base.num.natAbs base.den ^ exponent.natAbs ∧
      (base ^ exponent).den ≤ max base.num.natAbs base.den ^ exponent.natAbs := by
  have parts (k : Nat) : (base ^ k).num.natAbs ≤ max base.num.natAbs base.den ^ k ∧
      (base ^ k).den ≤ max base.num.natAbs base.den ^ k := by
    rw [Rat.num_pow, Rat.den_pow, Int.natAbs_pow]
    exact ⟨Nat.pow_le_pow_left (le_max_left _ _) k, Nat.pow_le_pow_left (le_max_right _ _) k⟩
  rcases Int.eq_nat_or_neg exponent with ⟨k, rfl | rfl⟩
  · rw [zpow_natCast, Int.natAbs_natCast]
    exact parts k
  · rw [zpow_neg, zpow_natCast, Int.natAbs_neg, Int.natAbs_natCast]
    have nonzero : (base ^ k).num ≠ 0 := Rat.num_ne_zero.mpr (pow_ne_zero k some)
    rw [Rat.num_inv, Rat.den_inv, if_neg nonzero, Int.natAbs_mul,
      Int.natAbs_sign_of_ne_zero nonzero, one_mul, Int.natAbs_natCast]
    exact (parts k).symm

theorem exactPower_refused (accurate : DecimalLogarithm machine) {base : ℚ} {exponent : Int}
    (plain : base ≠ 0 ∧ base ≠ 1 ∧ base ≠ -1)
    (large : 10 ^ 6000 ≤ max base.num.natAbs base.den ^ exponent.natAbs) :
    exactPower base exponent .standard machine = .error .tooBig := by
  obtain ⟨nonzero, notOne, notMinus⟩ := plain
  -- only zero and the two units have neither a numerator nor a denominator above one
  have some : 2 ≤ max base.num.natAbs base.den := by
    by_contra small
    have den := base.den_pos
    have whole : base.den = 1 := by omega
    have num : base.num ≠ 0 := Rat.num_ne_zero.mpr nonzero
    rcases Int.natAbs_eq_iff.mp (show base.num.natAbs = 1 by omega) with one | minus
    · exact notOne (Rat.ext one whole)
    · exact notMinus (Rat.ext minus whole)
  have limit : value Limits.standard.powerDigits = 3000 := by
    simpa using value_literal Limits.standard.powerDigits 3000 rfl
  have exceeding : Estimate.exceeds (Estimate.powerDigits base exponent machine)
      Limits.standard.powerDigits = true :=
    Estimate.exceeds_of_atLeast rfl
      (Estimate.powerDigits_atLeast accurate some large) (by rw [limit]; norm_num)
  unfold exactPower
  simp only [nonzero, notOne, notMinus, decide_false, Bool.or_self, Bool.false_eq_true, if_false,
    if_pos exceeding]

theorem exactPower_bounded (accurate : DecimalLogarithm machine) {base : ℚ} {exponent : Int}
    (accepted : exactPower base exponent .standard machine ≠ .error .tooBig) :
    (base ^ exponent).num.natAbs < 10 ^ 6000 ∧ (base ^ exponent).den < 10 ^ 6000 := by
  have one : 1 < 10 ^ 6000 := Counting.one_lt_ten_pow 6000 (by norm_num)
  by_cases zero : base = 0
  · subst zero
    by_cases none : exponent = 0
    · subst none
      exact ⟨one, one⟩
    · rw [zero_zpow exponent none]
      exact ⟨one.trans' Nat.zero_lt_one, one⟩
  · obtain ⟨num, den⟩ := zpow_parts_le base exponent zero
    suffices small : max base.num.natAbs base.den ^ exponent.natAbs < 10 ^ 6000 from
      ⟨num.trans_lt small, den.trans_lt small⟩
    by_contra large
    refine accepted (exactPower_refused accurate ⟨zero, ?_, ?_⟩ (not_lt.mp large))
    · rintro rfl
      exact large (by rwa [show max (1 : ℚ).num.natAbs (1 : ℚ).den = 1 from rfl, one_pow])
    · rintro rfl
      exact large (by rwa [show max (-1 : ℚ).num.natAbs (-1 : ℚ).den = 1 from rfl, one_pow])

/-! All guards -/

theorem accepted_of_toBool {α : Type} {result : Except Fault α} (computed : result.toBool = true) :
    result ≠ .error .tooBig := by
  rintro rfl
  cases computed

/-- The logarithm of two need not be computed to see that its tenth power is admitted. -/
theorem exactPower_two_accepted (accurate : DecimalLogarithm machine) :
    exactPower 2 10 .standard machine ≠ .error .tooBig := by
  have two : value (nearestInt 2).abs = 2 := by
    simpa using value_literal (nearestInt 2).abs 2 rfl
  have limit : value Limits.standard.powerDigits = 3000 := by
    simpa using value_literal Limits.standard.powerDigits 3000 rfl
  have finite : isFinite (nearestInt 2).abs = true := rfl
  obtain ⟨low, high⟩ := Estimate.logb_two_range
  have size : |Real.logb 10 2| ≤ 1 := by
    rw [abs_le]
    constructor <;> linarith
  have digits : Near (Estimate.log10Abs 2 machine) (Real.logb 10 2) (1 / 10) := by
    have close := accurate _ finite (by rw [two]; norm_num)
    have plain : isFinite (nearestInt 2) = true := rfl
    have same : log10 (nearestInt 2).abs machine = machine (nearestInt 2).abs :=
      log10_finite finite (by rw [two]; norm_num)
    have loss := slack_le (v := 1 + |Real.logb 10 2|) (abs_of_pos (by positivity)).le
    rw [← same, two] at close
    unfold Estimate.log10Abs
    simp only [plain, if_true]
    refine close.moved ?_
    rw [sub_self, abs_zero]
    linarith
  have positive : 0 ≤ value (Estimate.log10Abs 2 machine) := by
    linarith [(abs_le.mp digits.2).1]
  have ten : Near (nearestInt 10) 10 0 := by
    have exact : value (nearestInt 10) = 10 := by simpa using value_literal (nearestInt 10) 10 rfl
    rw [← exact]
    exact near_exact rfl
  have estimate : Near (Estimate.powerDigits 2 10 machine) (Real.logb 10 2 * 10) 2 := by
    show Near (larger (Estimate.log10Abs 2 machine) 0.0 * nearestInt 10) _ _
    rw [larger_eq_left digits.1 rfl (by rwa [value_zero])]
    exact digits.mul ten 1 10 20 size (by norm_num) (by norm_num) (by norm_num) (by norm_num)
  have within : ¬Estimate.exceeds (Estimate.powerDigits 2 10 machine)
      Limits.standard.powerDigits = true := by
    have range := abs_le.mp estimate.2
    rw [Estimate.exceeds, isNaN_of_isFinite estimate.1, Bool.false_or, decide_eq_true_iff,
      lt_iff rfl estimate.1, limit]
    linarith
  unfold exactPower
  rw [if_neg (by decide), if_neg (by decide), if_neg within, if_neg (by decide)]
  rintro ⟨⟩

/-- With an accurate decimal logarithm, what is admitted has no more than twice the digits that are
allowed, but for combinations of about a half of very many things, and those always have more. -/
theorem admitted_digits (accurate : DecimalLogarithm machine) :
    (∀ n : Nat, factorial n .standard ≠ .error .tooBig → (digits 10 n !).length ≤ 16000) ∧
      (∀ n r : Nat, r ≤ n → arrangements n r .standard machine ≠ .error .tooBig →
        (digits 10 (n ! / (n - r)!)).length ≤ 16000) ∧
      (∀ n r : Nat, r ≤ n → combinations n r .standard machine ≠ .error .tooBig →
        ((digits 10 (n.choose r)).length ≤ 16000 ↔ n < 2 ^ 53 ∨ 3 * min r (n - r) ≤ n)) ∧
      ∀ (base : ℚ) (exponent : Int), exactPower base exponent .standard machine ≠ .error .tooBig →
        (digits 10 (base ^ exponent).num.natAbs).length ≤ 6000 ∧
          (digits 10 (base ^ exponent).den).length ≤ 6000 := by
  have short (value : Nat) (digits : Nat) :
      (Nat.digits 10 value).length ≤ digits ↔ value < 10 ^ digits :=
    Nat.digits_length_le_iff (by norm_num) value
  refine ⟨?_, ?_, ?_, ?_⟩
  · intro n accepted
    rw [short]
    by_contra large
    exact accepted (factorial_refused (not_lt.mp large))
  · intro n r ordered accepted
    rw [short, ← Nat.descFactorial_eq_div ordered]
    by_contra large
    exact accepted (arrangements_refused accurate ordered (not_lt.mp large))
  · intro n r ordered accepted
    rw [short]
    constructor
    -- outside, at least a third of more than 2 ^ 53 things is chosen
    · intro small
      obtain ⟨c, rfl⟩ := Nat.exists_eq_add_of_le ordered
      rw [Nat.add_sub_cancel_left]
      by_contra uncovered
      have huge := Counting.choose_huge (show 2 * min r c ≤ r + c by omega) (by omega)
      rw [Counting.choose_min] at huge
      exact huge.not_gt small
    · intro covered
      by_contra large
      exact accepted (combinations_refused accurate ordered covered (not_lt.mp large))
  · intro base exponent accepted
    rw [short, short]
    exact exactPower_bounded accurate accepted

/-- Half of twenty quadrillion things are chosen without an objection. -/
theorem admitted_digits_half :
    DecimalLogarithm roundedLog10 ∧
      (factorial (20 : Nat) .standard ≠ .error .tooBig ∧ (digits 10 20 !).length ≤ 16000) ∧
      (arrangements (5 : Nat) (5 : Nat) .standard roundedLog10 ≠ .error .tooBig ∧
        (digits 10 (5 ! / (5 - 5)!)).length ≤ 16000) ∧
      (combinations (20000000000000000 : Nat) (10000000000000000 : Nat) .standard roundedLog10 ≠
          .error .tooBig ∧
        ¬(digits 10 (choose 20000000000000000 10000000000000000)).length ≤ 16000) ∧
      exactPower 2 10 .standard roundedLog10 ≠ .error .tooBig ∧
        (digits 10 ((2 : ℚ) ^ (10 : Int)).num.natAbs).length ≤ 6000 ∧
          (digits 10 ((2 : ℚ) ^ (10 : Int)).den).length ≤ 6000 := by
  have product : factorial (20 : Nat) .standard ≠ .error .tooBig :=
    accepted_of_toBool (by decide +kernel)
  have arranged : arrangements (5 : Nat) (5 : Nat) .standard roundedLog10 ≠ .error .tooBig :=
    accepted_of_toBool (by decide +kernel)
  have chosen : combinations (20000000000000000 : Nat) (10000000000000000 : Nat) .standard
      roundedLog10 ≠ .error .tooBig :=
    accepted_of_toBool (by decide +kernel)
  have raised := exactPower_two_accepted roundedLog10_accurate
  obtain ⟨factorials, ofArrangements, ofChoices, powers⟩ := admitted_digits roundedLog10_accurate
  refine ⟨roundedLog10_accurate, ⟨product, factorials _ product⟩,
    ⟨arranged, ofArrangements _ _ le_rfl arranged⟩, ⟨chosen, ?_⟩, raised, powers _ _ raised⟩
  rw [ofChoices _ _ (by norm_num) chosen]
  norm_num

end RationalCalc.Arithmetic
