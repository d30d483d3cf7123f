import RationalCalc.Estimate
import RationalCalc.Proofs.Binary64.Decimal
import RationalCalc.Proofs.Binary64.LogGamma
import RationalCalc.Proofs.Counting

/-!
Estimates of results that are far too large. Each is shown to be at least a number well above its
limit, whichever formula it takes and however it is rounded, except where both formulas fail.
-/

namespace RationalCalc.Estimate

open Binary64 Nat

variable {machine : Float → Float} {x z : Float} {n r c k : Nat} {t y : ℝ}

/-! Operands -/

def Counts (x : Float) (n : Nat) : Prop :=
  isFinite x = true ∧ |value x - n| ≤ slack n

theorem nearestInt_counts (finite : isFinite (nearestInt n) = true) : Counts (nearestInt n) n := by
  have near := (nearestInt_rounds n).near finite
  rw [Int.cast_natCast] at near
  exact ⟨finite, near⟩

theorem slack_natCast (n : Nat) : slack n = n / 2 ^ 52 + 2 ^ (-1074 : ℤ) := by
  rw [slack, Nat.abs_cast]

theorem tiny_le : (2 : ℝ) ^ (-1074 : ℤ) ≤ 2 ^ (-52 : ℤ) :=
  zpow_le_zpow_right₀ one_le_two (by norm_num)

theorem Counts.range (counts : Counts x n) (some : 0 < n) :
    999 / 1000 * n ≤ value x ∧ value x ≤ 1001 / 1000 * n := by
  have one : (1 : ℝ) ≤ n := by exact_mod_cast some
  have tiny := tiny_le
  obtain ⟨low, high⟩ := abs_le.mp counts.2
  rw [slack_natCast] at low high
  generalize (2 : ℝ) ^ (-1074 : ℤ) = least at tiny low high
  norm_num at tiny low high
  constructor <;> linarith

theorem Counts.positive (counts : Counts x n) (some : 0 < n) : 0.0 < x := by
  have one : (1 : ℝ) ≤ n := by exact_mod_cast some
  rw [lt_iff rfl counts.1, value_zero]
  linarith [(counts.range some).1]

/-- Rounding may change which of two is the smaller, but then they are equally good. -/
theorem smaller_counts (first : Counts x r) (second : Counts z c) :
    Counts (smaller x z) (min r c) := by
  obtain ⟨low, high⟩ := abs_le.mp first.2
  obtain ⟨low', high'⟩ := abs_le.mp second.2
  have number : ¬x.isNaN = true := by
    rw [isNaN_of_isFinite first.1]
    exact Bool.false_ne_true
  rw [slack_natCast] at low high low' high'
  unfold smaller Counts
  rw [if_neg number]
  by_cases below : z < x
  · rw [if_pos below]
    refine ⟨second.1, ?_⟩
    rw [lt_iff second.1 first.1] at below
    rcases le_total r c with less | more
    · have lessReal : (r : ℝ) ≤ c := by exact_mod_cast less
      rw [min_eq_left less, slack_natCast, abs_le]
      generalize (2 : ℝ) ^ (-1074 : ℤ) = least at low high low' high' ⊢
      norm_num at low high low' high' ⊢
      constructor <;> linarith
    · rw [min_eq_right more]
      exact second.2
  · rw [if_neg below]
    refine ⟨first.1, ?_⟩
    rw [lt_iff second.1 first.1, not_lt] at below
    rcases le_total r c with less | more
    · rw [min_eq_left less]
      exact first.2
    · have moreReal : (c : ℝ) ≤ r := by exact_mod_cast more
      rw [min_eq_right more, slack_natCast, abs_le]
      generalize (2 : ℝ) ^ (-1074 : ℤ) = least at low high low' high' ⊢
      norm_num at low high low' high' ⊢
      constructor <;> linarith

theorem counted_atLeast (some : 0 < n) : AtLeast (nearestInt n) (999 / 1000 * n) := by
  have one : (1 : ℝ) ≤ n := by exact_mod_cast some
  have rounds := nearestInt_rounds n
  rw [Int.cast_natCast] at rounds
  refine atLeast_of_rounds rounds le_rfl n.cast_nonneg ?_
  norm_num
  linarith

theorem lnTen_atLeast (known : AtLeast x 19000) : AtLeast (x / lnTen) 8100 := by
  have literal := near_literal lnTen (2302585 / 1000000) (1 / 1000000) (by decide +kernel)
  obtain ⟨low, high⟩ := abs_le.mp literal.2
  norm_num at low high
  have positive : 0 < value lnTen := by linarith
  have quotient : 8250 ≤ 19000 / value lnTen := by
    rw [le_div_iff₀ positive]
    linarith
  refine known.div literal.1 positive (by norm_num) ?_
  norm_num
  linarith

theorem exceeds_of_atLeast {limit : Float} (finite : isFinite limit = true)
    (known : AtLeast x t) (above : value limit < t) : exceeds x limit = true := by
  rw [exceeds, decide_eq_true (exceeds_atLeast finite known above), Bool.or_true]

theorem raised_atLeast {lower higher : Float} {precise : Prop} [Decidable precise]
    (known : AtLeast lower t) : AtLeast (if precise then larger lower higher else lower) t := by
  by_cases holds : precise
  · rw [if_pos holds]
    exact larger_atLeast_left known higher
  · rw [if_neg holds]
    exact known

/-! Factorials -/

theorem factorialDigits_atLeast (many : 3000 < n) :
    AtLeast (factorialDigits (nearestInt n)) 8100 := by
  have size : (3001 : ℝ) ≤ n := by exact_mod_cast many
  have operand : AtLeast (nearestInt n) (29995 / 10) := by
    have rounds := nearestInt_rounds n
    rw [Int.cast_natCast] at rounds
    exact atLeast_of_rounds rounds (show (3001 : ℝ) ≤ n from size) (by norm_num) (by norm_num)
  have argument : AtLeast (nearestInt n + 1.0) 3000 :=
    operand.add rfl value_one.ge (by norm_num) (by norm_num)
  exact lnTen_atLeast ((lnGamma_atLeast argument).mono (by norm_num))

/-! Lower bounds -/

theorem logb_two_range : 27 / 100 ≤ Real.logb 10 2 ∧ Real.logb 10 2 ≤ 302 / 1000 := by
  have ten := Counting.log_ten_ge
  have ten' := Counting.log_ten_le
  have two := Real.log_two_gt_d9
  have two' := Real.log_two_lt_d9
  constructor
  · rw [Real.logb, le_div_iff₀ (by linarith)]
    linarith
  · rw [Real.logb, div_le_iff₀ (by linarith)]
    linarith

theorem log10_atLeast_most (accurate : DecimalLogarithm machine) (above : 2 ≤ y)
    (known : AtLeast z (100 / 101 * y)) : AtLeast (log10 z machine) (97 / 100 * Real.logb 10 y) := by
  have ten := Counting.log_ten_ge
  have positive : 0 < Real.log 10 := by linarith
  have digits : 27 / 100 ≤ Real.logb 10 y :=
    logb_two_range.1.trans (Real.logb_le_logb_of_le (by norm_num) two_pos above)
  have split : Real.logb 10 (100 / 101 * y) = Real.logb 10 (100 / 101) + Real.logb 10 y :=
    Real.logb_mul (by norm_num) (by linarith)
  have lost : -1 / 200 ≤ Real.logb 10 (100 / 101) := by
    have hundredth := Real.one_sub_inv_le_log_of_pos (show (0 : ℝ) < 100 / 101 by norm_num)
    norm_num at hundredth
    rw [Real.logb, le_div_iff₀ positive]
    linarith
  have lost' : Real.logb 10 (100 / 101) ≤ 0 :=
    Real.logb_nonpos (by norm_num) (by norm_num) (by norm_num)
  refine log10_atLeast accurate known (by linarith) ?_
  rw [split]
  norm_num
  linarith

theorem product_atLeast (accurate : DecimalLogarithm machine) (some : 0 < k) (above : 2 ≤ y)
    (counts : Counts x k) (known : AtLeast z (100 / 101 * y))
    (large : 9000 * Real.log 10 ≤ k * Real.log y) : AtLeast (x * log10 z machine) 8100 := by
  have one : (1 : ℝ) ≤ k := by exact_mod_cast some
  have ten : 0 < Real.log 10 := Real.log_pos (by norm_num)
  have digits : 9000 ≤ k * Real.logb 10 y := by
    rw [Real.logb, ← mul_div_assoc, le_div_iff₀ ten]
    exact large
  have positive : 0 < Real.logb 10 y := Real.logb_pos (by norm_num) (by linarith)
  have factor : AtLeast x (999 / 1000 * k) :=
    (finite_atLeast counts.1).mpr (counts.range some).1
  have product : 8400 ≤ 999 / 1000 * k * (97 / 100 * Real.logb 10 y) := by
    linarith
  refine factor.mul (log10_atLeast_most accurate above known) (by linarith) (by linarith) ?_
  norm_num at product ⊢
  linarith

theorem least_factor_atLeast (whole : Counts x n) (part : Counts z k) (some : 0 < k)
    (half : 2 * k ≤ n + 1) (more : 2 ≤ n) : AtLeast (x - z + 1.0) (200 / 201 * (n - k + 1)) := by
  have tiny := tiny_le
  have halfReal : 2 * (k : ℝ) ≤ n + 1 := by exact_mod_cast half
  have someReal : (1 : ℝ) ≤ k := by exact_mod_cast some
  have moreReal : (2 : ℝ) ≤ n := by exact_mod_cast more
  have low := (abs_le.mp whole.2).1
  have high := (abs_le.mp part.2).2
  rw [slack_natCast] at low high
  -- what both operands lose is relative to `n`, which is at most twice what is left
  have difference : (n - k + 1 : ℝ) * (999 / 1000) - 1 ≤ value x - value z := by
    generalize (2 : ℝ) ^ (-1074 : ℤ) = least at tiny low high
    norm_num at tiny low high
    linarith
  have rounded : AtLeast (x - z) ((n - k + 1 : ℝ) * (998 / 1000) - 1) := by
    refine atLeast_of_rounds (sub_rounds whole.1 part.1) difference (by linarith) ?_
    norm_num
    linarith
  refine rounded.add rfl value_one.ge (by linarith) ?_
  norm_num
  linarith

/-! Arrangements -/

theorem arrangementDigits_atLeast (accurate : DecimalLogarithm machine)
    (finite : isFinite (nearestInt n) = true) (finite' : isFinite (nearestInt r) = true)
    (valid : r ≤ n) (large : Counting.bound ≤ n.descFactorial r) :
    AtLeast (arrangementDigits (nearestInt n) (nearestInt r) machine) 8100 := by
  have some : 0 < r := by
    by_contra none
    obtain rfl : r = 0 := by omega
    exact absurd large (not_le.mpr Counting.one_lt_bound)
  have lower : AtLeast (larger
      (if 0.0 < nearestInt r then
        nearestInt r * log10 (nearestInt n - nearestInt r + 1.0) machine else 0.0)
      (factorialDigits (nearestInt r))) 8100 := by
    by_cases balanced : r ≤ n - r + 1
    · obtain ⟨three, digits⟩ := Counting.descFactorial_large valid balanced large
      have same : ((n - r + 1 : Nat) : ℝ) = n - r + 1 := by
        push_cast [valid]
        ring
      have least : (3 : ℝ) ≤ n - r + 1 := by
        rw [← same]
        exact_mod_cast three
      rw [same] at digits
      apply larger_atLeast_left
      have counts := nearestInt_counts finite'
      have factor := least_factor_atLeast (nearestInt_counts finite) counts some (by omega) (by omega)
      rw [if_pos (counts.positive some)]
      exact product_atLeast accurate some (by linarith) counts (factor.mono (by linarith)) digits
    · -- more than half of the operand's factors are taken, so there are many
      apply larger_atLeast_right
      apply factorialDigits_atLeast
      by_contra few
      exact absurd large (not_le.mpr (Counting.descFactorial_small (by omega) (by omega)))
  exact raised_atLeast lower

/-! Combinations -/

theorem combinationDigits_lower (accurate : DecimalLogarithm machine)
    (finite : isFinite (nearestInt n) = true) (finite' : isFinite (nearestInt r) = true)
    (finite'' : isFinite (nearestInt c) = true) (some : 0 < min r c) (third : 3 * min r c ≤ n + 1)
    (large : 9000 * Real.log 10 ≤
      (min r c : Nat) * Real.log ((n - (min r c : Nat) + 1 : ℝ) / (min r c : Nat))) :
    AtLeast (combinationDigits (nearestInt n) (nearestInt r) (nearestInt c) machine) 8100 := by
  have counts := smaller_counts (nearestInt_counts finite') (nearestInt_counts finite'')
  generalize min r c = k at *
  have kPositive : (0 : ℝ) < k := by exact_mod_cast some
  have thirdReal : 3 * (k : ℝ) ≤ n + 1 := by exact_mod_cast third
  have two : 2 ≤ (n - k + 1 : ℝ) / k := by
    rw [le_div_iff₀ kPositive]
    linarith
  have range := counts.range some
  have positive : 0 < value (smaller (nearestInt r) (nearestInt c)) := by linarith
  have factor := least_factor_atLeast (nearestInt_counts finite) counts some (by omega) (by omega)
  have quotient : 994 / 1000 * ((n - k + 1 : ℝ) / k) ≤
      200 / 201 * (n - k + 1) / value (smaller (nearestInt r) (nearestInt c)) := by
    rw [le_div_iff₀ positive]
    calc 994 / 1000 * ((n - k + 1 : ℝ) / k) * value (smaller (nearestInt r) (nearestInt c))
        ≤ 994 / 1000 * ((n - k + 1 : ℝ) / k) * (1001 / 1000 * k) := by
          gcongr
          exact range.2
      _ = 994 / 1000 * (1001 / 1000) * (n - k + 1) := by field_simp
      _ ≤ 200 / 201 * (n - k + 1) := by
          gcongr
          · linarith
          · norm_num
  have argument : AtLeast ((nearestInt n - smaller (nearestInt r) (nearestInt c) + 1.0) /
      smaller (nearestInt r) (nearestInt c)) (100 / 101 * ((n - k + 1 : ℝ) / k)) := by
    refine factor.div counts.1 positive (by linarith) ?_
    norm_num at quotient two ⊢
    linarith
  have product := product_atLeast accurate some two counts argument large
  refine raised_atLeast ?_
  rw [if_pos (counts.positive some)]
  exact product

theorem lnFactorial_near (many : 3000 ≤ n) (small : n ≤ 2 ^ 53) :
    Near (lnFactorial (nearestInt n)) (leading n) (37 / 2000 * n + 300) := by
  have manyReal : (3000 : ℝ) ≤ n := by exact_mod_cast many
  have smallReal : (n : ℝ) ≤ 2 ^ 53 := by exact_mod_cast small
  have operand := nearestInt_near n (2 ^ 53) (by rwa [Int.cast_natCast, Nat.abs_cast]) (by norm_num)
  rw [Int.cast_natCast] at operand
  have argument : Near (nearestInt n + 1.0) (n + 1) 5 := by
    refine operand.add one_near (2 ^ 53 + 4) ?_ (by norm_num) (by norm_num)
    rw [abs_of_nonneg (by positivity)]
    linarith
  exact lnGamma_near argument.1 manyReal smallReal argument.2

theorem leading_range (many : 3000 ≤ n) (small : n ≤ 2 ^ 53) :
    0 ≤ leading n ∧ leading n ≤ 2 ^ 59 := by
  have manyReal : (3000 : ℝ) ≤ n := by exact_mod_cast many
  have smallReal : (n : ℝ) ≤ 2 ^ 53 := by exact_mod_cast small
  have range := log_range (show (8 : ℝ) ≤ n by linarith) (smallReal.trans (by norm_num))
  unfold leading
  constructor
  · nlinarith
  · calc n * Real.log n - n ≤ n * 41 - 0 := by
          gcongr
          · exact range.2
          · linarith
      _ ≤ 2 ^ 53 * 41 - 0 := by gcongr
      _ ≤ 2 ^ 59 := by norm_num

theorem differences_near {a b x : Float} {u v w p q s : ℝ} (first : Near a u p)
    (second : Near b v q) (third : Near x w s) (range : 0 ≤ u ∧ u ≤ 2 ^ 59)
    (range' : 0 ≤ v ∧ v ≤ 2 ^ 59) (range'' : 0 ≤ w ∧ w ≤ 2 ^ 59) (fine : p + q + s ≤ 2 ^ 55) :
    Near (a - b - x) (u - v - w) (p + q + s + 800) := by
  obtain ⟨low, high⟩ := range
  obtain ⟨low', high'⟩ := range'
  obtain ⟨low'', high''⟩ := range''
  have nonneg := third.nonneg
  have size : |u - v| ≤ 2 ^ 59 := by
    rw [abs_le]
    constructor <;> linarith
  have difference : Near (a - b) (u - v) (p + q + 260) := by
    refine first.sub second (2 ^ 60) ?_ (by norm_num) ?_
    · linarith
    · norm_num
  refine difference.sub third (2 ^ 61) ?_ (by norm_num) ?_
  · obtain ⟨lower, upper⟩ := abs_le.mp size
    have size' : |u - v - w| ≤ 2 ^ 60 := by
      rw [abs_le]
      constructor <;> linarith
    linarith
  · norm_num
    linarith

theorem combinationDigits_entropy (finite : isFinite (nearestInt (r + c : Nat)) = true)
    (many : 3000 ≤ r) (many' : 3000 ≤ c) (precise : r + c < 2 ^ 53)
    (large : 20700 + (37 / 1000 : ℝ) * (r + c) ≤
      (r + c : Nat) * Real.log (r + c : Nat) - r * Real.log r - c * Real.log c) :
    AtLeast (combinationDigits (nearestInt (r + c : Nat)) (nearestInt r) (nearestInt c) machine)
      8100 := by
  have sum : ((r + c : Nat) : ℝ) = r + c := Nat.cast_add r c
  have size : ((r + c : Nat) : ℝ) ≤ 2 ^ 53 := by exact_mod_cast precise.le
  have entropy := differences_near
    (lnFactorial_near (n := r + c) (by omega) precise.le)
    (lnFactorial_near (n := r) many (by omega)) (lnFactorial_near (n := c) many' (by omega))
    (leading_range (by omega) precise.le) (leading_range many (by omega))
    (leading_range many' (by omega)) (by linarith)
  have digits := lnTen_atLeast (entropy.atLeast (by
    unfold leading
    linarith))
  have small : nearestInt (r + c : Nat) < exactIntegers := by
    have limit : value exactIntegers = 2 ^ 53 := by
      have := value_literal exactIntegers (2 ^ 53) rfl
      exact_mod_cast this
    rw [lt_iff finite rfl, limit, nearestInt_split _ (by omega) finite]
    exact precise
  show AtLeast (if nearestInt (r + c : Nat) < exactIntegers then larger _ _ else _) 8100
  rw [if_pos small]
  exact larger_atLeast_right _ digits

/-- A choice that is too large is estimated so, unless it is of more than a third and of less than
two thirds of more things than doubles tell apart. -/
theorem combinationDigits_atLeast (accurate : DecimalLogarithm machine)
    (finite : isFinite (nearestInt (r + c : Nat)) = true)
    (finite' : isFinite (nearestInt r) = true) (finite'' : isFinite (nearestInt c) = true)
    (large : Counting.bound ≤ (r + c).choose r)
    (covered : r + c < 2 ^ 53 ∨ 3 * min r c ≤ r + c) :
    AtLeast (combinationDigits (nearestInt (r + c : Nat)) (nearestInt r) (nearestInt c) machine)
      8100 := by
  rw [← Counting.choose_min] at large
  have some : 0 < min r c := by
    by_contra none
    have zero : min r c = 0 := by omega
    rw [zero, choose_zero_right] at large
    exact absurd large (not_le.mpr Counting.one_lt_bound)
  by_cases few : 8 * min r c ≤ r + c
  -- few of many: the lower bound is good whether or not integers are exact
  · exact combinationDigits_lower accurate finite finite' finite'' some (by omega)
      (Counting.choose_large_few some few large)
  by_cases far : 2 ^ 53 ≤ r + c
  · have third := covered.resolve_left (by omega)
    exact combinationDigits_lower accurate finite finite' finite'' some (by omega)
      (Counting.choose_large_far (by omega) third far)
  -- an eighth and more of what doubles tell apart
  rcases le_total r c with less | more
  · rw [min_eq_left less] at few large
    obtain ⟨many, entropy, share⟩ := Counting.choose_large_near less (by omega) large
    exact combinationDigits_entropy finite (by omega) (by omega) (by omega) (by linarith)
  · rw [min_eq_right more] at few large
    rw [add_comm r c] at few large
    obtain ⟨many, entropy, share⟩ := Counting.choose_large_near more (by omega) large
    refine combinationDigits_entropy finite (by omega) (by omega) (by omega) ?_
    rw [add_comm r c]
    linarith

/-! Powers -/

theorem log10Abs_atLeast (accurate : DecimalLogarithm machine) {n : Int} (some : 2 ≤ n.natAbs) :
    AtLeast (log10Abs n machine) (9 / 10 * Real.logb 10 n.natAbs) := by
  have two : (2 : ℝ) ≤ n.natAbs := by exact_mod_cast some
  have digits : 0 < Real.logb 10 n.natAbs := Real.logb_pos (by norm_num) (by linarith)
  unfold log10Abs
  by_cases finite : isFinite (nearestInt n) = true
  · simp only [finite, if_true]
    have near := (nearestInt_rounds n).near finite
    have same : |(n : ℝ)| = n.natAbs := by rw [Nat.cast_natAbs, Int.cast_abs]
    have above : 999 / 1000 * (n.natAbs : ℝ) ≤ |value (nearestInt n)| := by
      have size := abs_sub_abs_le_abs_sub (n : ℝ) (value (nearestInt n))
      have tiny := tiny_le
      rw [abs_sub_comm] at size
      rw [slack, same] at near
      rw [same] at size
      generalize (2 : ℝ) ^ (-1074 : ℤ) = least at tiny near
      norm_num at tiny near size ⊢
      linarith
    have argument : AtLeast (nearestInt n).abs (100 / 101 * n.natAbs) := by
      refine atLeast_of_rounds (abs_rounds finite) above (by positivity) ?_
      norm_num
      linarith
    exact (log10_atLeast_most accurate two argument).mono (by linarith)
  · -- beyond the doubles the bits are counted
    rw [if_neg finite]
    have bits : Real.logb 10 n.natAbs ≤ (n.natAbs.log2 + 1 : Nat) * Real.logb 10 2 := by
      rw [← Real.logb_pow]
      refine Real.logb_le_logb_of_le (by norm_num) (by linarith) ?_
      exact_mod_cast Nat.lt_log2_self.le
    have literal : AtLeast log10Two (301 / 1000) :=
      (near_literal log10Two (30103 / 100000) (1 / 100000) (by decide +kernel)).atLeast (by norm_num)
    have counted := counted_atLeast (Nat.succ_pos n.natAbs.log2)
    have one : (1 : ℝ) ≤ (n.natAbs.log2 + 1 : Nat) := by exact_mod_cast Nat.succ_pos _
    have enough : (n.natAbs.log2 + 1 : Nat) * Real.logb 10 2 ≤
        (n.natAbs.log2 + 1 : Nat) * (302 / 1000) := by
      gcongr
      exact logb_two_range.2
    refine counted.mul literal (by linarith) (by norm_num) ?_
    norm_num at bits enough one ⊢
    linarith

/-- The estimate falls short of the digits by no more than a sixth. -/
theorem powerDigits_atLeast (accurate : DecimalLogarithm machine) {base : ℚ} {exponent : Int}
    (some : 2 ≤ max base.num.natAbs base.den)
    (large : 10 ^ 6000 ≤ max base.num.natAbs base.den ^ exponent.natAbs) :
    AtLeast (powerDigits base exponent machine) 5000 := by
  have positive : 0 < exponent.natAbs := by
    by_contra none
    have zero : exponent.natAbs = 0 := by omega
    rw [zero, pow_zero] at large
    exact absurd large (not_le.mpr (Counting.one_lt_ten_pow 6000 (by norm_num)))
  have magnitude : AtLeast (larger (log10Abs base.num machine) (log10Abs base.den machine))
      (9 / 10 * Real.logb 10 (max base.num.natAbs base.den : Nat)) := by
    rcases le_total base.num.natAbs base.den with less | more
    · rw [max_eq_right less] at some ⊢
      exact larger_atLeast_right _ (log10Abs_atLeast accurate (n := base.den) some)
    · rw [max_eq_left more] at some ⊢
      exact larger_atLeast_left (log10Abs_atLeast accurate some) _
  generalize max base.num.natAbs base.den = m at *
  have two : (2 : ℝ) ≤ m := by exact_mod_cast some
  have one : (1 : ℝ) ≤ exponent.natAbs := by exact_mod_cast positive
  have some : 0 < Real.logb 10 m := Real.logb_pos (by norm_num) (by linarith)
  have digits : 6000 ≤ exponent.natAbs * Real.logb 10 m := by
    have powers : (10 : ℝ) ^ 6000 ≤ m ^ exponent.natAbs := by exact_mod_cast large
    have logs := Real.logb_le_logb_of_le (b := 10) (by norm_num) (by positivity) powers
    rw [Real.logb_pow, Real.logb_pow, Real.logb_self_eq_one (by norm_num), mul_one] at logs
    exact_mod_cast logs
  have product : 5300 ≤ 9 / 10 * Real.logb 10 m * (999 / 1000 * exponent.natAbs) := by
    linarith
  refine magnitude.mul (counted_atLeast positive) (by linarith) (by linarith) ?_
  norm_num at product ⊢
  linarith

end RationalCalc.Estimate
