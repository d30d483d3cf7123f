import Mathlib

/-!
How large factorials, arrangements and combinations are. A result of more than sixteen thousand
digits forces the quantities that the size estimates are made of to be large as well, with so much to
spare that what the estimates lose to rounding does not matter.
-/

namespace RationalCalc.Counting

open Nat

/-- The least number with more digits than twice what counting is allowed. -/
def bound : Nat :=
  10 ^ 16000

-- The exponents are variables where powers are compared: none of these numbers is to be computed.

theorem one_lt_ten_pow (n : Nat) (some : n ≠ 0) : 1 < 10 ^ n :=
  Nat.one_lt_pow some (by norm_num)

theorem eight_pow_lt_ten_pow (n m : Nat) (less : n < m) : 8 ^ n < 10 ^ m :=
  calc 8 ^ n < 8 ^ m := Nat.pow_lt_pow_right (by norm_num) less
    _ ≤ 10 ^ m := Nat.pow_le_pow_left (by norm_num) m

theorem two_pow_lt_ten_pow (n m : Nat) (less : n < 3 * m) : 2 ^ n < 10 ^ m :=
  calc 2 ^ n < 2 ^ (3 * m) := Nat.pow_lt_pow_right (by norm_num) less
    _ = (2 ^ 3) ^ m := pow_mul 2 3 m
    _ ≤ 10 ^ m := Nat.pow_le_pow_left (by norm_num) m

theorem ten_pow_lt_two_pow (n k : Nat) (some : n ≠ 0) (many : 4 * n ≤ k) : 10 ^ n < 2 ^ k :=
  calc 10 ^ n < (2 ^ 4) ^ n := Nat.pow_lt_pow_left (by norm_num) some
    _ = 2 ^ (4 * n) := (pow_mul 2 4 n).symm
    _ ≤ 2 ^ k := Nat.pow_le_pow_right (by norm_num) many

theorem one_lt_bound : 1 < bound :=
  one_lt_ten_pow 16000 (by norm_num)

theorem log_bound {A : Nat} (large : bound ≤ A) : 16000 * Real.log 10 ≤ Real.log A := by
  have power : Real.log (bound : ℝ) = 16000 * Real.log 10 := by
    unfold bound
    rw [Nat.cast_pow, Real.log_pow]
    norm_num
  rw [← power]
  exact Real.log_le_log (by unfold bound; positivity) (by exact_mod_cast large)

/-! Few factors -/

theorem descFactorial_le_eight_pow {n r most : Nat} (few : r ≤ most) (small : n ≤ 6000) :
    n.descFactorial r ≤ 8 ^ (5 * most) :=
  calc n.descFactorial r ≤ n ^ r := Nat.descFactorial_le_pow n r
    _ ≤ (8 ^ 5) ^ r := Nat.pow_le_pow_left (small.trans (by norm_num)) r
    _ ≤ (8 ^ 5) ^ most := Nat.pow_le_pow_right (by norm_num) few
    _ = 8 ^ (5 * most) := (pow_mul 8 5 most).symm

theorem descFactorial_small {n r : Nat} (few : r ≤ 3000) (small : n ≤ 6000) :
    n.descFactorial r < bound :=
  (descFactorial_le_eight_pow few small).trans_lt (eight_pow_lt_ten_pow _ 16000 (by norm_num))

theorem factorial_small {n : Nat} (few : n ≤ 3000) : n ! < bound := by
  rw [← Nat.descFactorial_self]
  exact descFactorial_small few (by omega)

/-! Arrangements -/

/-- If the least factor is no less than the number of factors, the least factor alone shows. -/
theorem descFactorial_large {n r : Nat} (valid : r ≤ n) (balanced : r ≤ n - r + 1)
    (large : bound ≤ n.descFactorial r) :
    3 ≤ n - r + 1 ∧ 9000 * Real.log 10 ≤ r * Real.log (n - r + 1 : Nat) := by
  have least : 3 ≤ n - r + 1 := by
    by_contra small
    exact absurd large (not_le.mpr (descFactorial_small (by omega) (by omega)))
  refine ⟨least, ?_⟩
  have upper : n ≤ 2 * (n - r + 1) := by omega
  generalize n - r + 1 = m at *
  have leastReal : (3 : ℝ) ≤ m := by exact_mod_cast least
  have upperReal : (n : ℝ) ≤ 2 * m := by exact_mod_cast upper
  have nPositive : 0 < n := by
    by_contra none
    have zero : n = 0 := by omega
    subst zero
    exact absurd large (not_le.mpr (descFactorial_small (by omega) (by omega)))
  have factors : Real.log (n.descFactorial r) ≤ r * Real.log (2 * m) := by
    have some : 0 < n.descFactorial r := Nat.descFactorial_pos.mpr valid
    calc Real.log (n.descFactorial r) ≤ Real.log ((n ^ r : Nat) : ℝ) :=
          Real.log_le_log (by exact_mod_cast some) (by exact_mod_cast Nat.descFactorial_le_pow n r)
      _ = r * Real.log n := by rw [Nat.cast_pow, Real.log_pow]
      _ ≤ r * Real.log (2 * m) := by gcongr
  -- twice the least factor is below its seventh fourth power
  have doubled : 4 * Real.log (2 * m) ≤ 7 * Real.log m := by
    have powers : ((2 : ℝ) * m) ^ 4 ≤ (m : ℝ) ^ 7 := by
      calc ((2 : ℝ) * m) ^ 4 = 2 ^ 4 * (m : ℝ) ^ 4 := mul_pow _ _ _
        _ ≤ 3 ^ 3 * (m : ℝ) ^ 4 := by
          gcongr
          norm_num
        _ ≤ (m : ℝ) ^ 3 * (m : ℝ) ^ 4 := by gcongr
        _ = (m : ℝ) ^ 7 := (pow_add _ 3 4).symm
    have logs := Real.log_le_log (by positivity) powers
    rw [Real.log_pow, Real.log_pow] at logs
    exact_mod_cast logs
  have digits := (log_bound large).trans factors
  have scaled : (r : ℝ) * (4 * Real.log (2 * m)) ≤ r * (7 * Real.log m) := by gcongr
  have ten : 0 < Real.log 10 := Real.log_pos (by norm_num)
  linarith

/-! Combinations -/

theorem choose_min (r c : Nat) : (r + c).choose (min r c) = (r + c).choose r := by
  rcases le_total r c with less | more
  · rw [min_eq_left less]
  · rw [min_eq_right more, choose_symm_add]

theorem choose_mul_pow_le (r c : Nat) :
    (r + c).choose r * (r ^ r * c ^ c) ≤ (r + c) ^ (r + c) := by
  have terms := add_pow r c (r + c)
  rw [terms]
  have member : r ∈ Finset.range (r + c + 1) := Finset.mem_range.mpr (by omega)
  have single := Finset.single_le_sum (f := fun m => r ^ m * c ^ (r + c - m) * (r + c).choose m)
    (fun m _ => Nat.zero_le _) member
  calc (r + c).choose r * (r ^ r * c ^ c) = r ^ r * c ^ (r + c - r) * (r + c).choose r := by
        rw [Nat.add_sub_cancel_left]
        ring
    _ ≤ _ := single

theorem choose_entropy {r c : Nat} (some : 0 < r) (some' : 0 < c) :
    Real.log ((r + c).choose r) ≤
      (r + c : Nat) * Real.log (r + c : Nat) - r * Real.log r - c * Real.log c := by
  have positive : 0 < (r + c).choose r := Nat.choose_pos (by omega)
  have chosen : ((r + c).choose r : ℝ) ≠ 0 := by exact_mod_cast positive.ne'
  have first : ((r : ℝ) ^ r) ≠ 0 := by positivity
  have second : ((c : ℝ) ^ c) ≠ 0 := by positivity
  have product : ((r + c).choose r * (r ^ r * c ^ c) : ℝ) ≤ (r + c : Nat) ^ (r + c) := by
    exact_mod_cast choose_mul_pow_le r c
  have logs := Real.log_le_log (by positivity) product
  rw [Real.log_mul chosen (mul_ne_zero first second), Real.log_mul first second, Real.log_pow,
    Real.log_pow, Real.log_pow] at logs
  linarith

theorem choose_le_exp {n k : Nat} (some : 0 < k) (valid : k ≤ n) :
    Real.log (n.choose k) ≤ k * (1 + Real.log n - Real.log k) := by
  have positive : 0 < n.choose k := Nat.choose_pos valid
  have kPositive : (0 : ℝ) < k := by exact_mod_cast some
  have nPositive : (0 : ℝ) < n := by exact_mod_cast some.trans_le valid
  have divided : (n.choose k : ℝ) ≤ n ^ k / k ! := Nat.choose_le_pow_div k n
  have factorial : (k : ℝ) ^ k / k ! ≤ Real.exp k :=
    Real.pow_div_factorial_le_exp (k : ℝ) kPositive.le k
  have product : (n.choose k * k ^ k : ℝ) ≤ n ^ k * Real.exp k := by
    calc (n.choose k * k ^ k : ℝ) ≤ n ^ k / k ! * k ^ k := by gcongr
      _ = n ^ k * (k ^ k / k !) := by ring
      _ ≤ n ^ k * Real.exp k := by gcongr
  have chosen : (n.choose k : ℝ) ≠ 0 := by exact_mod_cast positive.ne'
  have logs := Real.log_le_log (by positivity) product
  rw [Real.log_mul chosen (by positivity), Real.log_mul (by positivity) (Real.exp_ne_zero _),
    Real.log_pow, Real.log_pow, Real.log_exp] at logs
  linarith

theorem log_ten_le : Real.log 10 ≤ 5 / 2 := by
  have cube : Real.log (10 : ℝ) ≤ Real.log (2 ^ 3 * (1 + 1 / 4)) := by norm_num
  rw [Real.log_mul (by norm_num) (by norm_num), Real.log_pow] at cube
  have quarter := Real.log_le_sub_one_of_pos (show (0 : ℝ) < 1 + 1 / 4 by norm_num)
  have two := Real.log_two_lt_d9
  norm_num at cube quarter
  linarith

theorem fraction_le_log {x : ℝ} (p q : ℕ) (positive : 0 < q)
    (powers : (2.7182818286 : ℝ) ^ p ≤ x ^ q) : (p / q : ℝ) ≤ Real.log x := by
  have divisor : (0 : ℝ) < q := by exact_mod_cast positive
  have exponential : Real.exp p ≤ x ^ q := by
    calc Real.exp p = Real.exp 1 ^ p := by rw [← Real.exp_nat_mul, mul_one]
      _ ≤ 2.7182818286 ^ p := by
          gcongr
          exact Real.exp_one_lt_d9.le
      _ ≤ x ^ q := powers
  have logs := Real.log_le_log (Real.exp_pos _) exponential
  rw [Real.log_exp, Real.log_pow] at logs
  rw [div_le_iff₀ divisor]
  linarith

theorem log_ten_ge : 23 / 10 ≤ Real.log 10 := by
  exact_mod_cast fraction_le_log 23 10 (by norm_num) (x := 10) (by norm_num)

theorem choose_large_few {n k : Nat} (some : 0 < k) (few : 8 * k ≤ n) (large : bound ≤ n.choose k) :
    9000 * Real.log 10 ≤ k * Real.log ((n - k + 1 : ℝ) / k) := by
  have kPositive : (0 : ℝ) < k := by exact_mod_cast some
  have fewReal : 8 * (k : ℝ) ≤ n := by exact_mod_cast few
  have seven : 3 / 2 ≤ Real.log 7 := by
    exact_mod_cast fraction_le_log 3 2 (by norm_num) (x := 7) (by norm_num)
  -- with an eighth chosen the lower bound's quotient is seven, and little less than `n / k`
  have quotient : 7 ≤ (n - k + 1 : ℝ) / k := by
    rw [le_div_iff₀ kPositive]
    linarith
  have above : 3 / 2 ≤ Real.log ((n - k + 1 : ℝ) / k) :=
    seven.trans (Real.log_le_log (by norm_num) quotient)
  have ratio : Real.log n - Real.log k ≤ 1 / 7 + Real.log ((n - k + 1 : ℝ) / k) := by
    have nPositive : (0 : ℝ) < n := by linarith
    rw [← Real.log_div nPositive.ne' kPositive.ne']
    have eighth := Real.log_le_sub_one_of_pos (show (0 : ℝ) < 8 / 7 by norm_num)
    have bounded : (n : ℝ) / k ≤ 8 / 7 * ((n - k + 1) / k) := by
      rw [← mul_div_assoc]
      gcongr
      linarith
    have logs := Real.log_le_log (by positivity) bounded
    rw [Real.log_mul (by norm_num) (by linarith)] at logs
    linarith
  have digits := (log_bound large).trans (choose_le_exp some (by omega))
  have scaled : (k : ℝ) * (1 + Real.log n - Real.log k) ≤
      k * (16 / 9 * Real.log ((n - k + 1 : ℝ) / k)) := by
    gcongr
    linarith
  linarith

/-- Beyond the doubles that are integers, it shows for up to a third. -/
theorem choose_large_far {n k : Nat} (many : n < 8 * k) (third : 3 * k ≤ n) (far : 2 ^ 53 ≤ n) :
    9000 * Real.log 10 ≤ k * Real.log ((n - k + 1 : ℝ) / k) := by
  have thirdReal : 3 * (k : ℝ) ≤ n := by exact_mod_cast third
  have size : (2 : ℝ) ^ 50 ≤ k := by
    have : 2 ^ 50 ≤ k := by omega
    exact_mod_cast this
  have kPositive : (0 : ℝ) < k := lt_of_lt_of_le (by positivity) size
  have quotient : 2 ≤ (n - k + 1 : ℝ) / k := by
    rw [le_div_iff₀ kPositive]
    linarith
  have above : 1 / 2 ≤ Real.log ((n - k + 1 : ℝ) / k) := by
    have logs := Real.log_le_log (by norm_num) quotient
    have two := Real.log_two_gt_d9
    linarith
  have ten := log_ten_le
  calc 9000 * Real.log 10 ≤ 2 ^ 50 * (1 / 2) := by linarith
    _ ≤ k * Real.log ((n - k + 1 : ℝ) / k) := by gcongr

/-- If an eighth is chosen and no more than half, the entropy shows, also relative to the whole. -/
theorem choose_large_near {k c : Nat} (half : k ≤ c) (many : k + c < 8 * k)
    (large : bound ≤ (k + c).choose k) :
    48000 ≤ k + c ∧
      36800 ≤ (k + c : Nat) * Real.log (k + c : Nat) - k * Real.log k - c * Real.log c ∧
      (k + c : ℝ) * (43 / 500) ≤
        (k + c : Nat) * Real.log (k + c : Nat) - k * Real.log k - c * Real.log c := by
  have some : 0 < k := by omega
  have some' : 0 < c := by omega
  have kPositive : (0 : ℝ) < k := by exact_mod_cast some
  have cPositive : (0 : ℝ) < c := by exact_mod_cast some'
  have halfReal : (k : ℝ) ≤ c := by exact_mod_cast half
  have manyReal : (k + c : ℝ) ≤ 8 * k := by exact_mod_cast many.le
  refine ⟨?_, ?_, ?_⟩
  -- all subsets together are not more than two to the power of the whole
  · by_contra short
    have small : (k + c).choose k < bound := by
      calc (k + c).choose k ≤ 2 ^ (k + c) := Nat.choose_le_two_pow _ _
        _ < bound := two_pow_lt_ten_pow (k + c) 16000 (by omega)
    omega
  · have digits := (log_bound large).trans (choose_entropy some some')
    have ten := log_ten_ge
    linarith
  · have first : Real.log 2 ≤ Real.log (k + c : Nat) - Real.log k := by
      rw [← Real.log_div (by positivity) kPositive.ne']
      refine Real.log_le_log (by norm_num) ?_
      rw [le_div_iff₀ kPositive]
      push_cast
      linarith
    have second : Real.log c ≤ Real.log (k + c : Nat) :=
      Real.log_le_log cPositive (by push_cast; linarith)
    have two := Real.log_two_gt_d9
    -- each of the chosen gives at least one bit
    calc (k + c : ℝ) * (43 / 500) ≤ 8 * k * (43 / 500) := by gcongr
      _ = k * (86 / 125) + c * 0 := by ring
      _ ≤ k * (Real.log (k + c : Nat) - Real.log k) +
          c * (Real.log (k + c : Nat) - Real.log c) := by
        gcongr
        · linarith
        · exact sub_nonneg.mpr second
      _ = _ := by push_cast; ring

theorem two_pow_le_centralBinom (k : Nat) : 2 ^ k ≤ centralBinom k := by
  induction k with
  | zero => rfl
  | succ k shorter =>
      have step := succ_mul_centralBinom_succ k
      refine Nat.le_of_mul_le_mul_left ?_ (Nat.succ_pos k)
      calc (k + 1) * 2 ^ (k + 1) = 2 * (k + 1) * 2 ^ k := by ring
        _ ≤ 2 * (2 * k + 1) * centralBinom k := by
          gcongr
          omega
        _ = (k + 1) * centralBinom (k + 1) := step.symm

theorem choose_huge {n k : Nat} (half : 2 * k ≤ n) (many : 64000 ≤ k) : bound < n.choose k := by
  calc bound < 2 ^ k := ten_pow_lt_two_pow 16000 k (by norm_num) many
    _ ≤ (2 * k).choose k := two_pow_le_centralBinom k
    _ ≤ n.choose k := Nat.choose_le_choose k half

end RationalCalc.Counting
