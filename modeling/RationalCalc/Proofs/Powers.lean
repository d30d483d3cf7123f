import Mathlib
import RationalCalc.Arithmetic.Power
import RationalCalc.Proofs.Binary64.Nearest
import RationalCalc.Proofs.Binary64.Order

/-!
Where powers are exact. An integer exponent gives the power itself as long as neither operand is
infinite as a double. Beyond, the power function on doubles answers, whose only numbers are zero and
one then. They are the power if the exponent is zero, if the base is zero or one, and if it is minus
one under an even exponent, and never for any other base.
-/

namespace RationalCalc

namespace Binary64

theorem zero_decoded : decoded 0.0 = .zero .positive := by
  have bits : (0.0 : Float).toBits.toNat = 0 := rfl
  rw [decoded, bits, zero_parts]

theorem nearest_infinite {q : ℚ} (infinite : isInfinite (nearest q) = true) :
    (nearest q).isNaN = false ∧ (nearest q == 0.0) = false ∧
      decide (0.0 < nearest q) = decide (0 < q) := by
  have large : (0 : ℝ) < 2 ^ 1023 := by positivity
  rw [Bool.eq_false_iff, Bool.eq_false_iff, ne_eq, ne_eq, isNaN_iff, beq_iff_compare,
    decide_eq_decide, lt_iff_compare, zero_decoded]
  rcases nearest_rounds q with ⟨finite, -⟩ | ⟨above, sign⟩ | ⟨below, sign⟩
  · simp only [isFinite, isInfinite, decide_eq_true_eq, beq_iff_eq] at finite infinite
    omega
  · have positive : 0 < q := by exact_mod_cast large.trans_le above
    rw [sign]
    refine ⟨?_, ?_, iff_of_true rfl positive⟩ <;> rintro ⟨⟩
  · have negative : q < 0 := by exact_mod_cast below.trans_lt (neg_neg_of_pos large)
    rw [sign]
    refine ⟨?_, ?_, iff_of_false (by decide) negative.not_gt⟩ <;> rintro ⟨⟩

/-- With an infinite operand the power function computes nothing. -/
theorem power_infinite (base exponent : Float)
    (infinite : (isInfinite base || isInfinite exponent) = true) :
    power base exponent ∈ [1.0, notANumber, infinity, -infinity, zero, -zero] := by
  unfold power signedLike
  cases top : isInfinite exponent <;> cases top' : isInfinite base
  · rw [top, top'] at infinite
    cases infinite
  all_goals
    simp only [Bool.true_or, Bool.false_eq_true, if_true, if_false]
    split_ifs <;> simp

end Binary64

namespace Arithmetic

open Binary64

theorem floatPower_infinite {base exponent : Float} {value : ℚ}
    (infinite : (isInfinite base || isInfinite exponent) = true)
    (computed : floatPower base exponent = .ok value) : value = 0 ∨ value = 1 := by
  have numbers : ∀ result ∈ [1.0, notANumber, infinity, -infinity, zero, -zero],
      isFinite result = true → exact result = 0 ∨ exact result = 1 := by
    decide +kernel
  simp only [floatPower] at computed
  split at computed
  · rename_i finite
    cases computed
    exact numbers _ (power_infinite base exponent infinite) finite
  · cases computed

variable {exponent : ℚ}

theorem floatPower_unit (infinite : isInfinite (nearest exponent) = true) :
    floatPower (nearest (-1)) (nearest exponent) = .ok 1 := by
  obtain ⟨number, -, -⟩ := nearest_infinite infinite
  have one : Binary64.power (nearest (-1)) (nearest exponent) = 1.0 := by
    have base : (nearest (-1)).isNaN = false := rfl
    have unit : ((nearest (-1)).abs == 1.0) = true := rfl
    simp only [Binary64.power, base, number, infinite, unit, Bool.or_self, Bool.false_eq_true,
      if_true, if_false, ite_self]
  rw [floatPower, one]
  rfl

theorem floatPower_zero (infinite : isInfinite (nearest exponent) = true) :
    floatPower (nearest 0) (nearest exponent) =
      if 0 < exponent then .ok 0 else .error .notFinite := by
  obtain ⟨number, nonzero, sign⟩ := nearest_infinite infinite
  have other : (nearest 0 == 1.0) = false := rfl
  have base : (nearest 0).isNaN = false := rfl
  have unit : ((nearest 0).abs == 1.0) = false := rfl
  have small : decide (1.0 < (nearest 0).abs) = false := rfl
  simp only [floatPower, Binary64.power, nonzero, number, infinite, other, base, unit, small, sign,
    Bool.or_self, Bool.false_eq_true, if_true, if_false]
  by_cases positive : 0 < exponent
  · rw [if_pos positive, decide_eq_true positive]
    rfl
  · rw [if_neg positive, decide_eq_false positive]
    rfl

/-! The power of rationals -/

/-- Neither operand is infinite as a double. -/
def Measurable (base : ℚ) (exponent : ℤ) : Prop :=
  isInfinite (nearest base) = false ∧ isInfinite (nearest exponent) = false

variable {limits : Limits} {machine : Float → Float} {base : ℚ} {exponent : ℤ}

theorem power_measurable (measurable : Measurable base exponent) :
    power base exponent limits machine = exactPower base exponent limits machine := by
  simp [power, isInteger, measurable.1, measurable.2]

theorem power_unmeasurable (limits : Limits) (machine : Float → Float)
    (beyond : ¬Measurable base exponent) :
    (isInfinite (nearest base) || isInfinite (nearest (exponent : ℚ))) = true ∧
      power base exponent limits machine = floatPower (nearest base) (nearest (exponent : ℚ)) := by
  have infinite : (isInfinite (nearest base) || isInfinite (nearest (exponent : ℚ))) = true := by
    by_contra finite
    rw [Bool.not_eq_true, Bool.or_eq_false_iff] at finite
    exact beyond finite
  refine ⟨infinite, ?_⟩
  simp only [power]
  rw [Bool.or_assoc, infinite, Bool.or_true, if_pos rfl]

theorem raised_zpow (base : ℚ) (exponent : ℤ) : raised base exponent = base ^ exponent := by
  unfold raised
  rcases Int.eq_nat_or_neg exponent with ⟨k, rfl | rfl⟩
  · rw [if_neg (by omega), Int.natAbs_natCast, zpow_natCast]
  · rw [Int.natAbs_neg, Int.natAbs_natCast, zpow_neg, zpow_natCast]
    split
    · rfl
    · have none : k = 0 := by omega
      rw [none, pow_zero, inv_one]

theorem unitPower_zpow (unit : base = 1 ∨ base = -1) (exponent : ℤ) :
    unitPower base exponent = base ^ exponent := by
  rcases unit with rfl | rfl
  · simp [unitPower]
  · rcases Int.even_or_odd exponent with even | odd
    · simp [unitPower, even.neg_one_zpow, Int.even_iff.mp even]
    · simp [unitPower, odd.neg_one_zpow, Int.odd_iff.mp odd]

theorem zeroPower_zpow (exponent : ℤ) :
    zeroPower exponent = if exponent < 0 then .error .zeroToNegative else .ok (0 ^ exponent) := by
  unfold zeroPower
  split
  · rfl
  · split
    · rename_i none
      rw [none, zpow_zero]
    · rename_i some
      rw [zero_zpow exponent some]

theorem exactPower_zero (exponent : ℤ) : exactPower 0 exponent limits machine =
    if exponent < 0 then .error .zeroToNegative else .ok (0 ^ exponent) :=
  zeroPower_zpow exponent

theorem exactPower_unit (unit : base = 1 ∨ base = -1) (exponent : ℤ) :
    exactPower base exponent limits machine = .ok (base ^ exponent) := by
  rw [← unitPower_zpow unit exponent]
  rcases unit with rfl | rfl <;> rfl

theorem exactPower_cases (base : ℚ) (exponent : ℤ) (limits : Limits) (machine : Float → Float) :
    (base = 0 ∧ exponent < 0 ∧
      exactPower base exponent limits machine = .error .zeroToNegative) ∨
    (base ≠ 0 ∧ exactPower base exponent limits machine = .error .tooBig) ∨
    ((base ≠ 0 ∨ 0 ≤ exponent) ∧
      exactPower base exponent limits machine = .ok (base ^ exponent)) := by
  by_cases zero : base = 0
  · subst zero
    rw [exactPower_zero]
    by_cases negative : exponent < 0
    · exact .inl ⟨rfl, negative, if_pos negative⟩
    · exact .inr (.inr ⟨.inr (by omega), if_neg negative⟩)
  · by_cases unit : base = 1 ∨ base = -1
    · exact .inr (.inr ⟨.inl zero, exactPower_unit unit exponent⟩)
    · right
      unfold exactPower
      rw [if_neg zero, if_neg (by simpa using unit)]
      split
      · exact .inl ⟨zero, rfl⟩
      · split
        · exact .inl ⟨zero, rfl⟩
        · exact .inr ⟨.inl zero, congrArg Except.ok (raised_zpow base exponent)⟩

theorem exactPower_zpow {value : ℚ} (computed : exactPower base exponent limits machine = .ok value) :
    value = base ^ exponent := by
  rcases exactPower_cases base exponent limits machine with
    ⟨-, -, failed⟩ | ⟨-, failed⟩ | ⟨-, powered⟩
  · rw [failed] at computed
    cases computed
  · rw [failed] at computed
    cases computed
  · rw [powered] at computed
    exact (Except.ok.inj computed).symm

/-! Bases and exponents that give the power whatever the other operand is -/

theorem power_one (exponent : ℤ) : power 1 exponent limits machine = .ok 1 := by
  by_cases measurable : Measurable 1 exponent
  · rw [power_measurable measurable, exactPower_unit (.inl rfl), one_zpow]
  · have base : (nearest 1 == 1.0) = true := rfl
    rw [(power_unmeasurable limits machine measurable).2, floatPower]
    simp only [Binary64.power, base, Bool.or_true, if_true]
    rfl

theorem power_minus_even (even : Even exponent) : power (-1) exponent limits machine = .ok 1 := by
  by_cases measurable : Measurable (-1) exponent
  · rw [power_measurable measurable, exactPower_unit (.inr rfl), even.neg_one_zpow]
  · obtain ⟨infinite, answered⟩ := power_unmeasurable limits machine measurable
    rw [answered, floatPower_unit infinite]

theorem power_zero_base (exponent : ℤ) :
    power 0 exponent limits machine =
      if 0 ≤ exponent then .ok (0 ^ exponent)
      else if isInfinite (nearest exponent) then .error .notFinite
      else .error .zeroToNegative := by
  by_cases measurable : Measurable 0 exponent
  · rw [power_measurable measurable, exactPower_zero, measurable.2]
    by_cases negative : exponent < 0
    · rw [if_pos negative, if_neg (by omega)]
      rfl
    · rw [if_neg negative, if_pos (by omega)]
  · obtain ⟨infinite, answered⟩ := power_unmeasurable limits machine measurable
    have top : isInfinite (nearest (exponent : ℚ)) = true := infinite
    have some : exponent ≠ 0 := by
      rintro rfl
      cases top
    rw [answered, floatPower_zero top, top, zero_zpow exponent some]
    by_cases positive : 0 < exponent
    · rw [if_pos (by exact_mod_cast positive), if_pos positive.le]
    · rw [if_neg (by exact_mod_cast positive), if_neg (by omega)]
      rfl

theorem power_zero_exponent {value : ℚ}
    (computed : power base (0 : ℤ) limits machine = .ok value) : value = 1 := by
  by_cases measurable : Measurable base 0
  · rw [power_measurable measurable] at computed
    rw [exactPower_zpow computed, zpow_zero]
  · have exponent : (nearest ((0 : ℤ) : ℚ) == 0.0) = true := rfl
    rw [(power_unmeasurable limits machine measurable).2, floatPower] at computed
    simp only [Binary64.power, exponent, Bool.true_or, if_true] at computed
    exact (Except.ok.inj computed).symm

theorem zpow_proper (plain : base ∉ [0, 1, -1]) (some : exponent ≠ 0) :
    base ^ exponent ≠ 0 ∧ base ^ exponent ≠ 1 := by
  simp only [List.mem_cons, List.not_mem_nil, or_false, not_or] at plain
  obtain ⟨nonzero, notOne, notMinus⟩ := plain
  refine ⟨zpow_ne_zero exponent nonzero, ?_⟩
  intro one
  have magnitude : |base| ^ exponent = 1 := by rw [← abs_zpow, one, abs_one]
  have unit : |base| ≠ 1 := by
    rw [ne_eq, abs_eq zero_le_one]
    exact not_or.mpr ⟨notOne, notMinus⟩
  exact some ((zpow_eq_one_iff_right₀ (abs_nonneg base) unit).mp magnitude)

/-- A power that is computed is exact if neither operand is infinite as a double, and also beyond if
the exponent is zero, the base zero or one, or the base minus one and the exponent even. Any other
base is then answered with the zero or the one of the power function on doubles. Powers of one, of
zero and of minus one are never refused for their size. -/
theorem power_exact (limits : Limits) (machine : Float → Float) :
    (∀ (base : ℚ) (exponent : ℤ) (value : ℚ), power base exponent limits machine = .ok value →
      Measurable base exponent ∨ exponent = 0 ∨ base = 0 ∨ base = 1 ∨ base = -1 ∧ Even exponent →
      value = base ^ exponent) ∧
    (∀ (base : ℚ) (exponent : ℤ) (value : ℚ), power base exponent limits machine = .ok value →
      ¬Measurable base exponent → exponent ≠ 0 → base ∉ [0, 1, -1] →
      (value = 0 ∨ value = 1) ∧ value ≠ base ^ exponent) ∧
    (∀ exponent : ℤ, power 1 exponent limits machine = .ok 1) ∧
    (∀ exponent : ℤ, Even exponent → power (-1) exponent limits machine = .ok 1) ∧
    (∀ exponent : ℤ, Odd exponent → Measurable (-1) exponent →
      power (-1) exponent limits machine = .ok (-1)) ∧
    (∀ exponent : ℤ, 0 < exponent → power 0 exponent limits machine = .ok 0) ∧
    power 0 (0 : ℤ) limits machine = .ok 1 ∧
    (∀ exponent : ℤ, exponent < 0 → Measurable 0 exponent →
      power 0 exponent limits machine = .error .zeroToNegative) := by
  refine ⟨?_, ?_, power_one, fun _ => power_minus_even, ?_, ?_, ?_, ?_⟩
  · rintro base exponent value computed (measurable | rfl | rfl | rfl | ⟨rfl, even⟩)
    · rw [power_measurable measurable] at computed
      exact exactPower_zpow computed
    · rw [power_zero_exponent computed, zpow_zero]
    · rw [power_zero_base] at computed
      split at computed
      · exact (Except.ok.inj computed).symm
      · split at computed <;> cases computed
    · rw [power_one] at computed
      rw [← Except.ok.inj computed, one_zpow]
    · rw [power_minus_even even] at computed
      rw [← Except.ok.inj computed, even.neg_one_zpow]
  · intro base exponent value computed beyond some plain
    obtain ⟨infinite, answered⟩ := power_unmeasurable limits machine beyond
    have known := floatPower_infinite infinite (answered ▸ computed)
    obtain ⟨nonzero, notOne⟩ := zpow_proper plain some
    refine ⟨known, ?_⟩
    rcases known with rfl | rfl
    · exact nonzero.symm
    · exact notOne.symm
  · intro exponent odd measurable
    rw [power_measurable measurable, exactPower_unit (.inr rfl), odd.neg_one_zpow]
  · intro exponent positive
    rw [power_zero_base, if_pos positive.le, zero_zpow exponent positive.ne']
  · rw [power_zero_base, if_pos le_rfl, zpow_zero]
  · intro exponent negative measurable
    rw [power_zero_base, if_neg (by omega), measurable.2]
    rfl

theorem power_exact_instances :
    (power (2 / 3) (3 : ℤ) .standard (fun _ => 1.0) = .ok (8 / 27) ∧
      (8 / 27 : ℚ) = (2 / 3) ^ (3 : ℤ)) ∧
    (power 2 (-10 ^ 400 : ℤ) .standard (fun _ => 1.0) = .ok 0 ∧ ¬Measurable 2 (-10 ^ 400) ∧
      (0 : ℚ) ≠ 2 ^ (-10 ^ 400 : ℤ)) ∧
    power (-1) (10 ^ 400 : ℤ) .standard (fun _ => 1.0) = .ok 1 ∧
    power (-1) (3 : ℤ) .standard (fun _ => 1.0) = .ok (-1) ∧
    power 0 (10 ^ 400 : ℤ) .standard (fun _ => 1.0) = .ok 0 ∧
    power 0 (-1 : ℤ) .standard (fun _ => 1.0) = .error .zeroToNegative := by
  obtain ⟨exact, beyond, -, even, odd, positive, -, negative⟩ :=
    power_exact .standard (fun _ => 1.0)
  have measured : Measurable (2 / 3) 3 := ⟨by decide +kernel, rfl⟩
  have cube : power (2 / 3) (3 : ℤ) .standard (fun _ => 1.0) = .ok (8 / 27) := by decide +kernel
  have vanished : power 2 (-10 ^ 400 : ℤ) .standard (fun _ => 1.0) = .ok 0 := by decide +kernel
  have infinite : ¬Measurable 2 (-10 ^ 400) := by
    rintro ⟨-, finite⟩
    revert finite
    decide +kernel
  refine ⟨⟨cube, exact _ _ _ cube (.inl measured)⟩, ⟨vanished, infinite, ?_⟩, even _ ?_, ?_, ?_, ?_⟩
  · exact (beyond _ _ _ vanished infinite (by decide +kernel) (by decide +kernel)).2
  · exact (show Even (10 : ℤ) by decide).pow_of_ne_zero (by decide)
  · exact odd 3 (by decide) ⟨rfl, rfl⟩
  · exact positive _ (by positivity)
  · exact negative _ (by decide) ⟨rfl, rfl⟩

/-- The reciprocal of a base that is infinite as a double is answered with zero. -/
theorem reciprocal_inexact :
    power ((10 ^ 400 : ℕ) : ℚ) (-1 : ℤ) .standard = .ok 0 ∧
      (0 : ℚ) ≠ ((10 ^ 400 : ℕ) : ℚ) ^ (-1 : ℤ) := by
  refine ⟨by decide +kernel, ?_⟩
  positivity

end Arithmetic

end RationalCalc
