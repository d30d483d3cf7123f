import Mathlib
import RationalCalc.Proofs.Powers

/-!
Powers are put together without reducing them. Numerator and denominator are raised apart, and
exchanged for a negative exponent, where a sign has to move up. From a base in lowest terms this
gives lowest terms again, so what is put together is the rational that is computed. An exponent and
its opposite are refused alike, and otherwise give values that are reciprocal.
-/

namespace RationalCalc

/-- A numerator over a denominator as they are computed: no common factor is taken out. -/
structure Fraction where
  num : Int
  den : Int
  deriving DecidableEq

namespace Fraction

structure Lowest (fraction : Fraction) : Prop where
  positive : 0 < fraction.den
  coprime : fraction.num.natAbs.Coprime fraction.den.natAbs

def value (fraction : Fraction) : ℚ :=
  fraction.num / fraction.den

def ofRat (value : ℚ) : Fraction :=
  ⟨value.num, value.den⟩

def pow (fraction : Fraction) (exponent : Nat) : Fraction :=
  ⟨fraction.num ^ exponent, fraction.den ^ exponent⟩

def reciprocal (fraction : Fraction) : Fraction :=
  if fraction.num < 0 then ⟨-fraction.den, -fraction.num⟩ else ⟨fraction.den, fraction.num⟩

/-! Exact powers, part by part -/

def zeroPower (exponent : Int) : Except Fault Fraction :=
  if exponent < 0 then .error .zeroToNegative
  else if exponent = 0 then .ok ⟨1, 1⟩
  else .ok ⟨0, 1⟩

def unitPower (base : Fraction) (exponent : Int) : Fraction :=
  if 0 < base.num || exponent % 2 = 0 then ⟨1, 1⟩ else ⟨-1, 1⟩

def raised (base : Fraction) (exponent : Int) : Fraction :=
  if exponent < 0 then (base.pow exponent.natAbs).reciprocal else base.pow exponent.natAbs

def powerDigits (base : Fraction) (exponent : Int) (machine : Float → Float) : Float :=
  Binary64.larger (Estimate.log10Abs base.num machine) (Estimate.log10Abs base.den machine) *
    Binary64.nearestInt exponent.natAbs

/-- The tests and the values of an exact power, none of which reduces anything. -/
def exactPower (base : Fraction) (exponent : Int) (limits : Limits) (machine : Float → Float) :
    Except Fault Fraction :=
  if base.num = 0 then zeroPower exponent
  else if base.den = 1 && base.num.natAbs = 1 then .ok (unitPower base exponent)
  else if Estimate.exceeds (powerDigits base exponent machine) limits.powerDigits then
    .error .tooBig
  else if Arithmetic.mostFactors < exponent.natAbs then .error .tooBig
  else .ok (raised base exponent)

/-! Lowest terms -/

variable {fraction base : Fraction}

theorem lowest_ofRat (value : ℚ) : (ofRat value).Lowest where
  positive := Int.natCast_pos.mpr value.den_pos
  coprime := value.reduced

theorem ofRat_value (lowest : fraction.Lowest) : ofRat fraction.value = fraction := by
  have num := Rat.num_div_eq_of_coprime lowest.positive lowest.coprime
  have den := Rat.den_div_eq_of_coprime lowest.positive lowest.coprime
  simp only [ofRat, value, num, den]

theorem value_ofRat (value : ℚ) : (ofRat value).value = value :=
  Rat.num_div_den value

theorem lowest_pow (lowest : fraction.Lowest) (exponent : Nat) : (fraction.pow exponent).Lowest where
  positive := pow_pos lowest.positive exponent
  coprime := by
    simpa only [pow, Int.natAbs_pow] using Nat.Coprime.pow exponent exponent lowest.coprime

theorem lowest_reciprocal (lowest : fraction.Lowest) (some : fraction.num ≠ 0) :
    fraction.reciprocal.Lowest := by
  have exchanged := lowest.coprime.symm
  unfold reciprocal
  rcases some.lt_or_gt with negative | positive
  · rw [if_pos negative]
    exact ⟨neg_pos.mpr negative, by simpa using exchanged⟩
  · rw [if_neg positive.not_gt]
    exact ⟨positive, exchanged⟩

theorem value_pow (fraction : Fraction) (exponent : Nat) :
    (fraction.pow exponent).value = fraction.value ^ exponent := by
  simp [value, pow, div_pow]

theorem value_reciprocal (fraction : Fraction) : fraction.reciprocal.value = fraction.value⁻¹ := by
  unfold reciprocal
  split <;> simp [value, neg_div_neg_eq]

theorem lowest_raised (lowest : base.Lowest) (some : base.num ≠ 0) (exponent : Int) :
    (base.raised exponent).Lowest := by
  have power := lowest_pow lowest exponent.natAbs
  unfold raised
  split
  · exact lowest_reciprocal power (pow_ne_zero _ some)
  · exact power

theorem value_raised (base : Fraction) (exponent : Int) :
    (base.raised exponent).value = Arithmetic.raised base.value exponent := by
  unfold raised Arithmetic.raised
  split
  · rw [value_reciprocal, value_pow]
  · exact value_pow base exponent.natAbs

theorem zeroPower_ofRat (exponent : Int) :
    zeroPower exponent = (Arithmetic.zeroPower exponent).map ofRat := by
  unfold zeroPower Arithmetic.zeroPower
  split
  · rfl
  · split <;> rfl

theorem unit_iff (value : ℚ) :
    (ofRat value).den = 1 ∧ (ofRat value).num.natAbs = 1 ↔ value = 1 ∨ value = -1 := by
  constructor
  · rintro ⟨den, num⟩
    have whole : value = value.num := by
      have parts := Rat.num_div_den value
      have one : value.den = 1 := by simpa [ofRat] using den
      rw [one, Nat.cast_one, div_one] at parts
      exact parts.symm
    rcases Int.natAbs_eq_iff.mp num with one | minus
    · exact .inl (by rw [whole]; exact_mod_cast one)
    · exact .inr (by rw [whole]; exact_mod_cast minus)
  · rintro (rfl | rfl) <;> exact ⟨rfl, rfl⟩

theorem unitPower_ofRat {value : ℚ} (unit : value = 1 ∨ value = -1) (exponent : Int) :
    (ofRat value).unitPower exponent = ofRat (Arithmetic.unitPower value exponent) := by
  rcases unit with rfl | rfl
  · rfl
  · unfold unitPower Arithmetic.unitPower
    by_cases even : exponent % 2 = 0
    · simp [even]; rfl
    · simp [even]; rfl

theorem raised_ofRat {value : ℚ} (some : value ≠ 0) (exponent : Int) :
    (ofRat value).raised exponent = ofRat (Arithmetic.raised value exponent) := by
  have lowest := lowest_raised (lowest_ofRat value) (Rat.num_ne_zero.mpr some) exponent
  rw [← ofRat_value lowest, value_raised, value_ofRat]

theorem exactPower_ofRat (value : ℚ) (exponent : Int) (limits : Limits) (machine : Float → Float) :
    (ofRat value).exactPower exponent limits machine =
      (Arithmetic.exactPower value exponent limits machine).map ofRat := by
  have same : (ofRat value).num = 0 ↔ value = 0 := Rat.num_eq_zero
  unfold exactPower Arithmetic.exactPower
  by_cases zero : value = 0
  · rw [if_pos (same.mpr zero), if_pos zero]
    exact zeroPower_ofRat exponent
  rw [if_neg (same.not.mpr zero), if_neg zero]
  by_cases unit : value = 1 ∨ value = -1
  · have parts : ((ofRat value).den = 1 && (ofRat value).num.natAbs = 1) = true := by
      simpa using (unit_iff value).mpr unit
    have whole : (value = 1 || value = -1) = true := by simpa using unit
    rw [if_pos parts, if_pos whole, unitPower_ofRat unit]
    rfl
  · have parts : ¬((ofRat value).den = 1 && (ofRat value).num.natAbs = 1) = true := by
      simpa using (unit_iff value).not.mpr unit
    have whole : ¬(value = 1 || value = -1) = true := by simpa using unit
    have digits : (ofRat value).powerDigits exponent machine =
        Estimate.powerDigits value exponent machine := rfl
    rw [if_neg parts, if_neg whole, digits, raised_ofRat zero]
    split
    · rfl
    · split <;> rfl

theorem exactPower_value (lowest : base.Lowest) (exponent : Int) (limits : Limits)
    (machine : Float → Float) : base.exactPower exponent limits machine =
      (Arithmetic.exactPower base.value exponent limits machine).map ofRat := by
  rw [← exactPower_ofRat, ofRat_value lowest]

theorem lowest_map {outcome : Except Fault ℚ} {built : Fraction}
    (computed : outcome.map ofRat = .ok built) : built.Lowest := by
  cases outcome with
  | error fault => cases computed
  | ok value =>
      cases computed
      exact lowest_ofRat value

end Fraction

namespace Arithmetic

open Binary64 Fraction

variable {limits : Limits} {machine : Float → Float} {base : ℚ} {exponent : ℤ}

/-- A base with exponents of both signs is refused for both or for none. -/
theorem exactPower_neg (some : base ≠ 0) (exponent : ℤ) (limits : Limits)
    (machine : Float → Float) : exactPower base (-exponent) limits machine =
      (exactPower base exponent limits machine).map (·⁻¹) := by
  by_cases unit : base = 1 ∨ base = -1
  · rw [exactPower_unit unit, exactPower_unit unit, zpow_neg]
    rfl
  · have plain : ¬(base = 1 || base = -1) = true := by simpa using unit
    have digits : Estimate.powerDigits base (-exponent) machine =
        Estimate.powerDigits base exponent machine := by
      rw [Estimate.powerDigits, Int.natAbs_neg, Estimate.powerDigits]
    unfold exactPower
    rw [if_neg some, if_neg plain, if_neg some, if_neg plain, digits, Int.natAbs_neg, raised_zpow,
      raised_zpow, zpow_neg]
    split
    · rfl
    · split <;> rfl

theorem Measurable.neg (measurable : Measurable base exponent) : Measurable base (-exponent) := by
  refine ⟨measurable.1, ?_⟩
  rw [Int.cast_neg, nearest_neg_isInfinite]
  exact measurable.2

theorem map_inv_iff (outcome : Except Fault ℚ) (value : ℚ) :
    outcome = .ok value ↔ outcome.map (·⁻¹) = .ok (1 / value) := by
  cases outcome with
  | error fault => constructor <;> rintro ⟨⟩
  | ok other => simp [Except.map]

theorem map_error_iff (outcome : Except Fault α) (change : α → β) (fault : Fault) :
    outcome.map change = .error fault ↔ outcome = .error fault := by
  cases outcome with
  | error other => simp [Except.map]
  | ok value => constructor <;> rintro ⟨⟩

theorem exactPower_fault {fault : Fault}
    (failed : exactPower base exponent limits machine = .error fault) :
    fault = .zeroToNegative ∧ base = 0 ∧ exponent < 0 ∨ fault = .tooBig ∧ base ≠ 0 := by
  rcases exactPower_cases base exponent limits machine with
    ⟨none, negative, known⟩ | ⟨some, known⟩ | ⟨-, known⟩
  · cases known.symm.trans failed
    exact .inl ⟨rfl, none, negative⟩
  · cases known.symm.trans failed
    exact .inr ⟨rfl, some⟩
  · cases known.symm.trans failed

theorem exactPower_zeroDivision (base : ℚ) (exponent : ℤ) (limits : Limits)
    (machine : Float → Float) :
    (∃ fault, exactPower base exponent limits machine = .error fault ∧
      fault.kind = .divisionByZero) ↔ base = 0 ∧ exponent < 0 := by
  constructor
  · rintro ⟨fault, failed, kind⟩
    rcases exactPower_fault failed with ⟨-, zero⟩ | ⟨rfl, -⟩
    · exact zero
    · cases kind
  · rintro ⟨rfl, negative⟩
    exact ⟨.zeroToNegative, by rw [exactPower_zero, if_pos negative], rfl⟩

/-- An exact power of a base in lowest terms is too large, or a negative power of zero, or is put
together in lowest terms as it stands. Of a base other than zero the powers with an exponent and with
its opposite are refused alike, or both are computed and are reciprocal. -/
theorem power_lowest_terms (limits : Limits) (machine : Float → Float) (base : Fraction)
    (exponent : ℤ) (lowest : base.Lowest) (measurable : Measurable base.value exponent) :
    (∀ fault, power base.value exponent limits machine = .error fault →
      fault.kind = .resultTooBig ∨ fault.kind = .divisionByZero) ∧
    ((∃ fault, power base.value exponent limits machine = .error fault ∧
      fault.kind = .divisionByZero) ↔ base.num = 0 ∧ exponent < 0) ∧
    base.exactPower exponent limits machine =
      (power base.value exponent limits machine).map ofRat ∧
    (∀ built, base.exactPower exponent limits machine = .ok built → built.Lowest) ∧
    (base.num ≠ 0 →
      (∀ value, power base.value exponent limits machine = .ok value ↔
        power base.value (-exponent : ℤ) limits machine = .ok (1 / value)) ∧
      (power base.value exponent limits machine = .error .tooBig ↔
        power base.value (-exponent : ℤ) limits machine = .error .tooBig)) := by
  have parts := exactPower_value lowest exponent limits machine
  have zero : base.num = 0 ↔ base.value = 0 := by
    conv_lhs => rw [← ofRat_value lowest]
    exact Rat.num_eq_zero
  rw [power_measurable measurable, power_measurable measurable.neg, zero]
  refine ⟨?_, exactPower_zeroDivision .., parts, ?_, ?_⟩
  · intro fault failed
    rcases exactPower_fault failed with ⟨rfl, -⟩ | ⟨rfl, -⟩
    · exact .inr rfl
    · exact .inl rfl
  · intro built computed
    rw [parts] at computed
    exact lowest_map computed
  · intro some
    rw [exactPower_neg (zero.not.mp some)]
    exact ⟨map_inv_iff _, (map_error_iff _ _ _).symm⟩

theorem power_lowest_terms_tenths :
    let machine : Float → Float := fun x => if x == 10.0 then 1.0 else 0.47712125471966244
    (Fraction.Lowest ⟨-3, 10⟩ ∧ Measurable (Fraction.value ⟨-3, 10⟩) (-3) ∧
      Fraction.exactPower ⟨-3, 10⟩ (-3) .standard machine = .ok ⟨-1000, 27⟩ ∧
      Fraction.Lowest ⟨-1000, 27⟩ ∧
      power (Fraction.value ⟨-3, 10⟩) (-(-3) : ℤ) .standard machine = .ok (1 / (-1000 / 27))) ∧
    Fraction.Lowest ⟨0, 1⟩ ∧ Measurable (Fraction.value ⟨0, 1⟩) (-1) ∧
      ∃ fault, power (Fraction.value ⟨0, 1⟩) (-1 : ℤ) .standard machine = .error fault ∧
        fault.kind = .divisionByZero := by
  intro machine
  have tenths : Fraction.Lowest ⟨-3, 10⟩ := ⟨by decide, by decide⟩
  have zero : Fraction.Lowest ⟨0, 1⟩ := ⟨by decide, by decide⟩
  have measured : Measurable (Fraction.value ⟨-3, 10⟩) (-3) := ⟨by decide +kernel, rfl⟩
  have measured' : Measurable (Fraction.value ⟨0, 1⟩) (-1) := ⟨by decide +kernel, rfl⟩
  have built : Fraction.exactPower ⟨-3, 10⟩ (-3) .standard machine = .ok ⟨-1000, 27⟩ := by
    decide +kernel
  have computed : power (Fraction.value ⟨-3, 10⟩) (-3 : ℤ) .standard machine = .ok (-1000 / 27) := by
    decide +kernel
  obtain ⟨-, -, -, canonical, opposite⟩ :=
    power_lowest_terms .standard machine ⟨-3, 10⟩ (-3) tenths measured
  obtain ⟨-, refused, -⟩ := power_lowest_terms .standard machine ⟨0, 1⟩ (-1) zero measured'
  exact ⟨⟨tenths, measured, built, canonical _ built,
    ((opposite (by decide)).1 _).mp computed⟩, zero, measured', refused.mpr ⟨rfl, by decide⟩⟩

end Arithmetic

end RationalCalc
