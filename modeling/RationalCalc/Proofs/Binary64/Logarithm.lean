import RationalCalc.Binary64.Logarithm
import RationalCalc.Proofs.Binary64.Accuracy

/-!
How far the logarithm may be off. The argument's factor near one and its power of two are read from
the encoding, and are exact. Of the series in the quotient `s` only the first term is used here: all
the polynomials together change the result by less than a hundredth, which is more than rounding does.
-/

namespace RationalCalc.Binary64

open Float.Model Float.Model.UnpackedFloat

/-! Constants and polynomials -/

theorem near_literal (x : Float) (v d : ℚ)
    (checked : isFinite x = true ∧ v - d ≤ exact x ∧ exact x ≤ v + d) : Near x v d := by
  refine ⟨checked.1, ?_⟩
  have low : (v : ℝ) - d ≤ exact x := by exact_mod_cast checked.2.1
  have high : (exact x : ℝ) ≤ v + d := by exact_mod_cast checked.2.2
  rw [value, abs_le]
  constructor <;> linarith

theorem near_literals (coefficients : List Float) (c : ℚ)
    (checked : ∀ q ∈ coefficients, isFinite q = true ∧ 0 - c ≤ exact q ∧ exact q ≤ 0 + c) :
    ∀ q ∈ coefficients, Near q 0 c := fun q member => by
  simpa using near_literal q 0 c (checked q member)

/-- A polynomial is small where its argument is, by a bound that every tail keeps, too. -/
theorem polynomial_near (coefficients : List Float) {x : Float} {c h : ℝ} (r : ℝ)
    (bounded : ∀ q ∈ coefficients, Near q 0 c) (small : Near x 0 h) (nonneg : 0 ≤ c) (short : h ≤ 1)
    (kept : c + h * r + 1 / 2 ^ 49 ≤ r) (low : r ≤ 1) : Near (polynomial coefficients x) 0 r := by
  have hNonneg : 0 ≤ h := small.nonneg
  have rNonneg : 0 ≤ r := by
    by_contra negative
    have : h * r ≥ 1 * r := by nlinarith
    norm_num at kept
    linarith
  have product : h * r ≤ 1 := by nlinarith
  -- on the coefficients; the bound of a tail is that of the whole, so one `r` serves them all
  induction coefficients with
  | nil =>
      have zero := near_exact (x := 0.0) rfl
      rw [value_zero] at zero
      exact zero.moved (by simpa using rNonneg)
  | cons first tail ih =>
      have head := bounded first List.mem_cons_self
      cases tail with
      | nil =>
          have wider : c ≤ r := by
            have : 0 ≤ h * r := mul_nonneg hNonneg rNonneg
            norm_num at kept
            linarith
          exact head.moved (by simpa using wider)
      | cons second rest =>
          have tail := ih fun q member => bounded q (List.mem_cons_of_mem _ member)
          have scaled : Near (x * polynomial (second :: rest) x) (0 * 0) (h * r + 2 / 2 ^ 52) :=
            small.mul tail 0 0 (h * r) (by simp) (by simp) (by simp) (product.trans (by norm_num))
              (by norm_num; linarith)
          have coefficient : c ≤ 1 := by
            have : 0 ≤ h * r := mul_nonneg hNonneg rNonneg
            norm_num at kept
            linarith
          have sum : Near (first + x * polynomial (second :: rest) x) (0 + 0 * 0) r :=
            head.add scaled 3 (by norm_num; linarith) (by norm_num) (by norm_num at kept ⊢; linarith)
          rw [mul_zero, add_zero] at sum
          exact sum

/-! The factor near one -/

theorem parts_above_one (bits : Nat) (finite : (parts bits).isFinite = true)
    (above : 1 ≤ partsValue (parts bits)) :
    sign bits = .positive ∧ 1023 ≤ field bits ∧ field bits ≤ 2046 ∧
      partsValue (parts bits) = (2 ^ 52 + fraction bits) * 2 ^ ((field bits : Int) - 1075) := by
  have low : (fraction bits : ℝ) < 2 ^ 52 := by exact_mod_cast fraction_lt bits
  have top := field_le bits
  revert finite above
  unfold parts
  split_ifs with full bare least none
  · exact fun finite => by cases finite
  · exact fun finite => by cases finite
  · intro _ above
    norm_num [partsValue] at above
  · intro _ above
    have tiny : (fraction bits : ℝ) * 2 ^ (-1074 : ℤ) < 1 := by
      calc (fraction bits : ℝ) * 2 ^ (-1074 : ℤ) < 2 ^ 52 * 2 ^ (-1074 : ℤ) := by gcongr
        _ ≤ 2 ^ 52 * 2 ^ (-52 : ℤ) := by gcongr <;> norm_num
        _ = 1 := by norm_num
    have size := le_abs_self (unit (sign bits) * (fraction bits * (2 : ℝ) ^ (-1074 : ℤ)))
    rw [abs_unit_mul, abs_of_nonneg (by positivity)] at size
    exact absurd (above.trans size) (not_le.mpr tiny)
  · intro _ above
    have positive : sign bits = .positive := by
      cases same : sign bits with
      | positive => rfl
      | negative =>
          rw [same] at above
          have : (0 : ℝ) ≤ (2 ^ 52 + fraction bits : Nat) * 2 ^ ((field bits : ℤ) - 1075) := by
            positivity
          simp only [partsValue, unit] at above
          linarith
    rw [positive] at above ⊢
    simp only [partsValue, unit, one_mul] at above ⊢
    push_cast at above ⊢
    refine ⟨trivial, ?_, by omega, by norm_num⟩
    by_contra small
    have below : (2 : ℝ) ^ ((field bits : ℤ) - 1075) ≤ 2 ^ (-53 : ℤ) :=
      zpow_le_zpow_right₀ one_le_two (by omega)
    have : (2 ^ 52 + fraction bits : ℝ) * 2 ^ ((field bits : ℤ) - 1075) < 1 := by
      calc (2 ^ 52 + fraction bits : ℝ) * 2 ^ ((field bits : ℤ) - 1075)
          < 2 ^ 53 * 2 ^ ((field bits : ℤ) - 1075) := by
            gcongr
            linarith
        _ ≤ 2 ^ 53 * 2 ^ (-53 : ℤ) := by gcongr
        _ = 1 := by norm_num
    linarith

theorem ordinary {x : Float} (finite : isFinite x = true) (above : 1 < value x) :
    ¬x.isNaN = true ∧ ¬(x == 0.0) = true ∧ ¬x < 0.0 ∧ ¬isInfinite x = true ∧ ¬(x == 1.0) = true := by
  refine ⟨?_, ?_, ?_, ?_, ?_⟩
  · rw [isNaN_of_isFinite finite]
    exact Bool.false_ne_true
  · rw [beq_iff finite rfl, value_zero]
    linarith
  · rw [lt_iff finite rfl, value_zero]
    linarith
  · simp only [isFinite, isInfinite, decide_eq_true_eq, beq_iff_eq] at finite ⊢
    omega
  · rw [beq_iff finite rfl, value_one]
    linarith

theorem encoded_value (f t : Nat) (short : t < 2 ^ 52) (full : 0 < f) (below : f < 2047) :
    isFinite (Float.ofBits (UInt64.ofNat (f * 2 ^ 52 + t))) = true ∧
      value (Float.ofBits (UInt64.ofNat (f * 2 ^ 52 + t))) =
        (2 ^ 52 + t) * 2 ^ ((f : Int) - 1075) := by
  have joined := parts_joined (f - 1) (2 ^ 52 + t) (by omega) (.inl (by omega)) (by
    unfold infinityBits
    omega)
  have same : (f - 1) * 2 ^ 52 + (2 ^ 52 + t) = f * 2 ^ 52 + t := by omega
  have power : ((f - 1 : Nat) : Int) - 1074 = (f : Int) - 1075 := by omega
  rw [same, power, Nat.cast_add, Nat.cast_pow, Nat.cast_ofNat] at joined
  have number : parts (f * 2 ^ 52 + t) ≠ .notANumber := fun nan => by
    rw [nan] at joined
    cases joined.1
  have read := decoded_ofBits (f * 2 ^ 52 + t) (by omega) number
  have finite : isFinite (Float.ofBits (UInt64.ofNat (f * 2 ^ 52 + t))) = true := by
    rw [← decoded_isFinite, read, joined.1]
  exact ⟨finite, by rw [value_eq _ finite, read, joined.2]⟩

/-- The argument is the factor times the power of two, and the factor is near one. -/
theorem ln_split {x : Float} (finite : isFinite x = true) (above : 2 ≤ value x) :
    ∃ k : Int, ∃ m : Float, ln x = lnReduced k m ∧ isFinite m = true ∧
      value x = 2 ^ k * value m ∧ 0 ≤ k ∧ k ≤ 1024 ∧ 7 / 10 ≤ value m ∧ value m ≤ 283 / 200 := by
  have known := decoded_isFinite x
  rw [finite] at known
  have same := value_eq x finite
  obtain ⟨positive, low, high, split⟩ := parts_above_one x.toBits.toNat known
    (by rw [← decoded, ← same]; linarith)
  have magnitude := magnitude_eq x.toBits.toNat
  have short := fraction_lt x.toBits.toNat
  rw [decoded, split] at same
  have full : fullSignificand x = (magnitudeBits x, 0) := by
    unfold fullSignificand magnitudeBits
    rw [if_neg (by rw [magnitude]; unfold fractionSpan; omega)]
  have reduced : ln x = lnReduced
      ((0 : Int) + ((magnitudeBits x + (oneBits - rootBits)) / fractionSpan : Nat) - 1023)
      (Float.ofBits (UInt64.ofNat ((magnitudeBits x + (oneBits - rootBits)) % fractionSpan +
        rootBits))) := by
    obtain ⟨nan, isZero, negative, infinite, isOne⟩ := ordinary finite (by linarith)
    unfold ln
    rw [if_neg nan, if_neg isZero, if_neg negative, if_neg infinite, if_neg isOne, full]
  have bits : magnitudeBits x = field x.toBits.toNat * 2 ^ 52 + fraction x.toBits.toNat := magnitude
  rw [bits] at reduced
  generalize field x.toBits.toNat = f at *
  generalize fraction x.toBits.toNat = t at *
  unfold oneBits rootBits fractionSpan at reduced
  -- a fraction up to that of the root of two leaves the exponent, a larger one raises it
  by_cases carried : t + (0x3ff0000000000000 - 0x3fe6a09e00000000) < 2 ^ 52
  · have quotient : (f * 2 ^ 52 + t + (0x3ff0000000000000 - 0x3fe6a09e00000000)) /
        0x10000000000000 = f := by omega
    have rest : (f * 2 ^ 52 + t + (0x3ff0000000000000 - 0x3fe6a09e00000000)) %
        0x10000000000000 + 0x3fe6a09e00000000 = 1023 * 2 ^ 52 + t := by omega
    obtain ⟨known, factor⟩ := encoded_value 1023 t short (by omega) (by omega)
    rw [quotient, rest] at reduced
    refine ⟨_, _, reduced, known, ?_, by omega, by omega, ?_, ?_⟩
    · rw [same, factor, show ((f : Int) - 1075) = (0 + f - 1023) + ((1023 : Nat) - 1075) by omega,
        zpow_add₀ two_ne_zero]
      ring
    · rw [factor]
      norm_num
      linarith [(Nat.cast_nonneg t : (0 : ℝ) ≤ t)]
    · have small : (t : ℝ) ≤ 1865450325540864 := by exact_mod_cast (by omega : t ≤ 1865450325540864)
      rw [factor]
      norm_num
      linarith
  · have quotient : (f * 2 ^ 52 + t + (0x3ff0000000000000 - 0x3fe6a09e00000000)) /
        0x10000000000000 = f + 1 := by omega
    have rest : (f * 2 ^ 52 + t + (0x3ff0000000000000 - 0x3fe6a09e00000000)) %
        0x10000000000000 + 0x3fe6a09e00000000 = 1022 * 2 ^ 52 + t := by omega
    obtain ⟨known, factor⟩ := encoded_value 1022 t short (by omega) (by omega)
    rw [quotient, rest] at reduced
    refine ⟨_, _, reduced, known, ?_, by omega, by omega, ?_, ?_⟩
    · rw [same, factor, show ((f : Int) - 1075) = (0 + (f + 1 : Nat) - 1023) + ((1022 : Nat) - 1075)
        by omega, zpow_add₀ two_ne_zero]
      ring
    · have large : (1865450325540864 : ℝ) ≤ t := by exact_mod_cast (by omega : 1865450325540864 ≤ t)
      rw [factor]
      norm_num
      linarith
    · have small : (t : ℝ) ≤ 4503599627370496 := by exact_mod_cast (by omega : t ≤ 4503599627370496)
      rw [factor]
      norm_num
      linarith

/-! The logarithm of the factor -/

theorem lnTwo_near : |value lnTwoLow + value lnTwoHigh - Real.log 2| ≤ 1 / 10 ^ 9 := by
  have checked : (287209 / 414355 - 1 / 10 ^ 10 : ℚ) ≤ exact lnTwoLow + exact lnTwoHigh ∧
      exact lnTwoLow + exact lnTwoHigh ≤ (287209 / 414355 + 1 / 10 ^ 10 : ℚ) := by
    decide +kernel
  have low : ((287209 / 414355 - 1 / 10 ^ 10 : ℚ) : ℝ) ≤ _ := Rat.cast_le.mpr checked.1
  have high : _ ≤ ((287209 / 414355 + 1 / 10 ^ 10 : ℚ) : ℝ) := Rat.cast_le.mpr checked.2
  rw [Rat.cast_add (exact lnTwoLow)] at low high
  push_cast at low high
  have near := abs_le.mp Real.log_two_near_10
  unfold value
  rw [abs_le]
  constructor <;> linarith

theorem log_first_term (M : ℝ) (low : 7 / 10 ≤ M) (high : M ≤ 283 / 200) :
    |2 * ((M - 1) / (M + 1)) - Real.log M| ≤ 27 / 2000 := by
  obtain ⟨s, quotient⟩ : ∃ s : ℝ, s = (M - 1) / (M + 1) := ⟨_, rfl⟩
  have positive : 0 < M + 1 := by linarith
  have size : |s| ≤ 3 / 17 := by
    rw [quotient, abs_le, le_div_iff₀ positive, div_le_iff₀ positive]
    constructor <;> linarith
  have bounds := abs_le.mp size
  have back : M = (1 + s) / (1 - s) := by
    rw [eq_div_iff (by linarith), quotient]
    field_simp
    ring
  have split : Real.log M = Real.log (1 + s) - Real.log (1 - s) := by
    rw [back, Real.log_div (by linarith) (by linarith)]
  have rest : |s| ^ 3 / (1 - |s|) ≤ 27 / 4000 := by
    rw [div_le_iff₀ (by linarith)]
    have cube : |s| ^ 3 ≤ (3 / 17) ^ 3 := by gcongr
    norm_num at cube
    linarith
  -- the even terms of the two series cancel
  have up := Real.abs_log_sub_add_sum_range_le (show |s| < 1 by linarith) 2
  have down := Real.abs_log_sub_add_sum_range_le (show |-s| < 1 by rw [abs_neg]; linarith) 2
  rw [abs_neg] at down
  have upBounds := abs_le.mp (up.trans rest)
  have downBounds := abs_le.mp (down.trans rest)
  norm_num [Finset.sum_range_succ] at upBounds downBounds
  rw [split, ← quotient, abs_le]
  constructor <;> linarith

theorem half_near : Near 0.5 (1 / 2) 0 := by
  have half : value 0.5 = 1 / 2 := by
    simpa [Rat.mkRat_eq_div] using value_literal 0.5 (mkRat 1 2) rfl
  rw [← half]
  exact near_exact rfl

theorem one_near : Near 1.0 1 0 := by
  rw [← value_one]
  exact near_exact rfl

theorem two_near : Near 2.0 2 0 := by
  rw [← value_two]
  exact near_exact rfl

theorem series_near {s : Float} {S : ℝ} (near : Near s S (1 / 2 ^ 49)) (size : |S| ≤ 3 / 17) :
    Near (s * s * polynomial [6.666666666666735130e-01, 2.857142874366239149e-01,
          1.818357216161805012e-01, 1.479819860511658591e-01] (s * s * (s * s)) +
        s * s * (s * s) * polynomial [3.999999999940941908e-01, 2.222219843214978396e-01,
          1.531383769920937332e-01] (s * s * (s * s))) 0 (22 / 1000) := by
  have square : Near (s * s) 0 (1 / 32) := by
    have product : Near (s * s) (S * S) (1 / 2 ^ 49) :=
      near.mul near (3 / 17) (3 / 17) 1 size size (by norm_num) (by norm_num) (by norm_num)
    refine product.moved ?_
    have : |S| * |S| ≤ 3 / 17 * (3 / 17) := by gcongr
    rw [sub_zero, abs_mul]
    norm_num at this ⊢
    linarith
  have fourth : Near (s * s * (s * s)) 0 (1 / 1000) := by
    have product := square.mul square 0 0 1 (by simp) (by simp) (by norm_num) (by norm_num)
      (le_refl _)
    exact product.moved (by norm_num)
  have odd := polynomial_near [6.666666666666735130e-01, 2.857142874366239149e-01,
      1.818357216161805012e-01, 1.479819860511658591e-01] (67 / 100)
    (near_literals _ (667 / 1000) (by decide +kernel)) fourth (by norm_num) (by norm_num)
    (by norm_num) (by norm_num)
  have even := polynomial_near [3.999999999940941908e-01, 2.222219843214978396e-01,
      1.531383769920937332e-01] (41 / 100)
    (near_literals _ (4 / 10) (by decide +kernel)) fourth (by norm_num) (by norm_num)
    (by norm_num) (by norm_num)
  have first := square.mul odd 0 0 1 (by simp) (by simp) (by norm_num) (by norm_num) (le_refl _)
  have second := fourth.mul even 0 0 1 (by simp) (by simp) (by norm_num) (by norm_num) (le_refl _)
  have sum := first.add second 1 (by norm_num) (by norm_num) (le_refl _)
  exact sum.moved (by norm_num)

/-! The pieces of the sum, by the distance of the factor from one -/

variable {f : Float} {F : ℝ}

theorem half_square_near (near : Near f F (1 / 2 ^ 50)) (size : |F| ≤ 83 / 200) :
    Near (0.5 * f * f) (1 / 2 * F * F) (1 / 2 ^ 49) ∧ |1 / 2 * F * F| ≤ 9 / 100 := by
  have halved : Near (0.5 * f) (1 / 2 * F) (1 / 2 ^ 50) :=
    half_near.mul near (1 / 2) (1 / 2) 1 (by norm_num) (by linarith) (by norm_num) (by norm_num)
      (by norm_num)
  have halfSize : |1 / 2 * F| ≤ 83 / 400 := by
    rw [abs_mul, abs_of_pos (by norm_num : (0 : ℝ) < 1 / 2)]
    linarith
  constructor
  · exact halved.mul near (83 / 400) (83 / 200) 1 halfSize size (by norm_num) (by norm_num)
      (by norm_num)
  · rw [abs_mul]
    calc |1 / 2 * F| * |F| ≤ 83 / 400 * (83 / 200) := by gcongr
      _ ≤ 9 / 100 := by norm_num

theorem factor_quotient_near (near : Near f F (1 / 2 ^ 50)) (low : -(3 / 10) ≤ F)
    (high : F ≤ 83 / 200) :
    Near (f / (2.0 + f)) (F / (2 + F)) (1 / 2 ^ 49) ∧ |F / (2 + F)| ≤ 3 / 17 := by
  have positive : 0 < 2 + F := by linarith
  have divisor : Near (2.0 + f) (2 + F) (1 / 2 ^ 49) :=
    two_near.add near 3 (by rw [abs_of_pos positive]; norm_num; linarith) (by norm_num)
      (by norm_num)
  have quotient : |F / (2 + F)| ≤ 3 / 17 := by
    rw [abs_le, le_div_iff₀ positive, div_le_iff₀ positive]
    constructor <;> linarith
  refine ⟨?_, quotient⟩
  exact near.div divisor (17 / 10) (3 / 17) 1 (by norm_num) (by rw [abs_of_pos positive]; linarith)
    quotient (by norm_num) (by norm_num) (by norm_num)

theorem scaled_lnTwo_near {k : Int} (least : 0 ≤ k) (most : k ≤ 1024) :
    (Near (nearestInt k * lnTwoLow) (k * value lnTwoLow) (1 / 2 ^ 50) ∧
        |k * value lnTwoLow| ≤ 1 / 10 ^ 5) ∧
      Near (nearestInt k * lnTwoHigh) (k * value lnTwoHigh) (1 / 2 ^ 40) ∧
        |k * value lnTwoHigh| ≤ 720 := by
  have nonneg : (0 : ℝ) ≤ k := by exact_mod_cast least
  have short : (k : ℝ) ≤ 1024 := by exact_mod_cast most
  have size : |(k : ℝ)| ≤ 1024 := by rwa [abs_of_nonneg nonneg]
  have scale : Near (nearestInt k) k (1 / 2 ^ 41) :=
    (nearestInt_near k 1024 size (by norm_num)).moved (by norm_num)
  have low := (near_literal lnTwoLow 0 (1 / 10 ^ 9) (by decide +kernel)).2
  have high := (near_literal lnTwoHigh 0 (7 / 10) (by decide +kernel)).2
  rw [Rat.cast_zero, sub_zero] at low high
  push_cast at low high
  refine ⟨⟨?_, ?_⟩, ?_, ?_⟩
  · exact scale.mul (near_exact rfl) 1024 (1 / 10 ^ 9) 1 size low (by norm_num) (by norm_num)
      (by norm_num)
  · rw [abs_mul]
    calc |(k : ℝ)| * |value lnTwoLow| ≤ 1024 * (1 / 10 ^ 9) := by gcongr
      _ ≤ 1 / 10 ^ 5 := by norm_num
  · exact scale.mul (near_exact rfl) 1024 (7 / 10) 1000 size high (by norm_num) (by norm_num)
      (by norm_num)
  · rw [abs_mul]
    calc |(k : ℝ)| * |value lnTwoHigh| ≤ 1024 * (7 / 10) := by gcongr
      _ ≤ 720 := by norm_num

theorem lnReduced_near {k : Int} {m : Float} (finite : isFinite m = true) (least : 0 ≤ k)
    (most : k ≤ 1024) (low : 7 / 10 ≤ value m) (high : value m ≤ 283 / 200) :
    Near (lnReduced k m) (k * Real.log 2 + 2 * ((value m - 1) / (value m + 1))) (1 / 240) := by
  obtain ⟨F, distance⟩ : ∃ F : ℝ, F = value m - 1 := ⟨_, rfl⟩
  have size : |F| ≤ 83 / 200 := by
    rw [distance, abs_le]
    constructor <;> linarith
  have bounds := abs_le.mp size
  have near : Near (m - 1.0) F (1 / 2 ^ 50) := by
    rw [distance]
    exact (near_exact finite).sub one_near 1 (by rw [← distance]; linarith) (by norm_num)
      (by norm_num)
  have meaning : (value m - 1) / (value m + 1) = F / (2 + F) := by
    rw [distance]
    congr 1
    ring
  rw [meaning]
  unfold lnReduced
  dsimp only
  generalize m - 1.0 = f at *
  obtain ⟨square, squareSize⟩ := half_square_near near size
  obtain ⟨quotient, quotientSize⟩ :=
    factor_quotient_near near (by linarith) (by linarith)
  obtain ⟨⟨lowPart, lowSize⟩, highPart, highSize⟩ := scaled_lnTwo_near least most
  have lnTwo := lnTwo_near
  have series := series_near quotient quotientSize
  generalize f / (2.0 + f) = s at *
  -- from here on the sum is followed term by term, each partial sum with a bound of its own
  have inner := square.add series 1 (by rw [add_zero]; norm_num at squareSize ⊢; linarith)
    (by norm_num) (le_refl _)
  have scaled : Near _ (F / (2 + F) * (1 / 2 * F * F + 0)) (39 / 10000) :=
    quotient.mul inner (3 / 17) (9 / 100) 1 quotientSize (by rwa [add_zero]) (by norm_num)
      (by norm_num) (by norm_num)
  have scaledSize : |F / (2 + F) * (1 / 2 * F * F + 0)| ≤ 2 / 100 := by
    rw [add_zero, abs_mul]
    calc |F / (2 + F)| * |1 / 2 * F * F| ≤ 3 / 17 * (9 / 100) := by gcongr
      _ ≤ 2 / 100 := by norm_num
  have identity : F / (2 + F) * (1 / 2 * F * F + 0) - 1 / 2 * F * F + F = 2 * (F / (2 + F)) := by
    have positive : 0 < 2 + F := by linarith
    field_simp
    ring
  rw [← identity]
  generalize F / (2 + F) * (1 / 2 * F * F + 0) = product at *
  rw [abs_le] at scaledSize squareSize lowSize highSize
  have sumSize : |product + k * value lnTwoLow| ≤ 1 / 2 := by
    rw [abs_le]
    constructor <;> linarith
  have lessSize : |product + k * value lnTwoLow - 1 / 2 * F * F| ≤ 1 / 2 := by
    rw [abs_le]
    constructor <;> linarith
  have moreSize : |product + k * value lnTwoLow - 1 / 2 * F * F + F| ≤ 1 := by
    rw [abs_le]
    constructor <;> linarith
  have totalSize :
      |product + k * value lnTwoLow - 1 / 2 * F * F + F + k * value lnTwoHigh| ≤ 800 := by
    rw [abs_le]
    constructor <;> linarith
  have sum : Near _ _ (391 / 100000) :=
    scaled.add lowPart 1 (by norm_num at sumSize ⊢; linarith) (by norm_num) (by norm_num)
  have less : Near _ _ (392 / 100000) :=
    sum.sub square 1 (by norm_num at lessSize ⊢; linarith) (by norm_num) (by norm_num)
  have more : Near _ _ (393 / 100000) :=
    less.add near 2 (by norm_num at moreSize ⊢; linarith) (by norm_num) (by norm_num)
  have total : Near _ _ (394 / 100000) :=
    more.add highPart 1000 (by norm_num at totalSize ⊢; linarith) (by norm_num) (by norm_num)
  refine total.moved ?_
  have short : |(k : ℝ)| ≤ 1024 := by
    rw [abs_of_nonneg (by exact_mod_cast least)]
    exact_mod_cast most
  calc |product + k * value lnTwoLow - 1 / 2 * F * F + F + k * value lnTwoHigh -
          (k * Real.log 2 + (product - 1 / 2 * F * F + F))| + 394 / 100000
      = |k * (value lnTwoLow + value lnTwoHigh - Real.log 2)| + 394 / 100000 := by
        congr 2
        ring
    _ ≤ 1024 * (1 / 10 ^ 9) + 394 / 100000 := by
        rw [abs_mul]
        gcongr
    _ ≤ 1 / 240 := by norm_num

theorem ln_near {x : Float} (finite : isFinite x = true) (above : 2 ≤ value x) :
    Near (ln x) (Real.log (value x)) (9 / 500) := by
  obtain ⟨k, m, split, known, same, least, most, low, high⟩ := ln_split finite above
  have first := log_first_term (value m) low high
  have power : Real.log (value x) = k * Real.log 2 + Real.log (value m) := by
    rw [same, Real.log_mul (by positivity) (by linarith), Real.log_zpow]
  rw [split, power]
  refine (lnReduced_near known least most low high).moved ?_
  rw [add_sub_add_left_eq_sub]
  linarith

end RationalCalc.Binary64
