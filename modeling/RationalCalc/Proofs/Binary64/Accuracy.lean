import RationalCalc.Proofs.Binary64.Nearest

/-!
Two ways to follow a computation on doubles. A double that stays finite is near a real number, and
the errors of the operands and of the rounding add up. One that may overflow is at least a real
number, which an infinity is, too; there only what bounds from below is kept.
-/

namespace RationalCalc.Binary64

open Float.Model Float.Model.UnpackedFloat

/-- Finite, and off by no more than `d`. -/
def Near (x : Float) (v d : ℝ) : Prop :=
  isFinite x = true ∧ |value x - v| ≤ d

/-- A number, perhaps infinite, that is no less than `t`. -/
def AtLeast (x : Float) (t : ℝ) : Prop :=
  x.isNaN = false ∧ (t : EReal) ≤ level x

variable {x a b : Float} {u v w d e r s t c : ℝ}

/-! Near -/

theorem near_exact (finite : isFinite x = true) : Near x (value x) 0 :=
  ⟨finite, by simp⟩

theorem Near.nonneg (near : Near x v d) : 0 ≤ d :=
  (abs_nonneg _).trans near.2

theorem Near.moved (near : Near x v d) (fits : |v - w| + d ≤ e) : Near x w e := by
  refine ⟨near.1, ?_⟩
  calc |value x - w| ≤ |value x - v| + |v - w| := abs_sub_le _ _ _
    _ ≤ e := by linarith [near.2]

theorem slack_le (size : |v| ≤ s) : slack v ≤ (s + 1) / 2 ^ 52 := by
  have tiny : (2 : ℝ) ^ (-1074 : ℤ) ≤ 2 ^ (-52 : ℤ) := zpow_le_zpow_right₀ one_le_two (by norm_num)
  have power : (2 : ℝ) ^ (-52 : ℤ) = 1 / 2 ^ 52 := by norm_num
  unfold slack
  rw [add_div]
  rw [power] at tiny
  gcongr

theorem near_of_rounds (rounds : Rounds x c) (close : |c - w| ≤ d) (size : |w| + d ≤ s)
    (bounded : s ≤ 2 ^ 100) (fits : d + (s + 1) / 2 ^ 52 ≤ r) : Near x w r := by
  have small : |c| ≤ s := by
    have : |c| ≤ |c - w| + |w| := by simpa using abs_add_le (c - w) w
    linarith
  have far : (2 : ℝ) ^ 100 < 2 ^ 1023 := pow_lt_pow_right₀ one_lt_two (by norm_num)
  rcases rounds with ⟨finite, near⟩ | ⟨large, -⟩ | ⟨large, -⟩
  · refine ⟨finite, ?_⟩
    calc |value x - w| ≤ |value x - c| + |c - w| := abs_sub_le _ _ _
      _ ≤ (s + 1) / 2 ^ 52 + d := add_le_add (near.trans (slack_le small)) close
      _ ≤ r := by linarith
  · exact absurd (large.trans ((le_abs_self c).trans (small.trans bounded))) (not_le.mpr far)
  · exact absurd ((le_neg_of_le_neg large).trans ((neg_le_abs c).trans (small.trans bounded)))
      (not_le.mpr far)

theorem nearestInt_near (n : Int) (s : ℝ) (size : |(n : ℝ)| ≤ s) (bounded : s ≤ 2 ^ 100) :
    Near (nearestInt n) n ((s + 1) / 2 ^ 52) := by
  have still : |(n : ℝ) - n| ≤ 0 := by simp
  exact near_of_rounds (nearestInt_rounds n) still (by rwa [add_zero]) bounded (by rw [zero_add])

theorem Near.add (first : Near a u d) (second : Near b v e) (s : ℝ) (size : |u + v| + (d + e) ≤ s)
    (bounded : s ≤ 2 ^ 100) (fits : d + e + (s + 1) / 2 ^ 52 ≤ r) : Near (a + b) (u + v) r := by
  refine near_of_rounds (add_rounds first.1 second.1) ?_ size bounded fits
  calc |value a + value b - (u + v)| = |(value a - u) + (value b - v)| := by ring_nf
    _ ≤ d + e := (abs_add_le _ _).trans (add_le_add first.2 second.2)

theorem Near.sub (first : Near a u d) (second : Near b v e) (s : ℝ) (size : |u - v| + (d + e) ≤ s)
    (bounded : s ≤ 2 ^ 100) (fits : d + e + (s + 1) / 2 ^ 52 ≤ r) : Near (a - b) (u - v) r := by
  refine near_of_rounds (sub_rounds first.1 second.1) ?_ size bounded fits
  calc |value a - value b - (u - v)| = |(value a - u) - (value b - v)| := by ring_nf
    _ ≤ d + e := (abs_sub _ _).trans (add_le_add first.2 second.2)

theorem Near.mul (first : Near a u d) (second : Near b v e) (U V s : ℝ) (left : |u| ≤ U)
    (right : |v| ≤ V) (size : U * V + (U * e + V * d + d * e) ≤ s) (bounded : s ≤ 2 ^ 100)
    (fits : U * e + V * d + d * e + (s + 1) / 2 ^ 52 ≤ r) : Near (a * b) (u * v) r := by
  have wide : 0 ≤ U := (abs_nonneg u).trans left
  have wide' : 0 ≤ V := (abs_nonneg v).trans right
  refine near_of_rounds (mul_rounds first.1 second.1) ?_ (le_trans ?_ size) bounded fits
  · calc |value a * value b - u * v|
        = |u * (value b - v) + v * (value a - u) + (value a - u) * (value b - v)| := by ring_nf
      _ ≤ |u * (value b - v)| + |v * (value a - u)| + |(value a - u) * (value b - v)| :=
        abs_add_three _ _ _
      _ = |u| * |value b - v| + |v| * |value a - u| + |value a - u| * |value b - v| := by
        rw [abs_mul, abs_mul, abs_mul]
      _ ≤ U * e + V * d + d * e := by
        have := first.nonneg
        have := second.nonneg
        have := first.2
        have := second.2
        gcongr
  · rw [abs_mul]
    gcongr

theorem Near.div (first : Near a u d) (second : Near b v e) (V Q s : ℝ) (apart : e < V)
    (divisor : V ≤ |v|) (quotient : |u / v| ≤ Q)
    (size : Q + (d + Q * e) / (V - e) ≤ s) (bounded : s ≤ 2 ^ 100)
    (fits : (d + Q * e) / (V - e) + (s + 1) / 2 ^ 52 ≤ r) : Near (a / b) (u / v) r := by
  -- the divisor that is used is not far below the exact one
  have away : V - e ≤ |value b| := by
    have : |v| ≤ |value b| + |value b - v| := by
      have := abs_sub_abs_le_abs_sub v (value b)
      rw [abs_sub_comm] at this
      linarith
    have := second.2
    linarith
  have positive : 0 < V - e := sub_pos.mpr apart
  have some : value b ≠ 0 := abs_pos.mp (positive.trans_le away)
  have some' : v ≠ 0 := abs_pos.mp ((second.nonneg.trans_lt apart).trans_le divisor)
  have nonneg : 0 ≤ d + Q * e :=
    add_nonneg first.nonneg (mul_nonneg ((abs_nonneg _).trans quotient) second.nonneg)
  refine near_of_rounds (div_rounds first.1 second.1 some) ?_ (le_trans ?_ size) bounded fits
  · calc |value a / value b - u / v|
        = |(value a - u) - u / v * (value b - v)| / |value b| := by
          rw [← abs_div]
          congr 1
          field_simp
          ring
      _ ≤ (|value a - u| + |u / v| * |value b - v|) / |value b| := by
        gcongr
        rw [← abs_mul]
        exact abs_sub _ _
      _ ≤ (d + Q * e) / (V - e) := by
        have := first.2
        have := second.2
        have := second.nonneg
        have := (abs_nonneg _).trans quotient
        gcongr
  · gcongr

/-! At least -/

theorem infinite_atLeast (infinite : decoded x = .infinity .positive) (t : ℝ) : AtLeast x t := by
  refine ⟨?_, ?_⟩
  · by_contra nan
    rw [(isNaN_iff x).mp (by simpa using nan)] at infinite
    cases infinite
  · rw [level, infinite]
    exact le_top

theorem finite_atLeast (finite : isFinite x = true) : AtLeast x t ↔ t ≤ value x := by
  unfold AtLeast
  rw [level_finite x finite, EReal.coe_le_coe_iff]
  exact and_iff_right (isNaN_of_isFinite finite)

theorem Near.atLeast (near : Near x v d) (fits : t ≤ v - d) : AtLeast x t := by
  rw [finite_atLeast near.1]
  linarith [(abs_le.mp near.2).1]

theorem atLeast_cases (known : AtLeast x t) :
    isFinite x = true ∧ t ≤ value x ∨ decoded x = .infinity .positive := by
  by_cases finite : isFinite x = true
  · exact .inl ⟨finite, (finite_atLeast finite).mp known⟩
  -- what is neither finite nor the positive infinity is no number or below every bound
  · right
    rw [← decoded_isFinite] at finite
    obtain ⟨number, above⟩ := known
    rw [level] at above
    cases same : decoded x with
    | notANumber =>
        rw [(isNaN_iff x).mpr same] at number
        cases number
    | infinity s =>
        cases s with
        | positive => rfl
        | negative =>
            rw [same] at above
            exact absurd (le_bot_iff.mp above) (EReal.coe_ne_bot t)
    | zero s => rw [same] at finite; exact absurd rfl finite
    | finite s m e positive => rw [same] at finite; exact absurd rfl finite

theorem AtLeast.mono (known : AtLeast x t) (below : r ≤ t) : AtLeast x r :=
  ⟨known.1, (EReal.coe_le_coe_iff.mpr below).trans known.2⟩

theorem atLeast_of_rounds (rounds : Rounds x c) (above : t ≤ c) (nonneg : 0 ≤ t)
    (fits : r + (t + 1) / 2 ^ 52 ≤ t) : AtLeast x r := by
  rcases rounds with ⟨finite, near⟩ | ⟨-, infinite⟩ | ⟨large, -⟩
  · rw [finite_atLeast finite]
    have size := near.trans (slack_le (abs_of_nonneg (nonneg.trans above)).le)
    have low := (abs_le.mp size).1
    linarith
  · exact infinite_atLeast infinite r
  · have far : -(2 : ℝ) ^ 1023 < 0 := neg_neg_of_pos (by positivity)
    exact absurd (large.trans_lt far) (not_lt.mpr (nonneg.trans above))

theorem infinite_of_packed (packed : x.toModel = Float.Model.pack (.infinity .positive)) (t : ℝ) :
    AtLeast x t := by
  refine infinite_atLeast ?_ t
  rw [← unpack_eq, packed]
  exact unpack_infinity .positive

theorem AtLeast.add (first : AtLeast a s) (second : isFinite b = true) (low : t ≤ value b)
    (nonneg : 0 ≤ s + t) (fits : r + (s + t + 1) / 2 ^ 52 ≤ s + t) : AtLeast (a + b) r := by
  rcases atLeast_cases first with ⟨finite, above⟩ | infinite
  · exact atLeast_of_rounds (add_rounds finite second) (add_le_add above low) nonneg fits
  · have packed : (a + b).toModel =
        Float.Model.pack (UnpackedFloat.add .binary64 (.infinity .positive) (decoded b)) := by
      rw [← infinite, ← unpack_eq, ← unpack_eq]
      rfl
    rw [← decoded_isFinite] at second
    cases same : decoded b <;> rw [same] at second packed <;>
      first | exact infinite_of_packed packed r | cases second

theorem AtLeast.div (first : AtLeast a s) (second : isFinite b = true) (positive : 0 < value b)
    (nonneg : 0 ≤ s) (fits : r + (s / value b + 1) / 2 ^ 52 ≤ s / value b) :
    AtLeast (a / b) r := by
  rcases atLeast_cases first with ⟨finite, above⟩ | infinite
  · have quotient : s / value b ≤ value a / value b := by gcongr
    exact atLeast_of_rounds (div_rounds finite second positive.ne') quotient (by positivity) fits
  · have packed : (a / b).toModel =
        Float.Model.pack (UnpackedFloat.div .binary64 (.infinity .positive) (decoded b)) := by
      rw [← infinite, ← unpack_eq, ← unpack_eq]
      rfl
    rw [value_eq b second] at positive
    rw [← decoded_isFinite] at second
    cases same : decoded b with
    | infinity t => rw [same] at second; cases second
    | notANumber => rw [same] at second; cases second
    | zero t => rw [same] at positive; exact absurd positive (lt_irrefl _)
    | finite t m e some =>
        rw [same] at positive packed
        cases t with
        | positive => exact infinite_of_packed packed r
        | negative =>
            have := magnitude_pos m e some
            simp only [partsValue, unit] at positive
            linarith

theorem infinite_mul (infinite : decoded a = .infinity .positive) (known : AtLeast b t)
    (positive : 0 < t) (packed : x.toModel = Float.Model.pack
      (UnpackedFloat.mul .binary64 (decoded a) (decoded b)) ∨ x.toModel = Float.Model.pack
      (UnpackedFloat.mul .binary64 (decoded b) (decoded a))) (r : ℝ) : AtLeast x r := by
  rw [infinite] at packed
  rcases atLeast_cases known with ⟨finite, above⟩ | infinite'
  · rw [value_eq b finite] at above
    rw [← decoded_isFinite] at finite
    cases same : decoded b with
    | infinity s => rw [same] at finite; cases finite
    | notANumber => rw [same] at finite; cases finite
    | zero s => rw [same] at above; exact absurd (positive.trans_le above) (lt_irrefl _)
    | finite s m e some =>
        rw [same] at above packed
        cases s with
        | positive => exact packed.elim (infinite_of_packed · r) (infinite_of_packed · r)
        | negative =>
            have := magnitude_pos m e some
            simp only [partsValue, unit] at above
            linarith
  · rw [infinite'] at packed
    exact packed.elim (infinite_of_packed · r) (infinite_of_packed · r)

theorem AtLeast.mul (first : AtLeast a s) (second : AtLeast b t) (left : 0 < s) (right : 0 < t)
    (fits : r + (s * t + 1) / 2 ^ 52 ≤ s * t) : AtLeast (a * b) r := by
  have packed : (a * b).toModel =
      Float.Model.pack (UnpackedFloat.mul .binary64 (decoded a) (decoded b)) := by
    rw [← unpack_eq, ← unpack_eq]
    rfl
  rcases atLeast_cases first with ⟨finite, above⟩ | infinite
  · rcases atLeast_cases second with ⟨finite', above'⟩ | infinite'
    · have product : s * t ≤ value a * value b :=
        mul_le_mul above above' right.le (left.le.trans above)
      exact atLeast_of_rounds (mul_rounds finite finite') product (by positivity) fits
    · exact infinite_mul infinite' first left (.inr packed) r
  · exact infinite_mul infinite second right (.inl packed) r

/-! The larger and the smaller -/

theorem larger_atLeast_left (known : AtLeast a t) (b : Float) : AtLeast (larger a b) t := by
  unfold larger
  rw [if_neg (by rw [known.1]; exact Bool.false_ne_true)]
  split_ifs with below
  · have numbers := not_nan_of_lt below
    rw [lt_iff_level numbers.1 numbers.2] at below
    exact ⟨numbers.2, known.2.trans below.le⟩
  · exact known

theorem larger_atLeast_right (a : Float) (known : AtLeast b t) : AtLeast (larger a b) t := by
  unfold larger
  split_ifs with nan below
  · exact known
  · exact known
  · have number : a.isNaN = false := by simpa using nan
    rw [lt_iff_level number known.1, not_lt] at below
    exact ⟨number, known.2.trans below⟩

theorem larger_eq_left (first : isFinite a = true) (second : isFinite b = true)
    (below : value b ≤ value a) : larger a b = a := by
  unfold larger
  rw [if_neg (by rw [isNaN_of_isFinite first]; exact Bool.false_ne_true),
    if_neg (by rw [lt_iff first second]; exact not_lt.mpr below)]

theorem exceeds_atLeast {estimate limit : Float} (finite : isFinite limit = true)
    (known : AtLeast estimate t) (above : value limit < t) : limit < estimate := by
  rw [lt_iff_level (isNaN_of_isFinite finite) known.1, level_finite limit finite]
  exact lt_of_lt_of_le (EReal.coe_lt_coe above) known.2

end RationalCalc.Binary64
