import Mathlib.Data.Rat.Floor
import Mathlib.Algebra.Order.Field.Basic
import Mathlib.Tactic.FieldSimp
import Mathlib.Tactic.Linarith
import Mathlib.Tactic.Positivity
import RationalCalc.Display.Decimal

/-!
Rounding to a number of places. The magnitude is rounded to the nearest multiple of a power of ten,
halves up, and gets its sign back, so that halves go away from zero on both sides. Rounding keeps the
order of values, and what is rounded once stays as it is at that place and at all places behind it.
All places here can be counted in 32 bits.
-/

namespace RationalCalc.Display

/-- The nearest multiple of a power of ten, of two equally near ones the one farther from zero. -/
def rounded (value : Rat) (places : Nat) : Rat :=
  value.num.sign * ⌊|value| * 10 ^ places + 1 / 2⌋ / 10 ^ places

theorem rounded_quotient (n d : Nat) (pos : 0 < d) :
    ((if d ≤ n % d * 2 then n / d + 1 else n / d : Nat) : Int) = ⌊(n / d : Rat) + 1 / 2⌋ := by
  have positive : (0 : Rat) < d := by exact_mod_cast pos
  have split : (n / d : Rat) = (n / d : Nat) + (n % d : Nat) / d := by
    have parts : (d : Rat) * (n / d : Nat) + (n % d : Nat) = n := by exact_mod_cast Nat.div_add_mod n d
    rw [← parts]
    field_simp
  have below : ((n % d : Nat) : Rat) / d < 1 := by
    rw [div_lt_one positive]
    exact_mod_cast Nat.mod_lt n pos
  have above : (0 : Rat) ≤ ((n % d : Nat) : Rat) / d := by positivity
  symm
  rw [Int.floor_eq_iff, split]
  split_ifs with half
  · have up : (1 / 2 : Rat) ≤ ((n % d : Nat) : Rat) / d := by
      rw [div_le_div_iff₀ two_pos positive, one_mul]
      exact_mod_cast half
    simp only [Nat.cast_add, Nat.cast_one, Int.cast_add, Int.cast_natCast, Int.cast_one]
    constructor <;> linarith
  · have down : ((n % d : Nat) : Rat) / d < 1 / 2 := by
      rw [div_lt_div_iff₀ positive two_pos, one_mul]
      exact_mod_cast Nat.lt_of_not_le half
    simp only [Int.cast_natCast]
    constructor <;> linarith

section Places

variable {places : Nat} (few : places < UInt32.size)
include few

theorem scaled_floor (value : Rat) :
    (scaled value places : Int) = ⌊|value| * 10 ^ places + 1 / 2⌋ := by
  have magnitude : |value| * 10 ^ places =
      ((value.num.natAbs * Nat.pow 10 places : Nat) : Rat) / value.den := by
    rw [Rat.abs_def, Rat.divInt_eq_div, Int.cast_natCast, Int.cast_natCast, Nat.cast_mul, Nat.pow_eq,
      Nat.cast_pow, Nat.cast_ofNat]
    ring
  rw [magnitude, ← rounded_quotient _ _ value.den_pos, scaled, powerOfTen_few few]

theorem rounded_scaled (value : Rat) :
    rounded value places = value.num.sign * scaled value places / 10 ^ places := by
  rw [rounded, ← scaled_floor few]
  norm_cast

omit few in
theorem scaled_neg (value : Rat) : scaled (-value) places = scaled value places := by
  simp [scaled]

theorem rounded_neg (value : Rat) : rounded (-value) places = -rounded value places := by
  rw [rounded_scaled few, rounded_scaled few, scaled_neg, Rat.neg_num, Int.sign_neg,
    Int.cast_neg, neg_mul, neg_div]

theorem rounded_nonneg (value : Rat) (positive : 0 ≤ value) :
    rounded value places = scaled value places / 10 ^ places := by
  rcases positive.lt_or_eq with above | rfl
  · rw [rounded_scaled few, Int.sign_eq_one_of_pos (Rat.num_pos.mpr above), Int.cast_one, one_mul]
  · simp [rounded, scaled]

theorem rounded_nonpos (value : Rat) (negative : value ≤ 0) :
    rounded value places = -(scaled value places / 10 ^ places) := by
  have mirrored := rounded_nonneg few (-value) (neg_nonneg.mpr negative)
  rw [rounded_neg few, scaled_neg] at mirrored
  rw [← mirrored, neg_neg]

theorem abs_rounded (value : Rat) :
    |rounded value places| = scaled value places / 10 ^ places := by
  have size : (0 : Rat) ≤ scaled value places / 10 ^ places := by positivity
  rcases le_total 0 value with positive | negative
  · rw [rounded_nonneg few value positive, abs_of_nonneg size]
  · rw [rounded_nonpos few value negative, abs_neg, abs_of_nonneg size]

theorem scaled_mono (one two : Rat) (smaller : |one| ≤ |two|) :
    scaled one places ≤ scaled two places := by
  have floors : ⌊|one| * 10 ^ places + 1 / 2⌋ ≤ ⌊|two| * 10 ^ places + 1 / 2⌋ := by
    gcongr
  rw [← scaled_floor few, ← scaled_floor few] at floors
  exact_mod_cast floors

theorem rounded_mono_nonneg (one two : Rat) (positive : 0 ≤ one) (smaller : one ≤ two) :
    rounded one places ≤ rounded two places := by
  have magnitudes := scaled_mono few one two (abs_le_abs_of_nonneg positive smaller)
  rw [rounded_nonneg few one positive, rounded_nonneg few two (positive.trans smaller)]
  gcongr

theorem rounded_mono (one two : Rat) (smaller : one ≤ two) :
    rounded one places ≤ rounded two places := by
  have zero : rounded 0 places = 0 := by simp [rounded]
  rcases le_total 0 one with positive | negative
  · exact rounded_mono_nonneg few one two positive smaller
  · rcases le_total 0 two with above | below
    · have left := rounded_mono_nonneg few 0 (-one) le_rfl (neg_nonneg.mpr negative)
      have right := rounded_mono_nonneg few 0 two le_rfl above
      rw [rounded_neg few, zero] at left
      rw [zero] at right
      linarith
    · have mirrored := rounded_mono_nonneg few (-two) (-one) (neg_nonneg.mpr below)
        (neg_le_neg smaller)
      rw [rounded_neg few, rounded_neg few] at mirrored
      exact neg_le_neg_iff.mp mirrored

omit few in
/-- What is rounded has no half to round at the places behind. -/
theorem scaled_rounded (value : Rat) (more : Nat) (few : places + more < UInt32.size) :
    scaled (rounded value places) (places + more) = scaled value places * Nat.pow 10 more := by
  have whole : |rounded value places| * 10 ^ (places + more) =
      ((scaled value places * Nat.pow 10 more : Nat) : Rat) := by
    rw [abs_rounded (by omega), Nat.cast_mul, Nat.pow_eq, Nat.cast_pow, Nat.cast_ofNat, pow_add]
    field_simp
  have half : ⌊(1 / 2 : Rat)⌋ = 0 := by norm_num
  have floor := scaled_floor few (rounded value places)
  rw [whole, Int.floor_natCast_add, half, add_zero] at floor
  exact_mod_cast floor

theorem rounded_negative (value : Rat) :
    rounded value places < 0 ↔ value < 0 ∧ scaled value places ≠ 0 := by
  have size : (0 : Rat) ≤ scaled value places / 10 ^ places := by positivity
  rcases le_or_gt 0 value with positive | negative
  · rw [rounded_nonneg few value positive]
    constructor
    · intro below
      exact absurd below size.not_gt
    · rintro ⟨below, -⟩
      exact absurd below positive.not_gt
  · rw [rounded_nonpos few value negative.le, neg_lt_zero]
    constructor
    · intro above
      refine ⟨negative, ?_⟩
      intro zero
      simp [zero] at above
    · rintro ⟨-, filled⟩
      have counts : 0 < scaled value places := Nat.pos_of_ne_zero filled
      positivity

end Places

end RationalCalc.Display
