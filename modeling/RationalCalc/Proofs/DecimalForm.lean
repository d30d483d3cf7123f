import Mathlib.Data.Rat.Cast.Order
import RationalCalc.Proofs.DecimalReading

/-!
The decimal display is the only text of its form with the rounded value, at places that can be counted
in 32 bits. The form leaves no choice: digits without a superfluous zero at either end, and a sign for
negative values only. A list of digits is determined by its length and its value, and without a
leading zero by its value alone.
-/

namespace RationalCalc

namespace Literal

/-! Digits and their value -/

theorem digitChar_digit (c : Char) (digit : c.isDigit = true) :
    Nat.digitChar (c.toNat - '0'.toNat) = c := by
  have range := digit_range c digit
  have zero : '0'.toNat = 48 := rfl
  apply Char.toNat_inj.mp
  rw [Nat.toNat_digitChar_of_lt_ten (by omega)]
  omega

theorem ofDigitChars_lt (digits : List Char) (all : ∀ c ∈ digits, c.isDigit = true) :
    Nat.ofDigitChars 10 digits 0 < 10 ^ digits.length := by
  induction digits with
  | nil => exact Nat.one_pos
  | cons c digits ih =>
      obtain ⟨digit, others⟩ := List.forall_mem_cons.mp all
      have range := digit_range c digit
      have zero : '0'.toNat = 48 := rfl
      have rest := ih others
      have first : c.toNat - '0'.toNat + 1 ≤ 10 := by omega
      calc Nat.ofDigitChars 10 (c :: digits) 0
          = 10 ^ digits.length * (c.toNat - '0'.toNat) + Nat.ofDigitChars 10 digits 0 := by
            rw [Nat.ofDigitChars_cons, Nat.ofDigitChars_eq_ofDigitChars_zero, Nat.mul_zero,
              Nat.zero_add]
        _ < 10 ^ digits.length * (c.toNat - '0'.toNat + 1) := by
            rw [Nat.mul_succ]
            omega
        _ ≤ 10 ^ (digits.length + 1) := Nat.mul_le_mul_left _ first

theorem toDigits_append (digits : List Char) (all : ∀ c ∈ digits, c.isDigit = true) (n : Nat)
    (some : 0 < n) : Nat.toDigits 10 n ++ digits = Nat.toDigits 10 (Nat.ofDigitChars 10 digits n) := by
  induction digits generalizing n with
  | nil => simp
  | cons c digits ih =>
      obtain ⟨digit, others⟩ := List.forall_mem_cons.mp all
      have range := digit_range c digit
      have zero : '0'.toNat = 48 := rfl
      have small : c.toNat - '0'.toNat < 10 := by omega
      have joined := Nat.toDigits_append_toDigits (by decide : 1 < 10) some small
      rw [Nat.toDigits_of_lt_base small, digitChar_digit c digit] at joined
      rw [Nat.ofDigitChars_cons, ← ih others _ (by omega), ← joined, List.append_assoc,
        List.singleton_append]

theorem toDigits_read (digits : List Char) (all : ∀ c ∈ digits, c.isDigit = true)
    (filled : digits ≠ []) (opens : digits.head? = some '0' → digits = ['0']) :
    Nat.toDigits 10 (Nat.ofDigitChars 10 digits 0) = digits := by
  cases digits with
  | nil => exact absurd rfl filled
  | cons c rest =>
      obtain ⟨digit, others⟩ := List.forall_mem_cons.mp all
      by_cases zero : c = '0'
      · rw [opens (congrArg some zero)]
        rfl
      · have range := digit_range c digit
        have zero' : '0'.toNat = 48 := rfl
        have above : 0 < c.toNat - '0'.toNat := by
          have differ : c.toNat ≠ '0'.toNat := fun same => zero (Char.toNat_inj.mp same)
          omega
        have joined := toDigits_append rest others _ above
        rw [Nat.toDigits_of_lt_base (by omega), digitChar_digit c digit] at joined
        rw [Nat.ofDigitChars_cons, Nat.mul_zero, Nat.zero_add, ← joined, List.singleton_append]

theorem toDigits_head (n : Nat) (zero : (Nat.toDigits 10 n).head? = some '0') :
    Nat.toDigits 10 n = ['0'] := by
  induction n using Nat.strong_induction_on with
  | h n ih =>
      by_cases small : n < 10
      · rw [Nat.toDigits_of_lt_base small] at zero ⊢
        exact congrArg ([·]) (Option.some.inj zero)
      · have front : (Nat.toDigits 10 (n / 10)).head? = some '0' := by
          obtain ⟨c, rest, same⟩ :=
            List.exists_cons_of_ne_nil (Nat.toDigits_ne_nil (b := 10) (n := n / 10))
          rw [Nat.toDigits_of_base_le (by decide) (by omega), same] at zero
          rw [same]
          exact zero
        have none := Nat.ofDigitChars_ten_toDigits (n := n / 10)
        rw [ih (n / 10) (by omega) front] at none
        have value : Nat.ofDigitChars 10 ['0'] 0 = 0 := rfl
        omega

theorem digits_unique (one two : List Char) (left : ∀ c ∈ one, c.isDigit = true)
    (right : ∀ c ∈ two, c.isDigit = true) (long : one.length = two.length)
    (same : Nat.ofDigitChars 10 one 0 = Nat.ofDigitChars 10 two 0) : one = two := by
  -- behind a one, zeros in front count
  have lead (digits : List Char) (all : ∀ c ∈ digits, c.isDigit = true) :
      ['1'] ++ digits =
        Nat.toDigits 10 (10 ^ digits.length + Nat.ofDigitChars 10 digits 0) := by
    have joined := toDigits_append digits all 1 Nat.one_pos
    rw [Nat.ofDigitChars_eq_ofDigitChars_zero, Nat.mul_one] at joined
    exact joined
  have both := lead one left
  rw [long, same, ← lead two right] at both
  exact List.append_cancel_left both

end Literal

namespace Display

open Literal

/-- The parts of a decimal that says nothing twice and has no more than so many places. -/
structure Tidy (places : Nat) (parts : Parts) : Prop where
  digits : parts.Digits
  filled : parts.whole ≠ []
  opens : parts.whole.head? = some '0' → parts.whole = ['0']
  short : parts.fraction.length ≤ places
  closes : parts.fraction.getLast? ≠ some '0'

def magnitude (parts : Parts) : ℚ :=
  Nat.ofDigitChars 10 parts.whole 0 +
    Nat.ofDigitChars 10 parts.fraction 0 / 10 ^ parts.fraction.length

variable {places : Nat} {parts : Parts}

theorem dropEnd_closed (c : Char) (text : List Char) (closes : text.getLast? ≠ some c) :
    dropEnd c text = text := by
  apply List.rdropWhile_eq_self_iff.mpr
  intro filled same
  rw [List.getLast?_eq_some_getLast filled] at closes
  exact closes (congrArg some (beq_iff_eq.mp same))

theorem padded_read (digits : List Char) (all : ∀ c ∈ digits, c.isDigit = true)
    (closes : digits.getLast? ≠ some '0') :
    dropEnd '0' (padded digits.length (Nat.ofDigitChars 10 digits 0)) = digits := by
  by_cases none : digits = []
  · subst none
    rfl
  · have fits := ofDigitChars_lt digits all
    have long := padded_length digits.length _ (List.length_pos_iff.mpr none) fits
    have same := digits_unique _ digits (padded_digits _ _) all long (padded_value _ _)
    rw [same]
    exact dropEnd_closed '0' digits closes

def scaledParts (parts : Parts) : Nat :=
  Nat.ofDigitChars 10 (parts.whole ++ parts.fraction) 0

theorem scaledParts_split (parts : Parts) : scaledParts parts =
    10 ^ parts.fraction.length * Nat.ofDigitChars 10 parts.whole 0 +
      Nat.ofDigitChars 10 parts.fraction 0 := by
  rw [scaledParts, Nat.ofDigitChars_append, Nat.ofDigitChars_eq_ofDigitChars_zero]

theorem magnitude_scaled (parts : Parts) :
    magnitude parts = scaledParts parts / 10 ^ parts.fraction.length := by
  rw [magnitude, scaledParts_split]
  push_cast
  field_simp

theorem plain_parts (tidy : Tidy places parts) (few : places < UInt32.size) :
    plain (scaledParts parts) parts.fraction.length = parts.whole ++ point parts.fraction := by
  have fits := ofDigitChars_lt parts.fraction tidy.digits.fraction
  have whole : scaledParts parts / 10 ^ parts.fraction.length =
      Nat.ofDigitChars 10 parts.whole 0 := by
    rw [scaledParts_split, Nat.mul_add_div (by positivity), Nat.div_eq_of_lt fits, Nat.add_zero]
  have rest : scaledParts parts % 10 ^ parts.fraction.length =
      Nat.ofDigitChars 10 parts.fraction 0 := by
    rw [scaledParts_split, Nat.mul_add_mod, Nat.mod_eq_of_lt fits]
  rw [plain, powerOfTen_few (tidy.short.trans_lt few), Nat.pow_eq, whole, rest,
    padded_read _ tidy.digits.fraction tidy.closes,
    toDigits_read _ tidy.digits.whole tidy.filled tidy.opens]

theorem plain_magnitude (tidy : Tidy places parts) (few : places < UInt32.size) (n : Nat)
    (same : magnitude parts = n / 10 ^ places) :
    plain n places = parts.whole ++ point parts.fraction := by
  obtain ⟨more, long⟩ := Nat.exists_eq_add_of_le tidy.short
  have scaled : n = scaledParts parts * Nat.pow 10 more := by
    rw [magnitude_scaled, long, pow_add] at same
    have units : (n : ℚ) = (scaledParts parts * 10 ^ more : Nat) := by
      push_cast
      field_simp at same
      linarith
    exact_mod_cast units
  rw [scaled, long, plain_shifts _ _ _ (long ▸ few), plain_parts tidy few]

theorem plain_tidy (n places : Nat) (few : places < UInt32.size) : ∃ parts, Tidy places parts ∧
    plain n places = parts.whole ++ point parts.fraction ∧ magnitude parts = n / 10 ^ places := by
  have front : dropEnd '0' (padded places (n % powerOfTen places)) <+: padded places _ :=
    List.rdropWhile_prefix _ _
  have tidy : Tidy places ⟨Nat.toDigits 10 (n / powerOfTen places),
      dropEnd '0' (padded places (n % powerOfTen places))⟩ := by
    refine ⟨⟨toDigits_digits _, ?_⟩, Nat.toDigits_ne_nil, toDigits_head _, shown_length n places few, ?_⟩
    · intro c member
      exact padded_digits _ _ c (front.subset member)
    · intro closes
      have filled := List.ne_nil_of_mem (List.mem_of_getLast? closes)
      have last := List.rdropWhile_last_not (· == '0') _ filled
      rw [List.getLast?_eq_some_getLast filled] at closes
      exact last (beq_iff_eq.mpr (Option.some.inj closes))
  refine ⟨_, tidy, rfl, ?_⟩
  have value := congrArg Literal.decimal (plain_parts tidy few)
  have whole := decimal_plain n few
  rw [decimal_plain _ (tidy.short.trans_lt few)] at value
  rw [plain] at whole
  rw [magnitude_scaled, value, whole]

theorem shown_sign (value : ℚ) (few : places < UInt32.size) :
    (decide (value.num < 0) && scaled value places != 0) = decide (rounded value places < 0) := by
  rw [Bool.eq_iff_iff]
  simp [rounded_negative few, Rat.num_neg]

/-- With fewer than 2^32 places, the decimal display is the one text that is tidy, is worth the rounded
value, and has a sign exactly if that value is negative. -/
theorem decimal_unique (value : ℚ) (places : Nat) (few : places < UInt32.size) (text : String) :
    text = decimal value places ↔
      ∃ (negative : Bool) (parts : Parts), Tidy places parts ∧
        text.toList = signedText negative (parts.whole ++ point parts.fraction) ∧
        (if negative then -magnitude parts else magnitude parts) = rounded value places ∧
        (negative = true ↔ rounded value places < 0) := by
  have displayed := decimal_text value places
  rw [shown_sign value few] at displayed
  constructor
  · rintro rfl
    obtain ⟨parts, tidy, written, worth⟩ := plain_tidy (scaled value places) places few
    have shown := rounded_shown value few
    rw [shown_sign value few] at shown
    refine ⟨decide (rounded value places < 0), parts, tidy, ?_, ?_, decide_eq_true_iff⟩
    · rw [displayed, String.toList_ofList, written]
    · rw [worth, shown]
  · rintro ⟨negative, parts, tidy, written, worth, sign⟩
    have shows : negative = decide (rounded value places < 0) := by
      rw [Bool.eq_iff_iff, sign, decide_eq_true_iff]
    have size : magnitude parts = scaled value places / 10 ^ places := by
      have nonneg : 0 ≤ magnitude parts := by
        unfold magnitude
        positivity
      rw [← abs_rounded few, ← worth]
      split
      · rw [abs_neg, abs_of_nonneg nonneg]
      · rw [abs_of_nonneg nonneg]
    apply String.toList_inj.mp
    rw [written, displayed, String.toList_ofList, plain_magnitude tidy few _ size, shows]

theorem decimal_unique_carry :
    4 < UInt32.size ∧ decimal (99999 / 100000) 4 = "1" ∧
      ∃ (negative : Bool) (parts : Parts), Tidy 4 parts ∧
        "1".toList = signedText negative (parts.whole ++ point parts.fraction) ∧
        (if negative then -magnitude parts else magnitude parts) = rounded (99999 / 100000) 4 ∧
        (negative = true ↔ rounded (99999 / 100000) 4 < 0) := by
  have shown : decimal (99999 / 100000) 4 = "1" := by decide +kernel
  have few : 4 < UInt32.size := by decide
  exact ⟨few, shown, (decimal_unique (99999 / 100000) 4 few "1").mp shown.symm⟩

/-- Zeros that stay, and a value that is lost with its sign. -/
example : decimal 100 2 = "100" ∧ decimal (-1 / 1000) 2 = "0" := by
  decide +kernel

end Display

end RationalCalc
