import RationalCalc.Proofs.Checked.Reading

/-!
A literal on its own. It is read exactly if it is a decimal, as the integer that its digits write over
a power of ten, and refused at the position it is given otherwise. Unbounded integers give that value
for every decimal whose places can be counted in 32 bits and the machine word for every short one,
without a step that does not fit the word.
-/

namespace RationalCalc.Literal

def IsDecimal (raw : List Char) : Prop :=
  (∀ c ∈ raw, c.isDigit = true ∨ c = '.') ∧ WellWritten raw

def written (raw : List Char) : Nat :=
  Nat.ofDigitChars 10 (raw.filter (· != '.')) 0

theorem decimal_written (raw : List Char) : decimal raw = written raw / 10 ^ places raw := by
  rw [decimal, Rat.mkRat_eq_div, Nat.pow_eq, Nat.cast_pow]
  rfl

theorem decimal_lowest (raw : List Char) :
    (decimal raw).num = written raw / Nat.gcd (10 ^ places raw) (written raw) ∧
      (decimal raw).den = 10 ^ places raw / Nat.gcd (10 ^ places raw) (written raw) := by
  have scale : Nat.pow 10 (places raw) ≠ 0 := Nat.ne_of_gt (Nat.pow_pos (by decide))
  constructor
  · exact (Rat.num_mkRat _ _).trans (if_neg scale)
  · exact (Rat.den_mkRat _ _).trans (if_neg scale)

section Parts

variable {raw : List Char} (decimal_raw : IsDecimal raw) (few : places raw < UInt32.size)
include decimal_raw

theorem split_digits : (split raw).Digits :=
  ((wellFormed_parts _).mp ((wellFormed_iff raw).mpr decimal_raw)).1

include few

theorem value_decimal : (split raw).value = decimal raw :=
  value_split raw ((wellFormed_iff raw).mpr decimal_raw) few

theorem longValue_decimal : (split raw).longValue = decimal raw := by
  have fraction : (split raw).fraction.length < UInt32.size := fraction_places raw ▸ few
  rw [← value_decimal decimal_raw few, value_digits _ (split_digits decimal_raw) fraction,
    longValue_eq _ fraction]

theorem shortValue_decimal (short : (split raw).isShort = true) :
    (split raw).shortValue = decimal raw := by
  rw [← value_decimal decimal_raw few, Parts.value, if_pos short]

end Parts

end RationalCalc.Literal

namespace RationalCalc.Lexer

open Literal (IsDecimal written places split)

theorem readLiteral_iff (raw : String) (start : Nat) (value : Rat) :
    readLiteral raw start = .ok value ↔
      IsDecimal raw.toList ∧ value = (split raw.toList).value := by
  rw [IsDecimal, and_assoc, ← Literal.read_iff, readLiteral]
  cases Literal.read? raw.toList with
  | none => simp
  | some other => simp

/-- A literal is read exactly if it is a decimal, and with fewer than 2^32 digits behind the point its
value is the integer of its digits over ten to the number of those digits, in lowest terms. Both ways
of reading agree on it, and the short way does so with all words checked. What is no decimal is
refused at its start. -/
theorem readLiteral_decimal (raw : String) (start : Nat) :
    ((∃ value, readLiteral raw start = .ok value) ↔ IsDecimal raw.toList) ∧
    (∀ value, readLiteral raw start = .ok value → places raw.toList < UInt32.size →
      value = written raw.toList / 10 ^ places raw.toList ∧
      value.num = written raw.toList / Nat.gcd (10 ^ places raw.toList) (written raw.toList) ∧
      value.den = 10 ^ places raw.toList / Nat.gcd (10 ^ places raw.toList) (written raw.toList) ∧
      (split raw.toList).longValue = value ∧
      ((split raw.toList).isShort = true → (split raw.toList).shortValue = value ∧
        Checked.shortValue (split raw.toList) = .ok value)) ∧
    (¬ IsDecimal raw.toList → ∃ fault, readLiteral raw start = .error fault ∧
      fault.kind = .invalidNumber ∧ fault.position? = some start) := by
  refine ⟨?_, ?_, ?_⟩
  · constructor
    · rintro ⟨value, read⟩
      exact ((readLiteral_iff raw start value).mp read).1
    · intro decimal
      exact ⟨_, (readLiteral_iff raw start _).mpr ⟨decimal, rfl⟩⟩
  · intro value read few
    obtain ⟨decimal, same⟩ := (readLiteral_iff raw start value).mp read
    rw [Literal.value_decimal decimal few] at same
    subst same
    obtain ⟨above, below⟩ := Literal.decimal_lowest raw.toList
    refine ⟨Literal.decimal_written _, above, below, Literal.longValue_decimal decimal few, ?_⟩
    intro short
    have worth := Literal.shortValue_decimal decimal few short
    have checked := Checked.shortValue_ok _ (Literal.split_digits decimal) short
    exact ⟨worth, checked.trans (congrArg Except.ok worth)⟩
  · intro other
    cases outcome : Literal.read? raw.toList with
    | none =>
        refine ⟨.badLiteral raw start, ?_, rfl, rfl⟩
        rw [readLiteral, outcome]
    | some value =>
        obtain ⟨inside, well, -⟩ := (Literal.read_iff raw.toList value).mp outcome
        exact absurd ⟨inside, well⟩ other

theorem readLiteral_decimal_texts :
    readLiteral "1.50" 3 = .ok (3 / 2) ∧ IsDecimal "1.50".toList ∧
      places "1.50".toList < UInt32.size ∧
      (split "1.50".toList).isShort = true ∧ Checked.shortValue (split "1.50".toList) = .ok (3 / 2) ∧
      readLiteral "1234567890123456789.5" 0 = .ok (2469135780246913579 / 2) ∧
      (split "1234567890123456789.5".toList).longValue = 2469135780246913579 / 2 ∧
      ¬ IsDecimal "1.2.3".toList ∧ ∃ fault, readLiteral "1.2.3" 7 = .error fault ∧
        fault.kind = .invalidNumber ∧ fault.position? = some 7 := by
  have short : readLiteral "1.50" 3 = .ok (3 / 2) := by decide +kernel
  have long : readLiteral "1234567890123456789.5" 0 = .ok (2469135780246913579 / 2) := by
    decide +kernel
  have small : (split "1.50".toList).isShort = true := by decide
  have pointed : ¬ IsDecimal "1.2.3".toList := fun decimal => absurd decimal.2.1 (by decide)
  obtain ⟨accepted, values, -⟩ := readLiteral_decimal "1.50" 3
  obtain ⟨-, -, -, -, word⟩ := values _ short (by decide)
  obtain ⟨-, -, -, unbounded, -⟩ := (readLiteral_decimal "1234567890123456789.5" 0).2.1 _ long
    (by decide)
  obtain ⟨-, -, refused⟩ := readLiteral_decimal "1.2.3" 7
  exact ⟨short, accepted.mp ⟨_, short⟩, by decide, small, (word small).2, long, unbounded, pointed,
    refused pointed⟩

end RationalCalc.Lexer
