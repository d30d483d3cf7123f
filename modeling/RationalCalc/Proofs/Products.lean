import Mathlib
import RationalCalc.Arithmetic.Counting
import RationalCalc.Proofs.Permission

/-!
What factorials, arrangements and combinations answer. Operands that are no integers come first, then
integers out of range, then a refusal for size; what is left is the product itself. Combinations
divide after each factor: what they have multiplied so far is itself a number of combinations times
the divisor, and so no division leaves a remainder.
-/

namespace RationalCalc.Arithmetic

open Nat

/-! The loops -/

theorem factorialProduct_factorial (n : Nat) : factorialProduct n = n ! := by
  cases n with
  | zero => rfl
  | succ m =>
      induction m with
      | zero => rfl
      | succ m ih =>
          simp only [factorialProduct, Nat.add_sub_cancel, List.range'_1_concat, List.foldl_append,
            List.foldl_cons, List.foldl_nil] at ih ⊢
          rw [ih, Nat.factorial_succ (m + 1)]
          ring

theorem fallingProduct_prod (n : Int) (r : Nat) :
    fallingProduct n r = ∏ down ∈ Finset.range r, (n - down) := by
  induction r with
  | zero => rfl
  | succ r ih =>
      rw [Finset.prod_range_succ, ← ih, fallingProduct, List.range_succ, List.foldl_append]
      rfl

/-- The product of the loop of combinations after some of its `k` rounds. -/
def choiceSoFar (n : Int) (k rounds : Nat) : Int :=
  (List.range' 1 rounds).foldl (fun product (up : Nat) => (product * (n - k + up)).tdiv up) 1

theorem choiceSoFar_succ (n : Int) (k rounds : Nat) :
    choiceSoFar n k (rounds + 1) =
      (choiceSoFar n k rounds * (n - k + (rounds + 1 : Nat))).tdiv (rounds + 1 : Nat) := by
  rw [choiceSoFar, List.range'_1_concat, List.foldl_append, Nat.add_comm 1 rounds]
  rfl

theorem choose_times_next (rest k rounds : Nat) :
    ((rest + rounds).choose rounds : Int) * ((rest + k : Nat) - k + (rounds + 1 : Nat)) =
      (rest + (rounds + 1)).choose (rounds + 1) * (rounds + 1 : Nat) := by
  have step := Nat.add_one_mul_choose_eq (rest + rounds) rounds
  have factor : ((rest + k : Nat) : Int) - k + (rounds + 1 : Nat) = (rest + rounds + 1 : Nat) := by
    omega
  rw [factor, mul_comm]
  exact_mod_cast step

theorem choiceSoFar_choose (rest k rounds : Nat) :
    choiceSoFar (rest + k : Nat) k rounds = (rest + rounds).choose rounds := by
  induction rounds with
  | zero =>
      rw [Nat.choose_zero_right]
      rfl
  | succ rounds ih =>
      have divisor : ((rounds + 1 : Nat) : Int) ≠ 0 := by omega
      rw [choiceSoFar_succ, ih, choose_times_next, Int.mul_tdiv_cancel _ divisor]

theorem choiceSoFar_divides (rest k rounds : Nat) :
    ((rounds + 1 : Nat) : Int) ∣
      choiceSoFar (rest + k : Nat) k rounds * ((rest + k : Nat) - k + (rounds + 1 : Nat)) := by
  rw [choiceSoFar_choose, choose_times_next]
  exact Int.dvd_mul_left _ _

theorem choiceProduct_choose {n r : Nat} (valid : r ≤ n) :
    choiceProduct n (min r (n - r)) = n.choose r := by
  have few : min r (n - r) ≤ n := (min_le_left ..).trans valid
  obtain ⟨rest, whole⟩ := Nat.exists_eq_add_of_le' few
  have product : choiceProduct n (min r (n - r)) = n.choose (min r (n - r)) := by
    change choiceSoFar n (min r (n - r)) (min r (n - r)) = _
    generalize min r (n - r) = k at whole
    rw [whole, choiceSoFar_choose]
  rw [product]
  rcases min_cases r (n - r) with ⟨same, -⟩ | ⟨same, -⟩
  · rw [same]
  · rw [same, Nat.choose_symm valid]

/-! The answers -/

/-- The answer of a counting to operands of which may be asked whether they are whole and whether
they are in range. -/
structure Answers (whole inRange : Prop) (fractional outside : Fault) (value : Rat)
    (outcome : Except Fault Rat) : Prop where
  fractional : ¬whole → outcome = .error fractional
  outside : whole → ¬inRange → outcome = .error outside
  inside : whole → inRange → RefusesOrAgrees outcome (.ok value)

section Answers

variable {whole inRange : Prop} {fractional outside : Fault} {value : Rat}
  {outcome : Except Fault Rat}

theorem Answers.fractional_iff (answers : Answers whole inRange fractional outside value outcome)
    (other : fractional ≠ outside) (other' : fractional ≠ .tooBig) :
    outcome = .error fractional ↔ ¬whole := by
  refine ⟨?_, answers.fractional⟩
  rintro failed all
  by_cases fits : inRange
  · rcases answers.inside all fits with refused | computed
    · exact other' (Except.error.inj (failed.symm.trans refused))
    · cases failed.symm.trans computed
  · exact other (Except.error.inj (failed.symm.trans (answers.outside all fits)))

theorem Answers.outside_iff (answers : Answers whole inRange fractional outside value outcome)
    (all : whole) (other : outside ≠ .tooBig) : outcome = .error outside ↔ ¬inRange := by
  refine ⟨?_, answers.outside all⟩
  intro failed fits
  rcases answers.inside all fits with refused | computed
  · exact other (Except.error.inj (failed.symm.trans refused))
  · cases failed.symm.trans computed

theorem answers_tested {test test' : Prop} [Decidable test] [Decidable test']
    {next next' : PUnit → Except Fault Rat} {rest : Except Fault Rat} (first : test ↔ ¬whole)
    (second : whole → (test' ↔ ¬inRange))
    (computed : whole → inRange → RefusesOrAgrees rest (.ok value)) :
    Answers whole inRange fractional outside value
      (if test then throw fractional >>= next
      else if test' then throw outside >>= next' else rest) := by
  refine ⟨?_, ?_, ?_⟩
  · intro some
    rw [if_pos (first.mpr some)]
    rfl
  · intro all away
    rw [if_neg (mt first.mp (not_not_intro all)), if_pos ((second all).mpr away)]
    rfl
  · intro all fits
    rw [if_neg (mt first.mp (not_not_intro all)),
      if_neg (mt (second all).mp (not_not_intro fits))]
    exact computed all fits

end Answers

theorem refuses_bind {α β : Type} {first : Except Fault α} {value : α}
    {next : α → Except Fault β} {outcome : Except Fault β}
    (one : RefusesOrAgrees first (.ok value)) (two : RefusesOrAgrees (next value) outcome) :
    RefusesOrAgrees (first >>= next) outcome := by
  rcases one with rfl | rfl
  · exact .inl rfl
  · exact two

theorem measured_refuses (n : Int) :
    RefusesOrAgrees (measured n) (.ok (Binary64.nearestInt n)) := by
  simp only [measured]
  split
  · exact .inr rfl
  · exact .inl rfl

variable (limits : Limits) (machine : Float → Float)

theorem admitted_refuses (estimate : Float) (factors : Int) :
    RefusesOrAgrees (admitted estimate factors limits) (.ok factors.toNat) := by
  simp only [admitted]
  split
  · exact .inl rfl
  · split
    · exact .inl rfl
    · exact .inr rfl

theorem isInteger_iff (value : Rat) : isInteger value = true ↔ value.den = 1 :=
  decide_eq_true_iff

theorem factorial_answers (value : Rat) :
    Answers (value.den = 1) (0 ≤ value.num) .fractionalFactorial .negativeFactorial
      (factorialProduct value.num.toNat : Int) (factorial value limits) := by
  apply answers_tested
  · rw [← isInteger_iff, Bool.not_eq_true', Bool.not_eq_true]
  · intro whole
    exact not_le.symm
  · intro whole valid
    apply refuses_bind (measured_refuses value.num)
    apply refuses_bind (admitted_refuses limits _ value.num)
    exact .inr rfl

theorem fractional_operands (n r : Rat) :
    (!isInteger n || !isInteger r) = true ↔ ¬(n.den = 1 ∧ r.den = 1) := by
  rw [← isInteger_iff, ← isInteger_iff]
  cases isInteger n <;> cases isInteger r <;> decide

theorem operands_outside (n r : Int) :
    (decide (n < 0) || decide (r < 0) || decide (n < r)) = true ↔ ¬(0 ≤ r ∧ r ≤ n) := by
  simp only [Bool.or_eq_true, decide_eq_true_eq]
  omega

theorem arrangements_answers (n r : Rat) :
    Answers (n.den = 1 ∧ r.den = 1) (0 ≤ r.num ∧ r.num ≤ n.num) .fractionalArrangement
      .arrangementRange (fallingProduct n.num r.num.toNat) (arrangements n r limits machine) := by
  apply answers_tested (fractional_operands n r) fun _ => operands_outside n.num r.num
  intro whole valid
  apply refuses_bind (measured_refuses n.num)
  apply refuses_bind (measured_refuses r.num)
  apply refuses_bind (admitted_refuses limits _ r.num)
  exact .inr rfl

theorem combinations_answers (n r : Rat) :
    Answers (n.den = 1 ∧ r.den = 1) (0 ≤ r.num ∧ r.num ≤ n.num) .fractionalCombination
      .combinationRange (choiceProduct n.num (min r.num (n.num - r.num)).toNat)
      (combinations n r limits machine) := by
  apply answers_tested (fractional_operands n r) fun _ => operands_outside n.num r.num
  intro whole valid
  apply refuses_bind (measured_refuses n.num)
  apply refuses_bind (measured_refuses r.num)
  apply refuses_bind (measured_refuses (n.num - r.num))
  apply refuses_bind (admitted_refuses limits _ _)
  exact .inr rfl

/-- Fractions are told first, whole operands out of range next, and what is left is refused for its
size or is exactly the factorial, the falling product, the number of choices. The loop of the latter
runs over the fewer of the chosen and the others, and none of its divisions leaves a remainder. -/
theorem counting_answers :
    (∀ value : ℚ, factorial value limits = .error .fractionalFactorial ↔ value.den ≠ 1) ∧
    (∀ n r : ℚ,
      (arrangements n r limits machine = .error .fractionalArrangement ↔ n.den ≠ 1 ∨ r.den ≠ 1) ∧
      (combinations n r limits machine = .error .fractionalCombination ↔ n.den ≠ 1 ∨ r.den ≠ 1)) ∧
    (∀ n : ℤ, factorial n limits = .error .negativeFactorial ↔ n < 0) ∧
    (∀ n r : ℤ,
      (arrangements n r limits machine = .error .arrangementRange ↔ ¬(0 ≤ r ∧ r ≤ n)) ∧
      (combinations n r limits machine = .error .combinationRange ↔ ¬(0 ≤ r ∧ r ≤ n))) ∧
    (∀ n : ℕ, factorial n limits = .error .tooBig ∨ factorial n limits = .ok n !) ∧
    (∀ n r : ℕ, r ≤ n →
      (arrangements n r limits machine = .error .tooBig ∨
        arrangements n r limits machine = .ok (∏ down ∈ Finset.range r, ((n : ℚ) - down))) ∧
      (combinations n r limits machine = .error .tooBig ∨
        combinations n r limits machine = .ok (n.choose r)) ∧
      choiceProduct n (min r (n - r)) = choiceSoFar n (min r (n - r)) (min r (n - r)) ∧
      ∀ rounds < min r (n - r), ((rounds + 1 : ℕ) : ℤ) ∣
        choiceSoFar n (min r (n - r)) rounds *
          (n - (min r (n - r) : ℕ) + (rounds + 1 : ℕ))) := by
  have arranged := arrangements_answers limits machine
  have chosen := combinations_answers limits machine
  have multiplied := factorial_answers limits
  refine ⟨?_, ?_, ?_, ?_, ?_, ?_⟩
  · intro value
    exact (multiplied value).fractional_iff (by decide) (by decide)
  · intro n r
    rw [← not_and_or]
    exact ⟨(arranged n r).fractional_iff (by decide) (by decide),
      (chosen n r).fractional_iff (by decide) (by decide)⟩
  · intro n
    rw [(multiplied n).outside_iff (Rat.den_intCast n) (by decide), Rat.num_intCast, not_le]
  · intro n r
    have whole : (n : ℚ).den = 1 ∧ (r : ℚ).den = 1 := ⟨Rat.den_intCast n, Rat.den_intCast r⟩
    rw [(arranged n r).outside_iff whole (by decide), (chosen n r).outside_iff whole (by decide),
      Rat.num_intCast, Rat.num_intCast]
    exact ⟨Iff.rfl, Iff.rfl⟩
  · intro n
    have computed := (multiplied n).inside (Rat.den_natCast n) (by simp)
    rw [Rat.num_natCast, Int.toNat_natCast, factorialProduct_factorial] at computed
    exact_mod_cast computed
  · intro n r valid
    have whole : (n : ℚ).den = 1 ∧ (r : ℚ).den = 1 := ⟨Rat.den_natCast n, Rat.den_natCast r⟩
    have fits : 0 ≤ (r : ℚ).num ∧ (r : ℚ).num ≤ (n : ℚ).num := by
      rw [Rat.num_natCast, Rat.num_natCast]
      omega
    have fewer : (min (r : ℤ) (n - r)).toNat = min r (n - r) := by omega
    have falling := (arranged n r).inside whole fits
    have choice := (chosen n r).inside whole fits
    rw [Rat.num_natCast, Rat.num_natCast, Int.toNat_natCast, fallingProduct_prod] at falling
    rw [Rat.num_natCast, Rat.num_natCast, fewer, choiceProduct_choose valid] at choice
    refine ⟨by exact_mod_cast falling, by exact_mod_cast choice, rfl, ?_⟩
    intro rounds _
    have few : min r (n - r) ≤ n := (min_le_left ..).trans valid
    obtain ⟨rest, split⟩ := Nat.exists_eq_add_of_le' few
    generalize min r (n - r) = k at split
    subst split
    exact choiceSoFar_divides rest k rounds

theorem counting_answers_ten :
    arrangements (10 : ℕ) (3 : ℕ) .standard (fun _ => 1.0) = .ok 720 ∧
      combinations (10 : ℕ) (7 : ℕ) .standard (fun _ => 1.0) = .ok 120 ∧
      (3 : ℤ) ∣ choiceSoFar 10 3 2 * (10 - 3 + 3) := by
  have accepted : arrangements (10 : ℕ) (3 : ℕ) .standard (fun _ => 1.0) ≠ .error .tooBig := by
    decide +kernel
  have accepted' : combinations (10 : ℕ) (7 : ℕ) .standard (fun _ => 1.0) ≠ .error .tooBig := by
    decide +kernel
  obtain ⟨-, -, -, -, -, inside⟩ := counting_answers .standard (fun _ => 1.0)
  obtain ⟨arranged, -, -, -⟩ := inside 10 3 (by decide)
  obtain ⟨-, chosen, -, exact⟩ := inside 10 7 (by decide)
  refine ⟨?_, ?_, exact 2 (by decide)⟩
  · rw [arranged.resolve_left accepted]
    norm_num [Finset.prod_range_succ]
  · exact chosen.resolve_left accepted'

end RationalCalc.Arithmetic
