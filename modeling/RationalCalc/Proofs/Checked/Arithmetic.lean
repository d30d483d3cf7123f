import RationalCalc.Proofs.Checked.Operations
import RationalCalc.Proofs.Products
import RationalCalc.Rpn.Machine

/-!
The operators with every operation checked. Each divides only behind a test that excludes the divisor
zero, or by a number that is not zero by its kind: a denominator, a power of a base other than zero, a
number that counts from one.
-/

namespace RationalCalc.Checked

/-- A computation of the machine: a value or a fault, unless there is a breach. -/
abbrev Guarded := ExceptT Fault (Except Breach)

namespace Arithmetic

open RationalCalc.Arithmetic (isInteger measured admitted mostFactors)

/-! Division -/

def quotient (a b : Rat) : Guarded Rat :=
  if b = 0 then throw .zeroDivisor else ratio a b

def floor (value : Rat) : Except Breach Int :=
  dividing (· / ·) value.num (value.den : Int)

def floorQuotient (a b : Rat) : Guarded Rat :=
  if b = 0 then throw .zeroFloorDivisor
  else do
    let exact ← ratio a b
    let rounded ← floor exact
    return rounded

def remainder (a b : Rat) : Guarded Rat :=
  if !isInteger a || !isInteger b then throw .fractionalRemainder
  else if b = 0 then throw .zeroModulus
  else do
    let left ← (dividing Int.tmod a.num b.num : Except Breach Int)
    return left

theorem quotient_meets (a b : Rat) : Meets (quotient a b) (RationalCalc.Arithmetic.quotient a b) := by
  refine meets_ite (fun _ => meets_throw _) fun nonzero => ?_
  rw [ratio_ok nonzero]
  exact meets_pure _

theorem floor_ok (value : Rat) : floor value = .ok value.floor := by
  rw [floor, dividing_ok (Int.natCast_ne_zero.mpr value.den_nz), Rat.floor_def]

theorem floorQuotient_meets (a b : Rat) :
    Meets (floorQuotient a b) (RationalCalc.Arithmetic.floorQuotient a b) := by
  refine meets_ite (fun _ => meets_throw _) fun nonzero => ?_
  refine meets_lift (ratio_ok nonzero a) ?_
  exact meets_lift (floor_ok _) (meets_pure _)

theorem remainder_meets (a b : Rat) :
    Meets (remainder a b) (RationalCalc.Arithmetic.remainder a b) := by
  refine meets_ite (fun _ => meets_throw _) fun _ => ?_
  refine meets_ite (fun _ => meets_throw _) fun nonzero => ?_
  exact meets_lift (dividing_ok (Rat.num_ne_zero.mpr nonzero) _ _) (meets_pure _)

/-! Powers -/

def exact (value : Float) : Except Breach Rat := do
  let (significand, exponent) := Binary64.scientific value
  let magnitude ← rational (significand <<< exponent.toNat : Nat) (1 <<< (-exponent).toNat)
  return if Binary64.isNegative value then -magnitude else magnitude

def floatPower (base exponent : Float) : Guarded Rat :=
  let result := Binary64.power base exponent
  if Binary64.isFinite result then exact result else throw .notFinite

def unitPower (base : Rat) (exponent : Int) : Except Breach Rat := do
  let parity : Int ← dividing (· % ·) exponent 2
  return if 0 < base || parity = 0 then 1 else -1

def raised (base : Rat) (exponent : Int) : Except Breach Rat := do
  let power ← rational (base.num ^ exponent.natAbs) (base.den ^ exponent.natAbs)
  if exponent < 0 then ratio 1 power else return power

def exactPower (base : Rat) (exponent : Int) (limits : Limits)
    (machine : Float → Float := Float.log10) : Guarded Rat :=
  if base = 0 then settled (RationalCalc.Arithmetic.zeroPower exponent)
  else if base = 1 || base = -1 then unitPower base exponent
  else if Estimate.exceeds (Estimate.powerDigits base exponent machine) limits.powerDigits then
    throw .tooBig
  else if mostFactors < exponent.natAbs then throw .tooBig
  else raised base exponent

def power (base exponent : Rat) (limits : Limits) (machine : Float → Float := Float.log10) :
    Guarded Rat :=
  let baseFloat := Binary64.nearest base
  let exponentFloat := Binary64.nearest exponent
  if !isInteger exponent || Binary64.isInfinite baseFloat || Binary64.isInfinite exponentFloat then
    floatPower baseFloat exponentFloat
  else exactPower base exponent.num limits machine

theorem exact_ok (value : Float) : exact value = .ok (Binary64.exact value) := by
  have proper : (1 <<< (-(Binary64.scientific value).2).toNat : Nat) ≠ 0 := by
    rw [Nat.one_shiftLeft]
    exact Nat.ne_of_gt (Nat.pow_pos (by decide))
  simp only [exact, rational_ok proper]
  rfl

theorem floatPower_meets (base exponent : Float) :
    Meets (floatPower base exponent) (RationalCalc.Arithmetic.floatPower base exponent) := by
  refine meets_ite (fun _ => ?_) fun _ => meets_throw _
  rw [exact_ok]
  exact meets_pure _

theorem raised_ok {base : Rat} (nonzero : base ≠ 0) (exponent : Int) :
    raised base exponent = .ok (RationalCalc.Arithmetic.raised base exponent) := by
  have proper : base.den ^ exponent.natAbs ≠ 0 := pow_ne_zero _ base.den_nz
  have power : mkRat (base.num ^ exponent.natAbs) (base.den ^ exponent.natAbs) =
      base ^ exponent.natAbs := by
    rw [← Rat.num_pow, ← Rat.den_pow, Rat.mkRat_self]
  rw [raised, rational_ok proper, power, RationalCalc.Arithmetic.raised]
  change (if exponent < 0 then ratio 1 (base ^ exponent.natAbs) else _) = _
  split
  · rw [ratio_ok (pow_ne_zero _ nonzero), one_div]
  · rfl

theorem exactPower_meets (base : Rat) (exponent : Int) (limits : Limits)
    (machine : Float → Float) :
    Meets (exactPower base exponent limits machine)
      (RationalCalc.Arithmetic.exactPower base exponent limits machine) := by
  refine meets_ite (fun _ => meets_settled _) fun nonzero => ?_
  refine meets_ite (fun _ => meets_pure _) fun _ => ?_
  refine meets_ite (fun _ => meets_throw _) fun _ => ?_
  refine meets_ite (fun _ => meets_throw _) fun _ => ?_
  rw [raised_ok nonzero]
  exact meets_pure _

theorem power_meets (base exponent : Rat) (limits : Limits) (machine : Float → Float) :
    Meets (power base exponent limits machine)
      (RationalCalc.Arithmetic.power base exponent limits machine) :=
  meets_ite (fun _ => floatPower_meets _ _) fun _ => exactPower_meets _ _ _ _

/-! Combinations -/

def choiceProduct (n : Int) (k : Nat) : Except Breach Int :=
  (List.range' 1 k).foldlM
    (fun product (up : Nat) => dividing Int.tdiv (product * (n - k + up)) (up : Int)) 1

def combinations (n r : Rat) (limits : Limits) (machine : Float → Float := Float.log10) :
    Guarded Rat := do
  if !isInteger n || !isInteger r then throw .fractionalCombination
  if n.num < 0 || r.num < 0 || n.num < r.num then throw .combinationRange
  let complement := n.num - r.num
  let nFloat ← settled (measured n.num)
  let rFloat ← settled (measured r.num)
  let complementFloat ← settled (measured complement)
  let estimate := Estimate.combinationDigits nFloat rFloat complementFloat machine
  let factors ← settled (admitted estimate (min r.num complement) limits)
  let product ← choiceProduct n.num factors
  return product

theorem choiceProduct_ok (n : Int) (k : Nat) :
    choiceProduct n k = .ok (RationalCalc.Arithmetic.choiceProduct n k) := by
  have rounds (ups : List Nat) (positive : ∀ up ∈ ups, 0 < up) (product : Int) :
      ups.foldlM (fun product (up : Nat) =>
          dividing Int.tdiv (product * (n - k + up)) (up : Int)) product =
        .ok (ups.foldl (fun product (up : Nat) => (product * (n - k + up)).tdiv up) product) := by
    induction ups generalizing product with
    | nil => rfl
    | cons up ups ih =>
        obtain ⟨first, others⟩ := List.forall_mem_cons.mp positive
        have divisor : (up : Int) ≠ 0 := Int.natCast_ne_zero.mpr (Nat.ne_of_gt first)
        rw [List.foldlM_cons, dividing_ok divisor]
        exact ih others _
  apply rounds
  intro up member
  exact (List.mem_range'_1.mp member).1

theorem combinations_meets (n r : Rat) (limits : Limits) (machine : Float → Float) :
    Meets (combinations n r limits machine)
      (RationalCalc.Arithmetic.combinations n r limits machine) := by
  refine meets_ite (fun _ => meets_throw _) fun _ => ?_
  refine meets_ite (fun _ => meets_throw _) fun _ => ?_
  refine meets_bind (meets_settled _) fun nFloat => ?_
  refine meets_bind (meets_settled _) fun rFloat => ?_
  refine meets_bind (meets_settled _) fun complementFloat => ?_
  refine meets_bind (meets_settled _) fun factors => ?_
  exact meets_lift (choiceProduct_ok _ _) (meets_pure _)

end Arithmetic

end RationalCalc.Checked
