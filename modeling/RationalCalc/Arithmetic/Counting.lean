import RationalCalc.Arithmetic.Division
import RationalCalc.Estimate
import RationalCalc.Limits

/-!
Factorials, arrangements and combinations of integers. Each tests its operands, then the estimated
size of its result, and only then multiplies.
-/

namespace RationalCalc.Arithmetic

/-- The largest number of factors that is ever multiplied out. -/
def mostCounted : Nat := 0xffffffffffffffff

/-- An integer as a finite double. -/
def measured (n : Int) : Except Fault Float :=
  let x := Binary64.nearestInt n
  if Binary64.isFinite x then .ok x else .error .tooBig

/-- Refuses a result whose estimate is above the limit, or that takes too many factors. -/
def admitted (estimate : Float) (factors : Int) (limits : Limits) : Except Fault Nat :=
  if Estimate.exceeds estimate limits.countingDigits then .error .tooBig
  else if mostCounted < factors.toNat then .error .tooBig
  else .ok factors.toNat

def factorialProduct (n : Nat) : Nat :=
  (List.range' 2 (n - 1)).foldl (fun product factor => product * factor) 1

def fallingProduct (n : Int) (r : Nat) : Int :=
  (List.range r).foldl (fun product (down : Nat) => product * (n - down)) 1

/-- The number of ways to choose `k` out of `n`: after each factor the product is itself such a
number, so that every division leaves no remainder. -/
def choiceProduct (n : Int) (k : Nat) : Int :=
  (List.range' 1 k).foldl (fun product (up : Nat) => (product * (n - k + up)).tdiv up) 1

def factorial (value : Rat) (limits : Limits) : Except Fault Rat := do
  if !isInteger value then throw .fractionalFactorial
  if value.num < 0 then throw .negativeFactorial
  let n ← measured value.num
  let factors ← admitted (Estimate.factorialDigits n) value.num limits
  return (factorialProduct factors : Int)

def arrangements (n r : Rat) (limits : Limits) (machine : Float → Float := Float.log10) :
    Except Fault Rat := do
  if !isInteger n || !isInteger r then throw .fractionalArrangement
  if n.num < 0 || r.num < 0 || n.num < r.num then throw .arrangementRange
  let nFloat ← measured n.num
  let rFloat ← measured r.num
  let factors ← admitted (Estimate.arrangementDigits nFloat rFloat machine) r.num limits
  return fallingProduct n.num factors

def combinations (n r : Rat) (limits : Limits) (machine : Float → Float := Float.log10) :
    Except Fault Rat := do
  if !isInteger n || !isInteger r then throw .fractionalCombination
  if n.num < 0 || r.num < 0 || n.num < r.num then throw .combinationRange
  let complement := n.num - r.num
  let nFloat ← measured n.num
  let rFloat ← measured r.num
  let complementFloat ← measured complement
  let estimate := Estimate.combinationDigits nFloat rFloat complementFloat machine
  let factors ← admitted estimate (min r.num complement) limits
  return choiceProduct n.num factors

end RationalCalc.Arithmetic
