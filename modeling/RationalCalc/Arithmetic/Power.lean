import RationalCalc.Arithmetic.Division
import RationalCalc.Binary64.Power
import RationalCalc.Estimate
import RationalCalc.Limits

/-!
Powers. An integer exponent gives the exact power, provided its estimated size is within the limit;
an exponent that is no integer, and operands beyond binary64, go through the power function on
doubles, whose result is then taken as exact.
-/

namespace RationalCalc.Arithmetic

def mostFactors : Nat := 0xffffffff

def floatPower (base exponent : Float) : Except Fault Rat :=
  let result := Binary64.power base exponent
  if Binary64.isFinite result then .ok (Binary64.exact result) else .error .notFinite

def zeroPower (exponent : Int) : Except Fault Rat :=
  if exponent < 0 then .error .zeroToNegative
  else if exponent = 0 then .ok 1
  else .ok 0

/-- A power of one or of its opposite. -/
def unitPower (base : Rat) (exponent : Int) : Rat :=
  if 0 < base || exponent % 2 = 0 then 1 else -1

/-- Numerator and denominator are raised apart: a fraction in lowest terms stays in lowest terms. -/
def raised (base : Rat) (exponent : Int) : Rat :=
  if exponent < 0 then (base ^ exponent.natAbs)⁻¹ else base ^ exponent.natAbs

def exactPower (base : Rat) (exponent : Int) (limits : Limits)
    (machine : Float → Float := Float.log10) : Except Fault Rat :=
  if base = 0 then zeroPower exponent
  else if base = 1 || base = -1 then .ok (unitPower base exponent)
  else if Estimate.exceeds (Estimate.powerDigits base exponent machine) limits.powerDigits then
    .error .tooBig
  else if mostFactors < exponent.natAbs then .error .tooBig
  else .ok (raised base exponent)

def power (base exponent : Rat) (limits : Limits) (machine : Float → Float := Float.log10) :
    Except Fault Rat :=
  let baseFloat := Binary64.nearest base
  let exponentFloat := Binary64.nearest exponent
  if !isInteger exponent || Binary64.isInfinite baseFloat || Binary64.isInfinite exponentFloat then
    floatPower baseFloat exponentFloat
  else exactPower base exponent.num limits machine

end RationalCalc.Arithmetic
