import RationalCalc.Fault

/-!
The three operators that divide.
-/

namespace RationalCalc.Arithmetic

def isInteger (value : Rat) : Bool :=
  value.den = 1

def quotient (a b : Rat) : Except Fault Rat :=
  if b = 0 then .error .zeroDivisor else .ok (a / b)

def floorQuotient (a b : Rat) : Except Fault Rat :=
  if b = 0 then .error .zeroFloorDivisor else .ok (a / b).floor

/-- The remainder of integers that has the sign of the dividend. -/
def remainder (a b : Rat) : Except Fault Rat :=
  if !isInteger a || !isInteger b then .error .fractionalRemainder
  else if b = 0 then .error .zeroModulus
  else .ok (a.num.tmod b.num)

end RationalCalc.Arithmetic
