import RationalCalc.Binary64.Exact

/-!
The power function on doubles. The cases with a zero, an infinity, a one or no number among the
operands, and a negative base under a fraction, are settled here; two finite operands that remain
are left to the machine.
-/

namespace RationalCalc.Binary64

def isInteger (x : Float) : Bool :=
  isFinite x && (exact x).den = 1

def isOdd (x : Float) : Bool :=
  isInteger x && (exact x).num % 2 = 1

def zero : Float := 0.0

/-- Zero or infinity, negative if the base is and the exponent is an odd integer. -/
def signedLike (base exponent magnitude : Float) : Float :=
  if isNegative base && isOdd exponent then -magnitude else magnitude

def power (base exponent : Float) : Float :=
  if exponent == 0.0 || base == 1.0 then 1.0
  else if base.isNaN || exponent.isNaN then notANumber
  else if isInfinite exponent then
    if base.abs == 1.0 then 1.0
    else if decide (1.0 < base.abs) == decide (0.0 < exponent) then infinity
    else zero
  else if isInfinite base || base == 0.0 then
    if isInfinite base == decide (0.0 < exponent) then signedLike base exponent infinity
    else signedLike base exponent zero
  else if base < 0.0 && !isInteger exponent then notANumber
  else Float.pow base exponent

end RationalCalc.Binary64
