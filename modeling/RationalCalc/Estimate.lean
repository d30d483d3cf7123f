import RationalCalc.Binary64.LogGamma

/-!
How many decimal digits a result would have, estimated without computing it. The estimates are
binary64 numbers, and a result is refused if its estimate is above a limit or is no number. For
operands of up to 53 bits arrangements and combinations are measured by differences of log-gamma;
beyond, where such differences cancel, by lower bounds alone.
-/

namespace RationalCalc.Estimate

open Binary64

def lnTen : Float := 2.302585092994045684
def log10Two : Float := 0.301029995663981195213738894724493027

/-- The decimal logarithm of a magnitude, by its number of bits if it is beyond binary64. -/
def log10Abs (n : Int) (machine : Float → Float := Float.log10) : Float :=
  let x := nearestInt n
  if isFinite x then log10 x.abs machine
  else nearestInt (n.natAbs.log2 + 1 : Nat) * log10Two

/-- The larger of numerator and denominator counts, and a negative exponent like its opposite. -/
def powerDigits (base : Rat) (exponent : Int) (machine : Float → Float := Float.log10) : Float :=
  larger (log10Abs base.num machine) (log10Abs base.den machine) * nearestInt exponent.natAbs

def lnFactorial (n : Float) : Float :=
  lnGamma (n + 1.0)

def factorialDigits (n : Float) : Float :=
  lnFactorial n / lnTen

/-- From here on not every integer is a double. -/
def exactIntegers : Float := 9007199254740992.0

def arrangementDigits (n r : Float) (machine : Float → Float := Float.log10) : Float :=
  let factors := if 0.0 < r then r * log10 (n - r + 1.0) machine else 0.0
  let lower := larger factors (factorialDigits r)
  if n < exactIntegers then larger lower ((lnFactorial n - lnFactorial (n - r)) / lnTen)
  else lower

/-- The complement is `n` less `r`, given apart because the difference of doubles may lose it. -/
def combinationDigits (n r complement : Float) (machine : Float → Float := Float.log10) : Float :=
  let k := smaller r complement
  let lower := if 0.0 < k then k * log10 ((n - k + 1.0) / k) machine else 0.0
  if n < exactIntegers then
    larger lower ((lnFactorial n - lnFactorial r - lnFactorial complement) / lnTen)
  else lower

def exceeds (estimate limit : Float) : Bool :=
  estimate.isNaN || limit < estimate

end RationalCalc.Estimate
