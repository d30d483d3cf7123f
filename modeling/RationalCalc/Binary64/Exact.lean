/-!
Between exact rationals and binary64. A rational goes to the nearest double, ties to the even
neighbour, and beyond the largest finite double to an infinity; a finite double goes to the rational
it stands for, which loses nothing.
-/

namespace RationalCalc.Binary64

/-- The quotient of two naturals rounded to the nearest integer, ties to even. -/
def roundedQuotient (num den : Nat) : Nat :=
  let low := num / den
  let left := 2 * (num % den)
  if left < den then low
  else if den < left then low + 1
  else low + low % 2

def topExponent (num den : Nat) : Int :=
  let guess : Int := num.log2 - den.log2
  if num <<< (-guess).toNat < den <<< guess.toNat then guess - 1 else guess

def minExponent : Int := -1074

/-- The stored bits of a significand; they lie below the exponent field, and that below the sign. -/
def fractionBits : Nat := 52
def fractionSpan : Nat := 0x10000000000000
def infinityBits : Nat := 0x7ff0000000000000
def signBit : Nat := 0x8000000000000000

/-- The encoding of the double nearest to a fraction. A significand rounded up to the next power
of two carries into the exponent field, and past the largest exponent the field stops. -/
def nearestBits (num den : Nat) : Nat :=
  if num = 0 then 0
  else
    let exponent := max (topExponent num den - fractionBits) minExponent
    let significand := roundedQuotient (num <<< (-exponent).toNat) (den <<< exponent.toNat)
    min ((exponent - minExponent).toNat * fractionSpan + significand) infinityBits

def nearest (value : Rat) : Float :=
  let magnitude := nearestBits value.num.natAbs value.den
  Float.ofBits (UInt64.ofNat (if value.num < 0 then magnitude + signBit else magnitude))

def nearestInt (value : Int) : Float :=
  nearest value

def infinity : Float := Float.ofBits (UInt64.ofNat infinityBits)
def notANumber : Float := Float.ofBits 0x7ff8000000000000

def magnitudeBits (value : Float) : Nat :=
  value.toBits.toNat % signBit

def isFinite (value : Float) : Bool :=
  magnitudeBits value < infinityBits

def isInfinite (value : Float) : Bool :=
  magnitudeBits value == infinityBits

def isNegative (value : Float) : Bool :=
  signBit ≤ value.toBits.toNat

def scientific (value : Float) : Nat × Int :=
  let magnitude := magnitudeBits value
  let field := magnitude / fractionSpan
  let fraction := magnitude % fractionSpan
  if field = 0 then (fraction, minExponent)
  else (fraction + fractionSpan, minExponent + field - 1)

def exact (value : Float) : Rat :=
  let (significand, exponent) := scientific value
  let magnitude := mkRat (significand <<< exponent.toNat : Nat) (1 <<< (-exponent).toNat)
  if isNegative value then -magnitude else magnitude

/-- The greater of two; one that is no number is passed over. -/
def larger (a b : Float) : Float :=
  if a.isNaN then b else if a < b then b else a

def smaller (a b : Float) : Float :=
  if a.isNaN then b else if b < a then b else a

end RationalCalc.Binary64
