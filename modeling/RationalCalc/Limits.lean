/-!
What an evaluator is allowed to do: how many decimal digits a result may be estimated to have, how
large a buffer and how many of them its pools keep, and how many places it displays.
-/

namespace RationalCalc

structure Limits where
  /-- Digits of a power. -/
  powerDigits : Float
  /-- Digits of a factorial, of a number of arrangements or of combinations. -/
  countingDigits : Float
  poolCeiling : Nat
  maxFree : Nat
  places : Nat

namespace Limits

def standardPlaces : Nat := 4
def mostPlaces : Nat := 40

def standard : Limits where
  powerDigits := 3000.0
  countingDigits := 8000.0
  poolCeiling := 256
  maxFree := 64
  places := standardPlaces

def withPlaces (limits : Limits) (places : Nat) : Limits :=
  { limits with places := min places mostPlaces }

end Limits

end RationalCalc
