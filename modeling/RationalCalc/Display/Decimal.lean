import RationalCalc.PowerOfTen

/-!
The decimal reading of a value: rounded to a number of places, halves away from zero, without zeros
that say nothing. A value that rounds to zero is shown without a sign.
-/

namespace RationalCalc.Display

/-- The magnitude times a power of ten, rounded to the nearest integer, halves up. -/
def scaled (value : Rat) (places : Nat) : Nat :=
  let num := value.num.natAbs * powerOfTen places
  let low := num / value.den
  if value.den ≤ num % value.den * 2 then low + 1 else low

def padded (places n : Nat) : List Char :=
  let digits := Nat.toDigits 10 n
  List.replicate (places - digits.length) '0' ++ digits

def pointed (n : Nat) (negative : Bool) (places : Nat) : List Char :=
  let sign := if negative then ['-'] else []
  let whole := Nat.toDigits 10 (n / powerOfTen places)
  if places = 0 then sign ++ whole
  else sign ++ whole ++ '.' :: padded places (n % powerOfTen places)

def dropEnd (c : Char) (text : List Char) : List Char :=
  (text.reverse.dropWhile (· == c)).reverse

/-- Removes closing zeros after a point, and then a closing point. -/
def tidied (text : List Char) : List Char :=
  if text.contains '.' then dropEnd '.' (dropEnd '0' text) else text

def decimal (value : Rat) (places : Nat) : String :=
  let magnitude := scaled value places
  String.ofList (tidied (pointed magnitude (value.num < 0 && magnitude != 0) places))

end RationalCalc.Display
