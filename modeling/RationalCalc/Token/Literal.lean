import RationalCalc.PowerOfTen

/-!
Decimal literals: digits with at most one point and at least one digit. The value is the integer
written by all the digits over a power of ten with one zero per digit after the point, as long as
those digits can be counted in 32 bits. Short literals are accumulated in a machine word, longer ones
in unbounded integers.
-/

namespace RationalCalc.Literal

structure Parts where
  whole : List Char
  fraction : List Char

def split (raw : List Char) : Parts where
  whole := raw.takeWhile (· != '.')
  fraction := (raw.dropWhile (· != '.')).drop 1

/-- A second point is left in the fraction and is no digit. -/
def Parts.wellFormed (parts : Parts) : Bool :=
  !(parts.whole.isEmpty && parts.fraction.isEmpty) &&
    parts.whole.all Char.isDigit && parts.fraction.all Char.isDigit

/-- Wide enough for every short literal. -/
abbrev Word := BitVec 128

def shortWhole : Nat := 18
def shortFraction : Nat := 9

def Parts.isShort (parts : Parts) : Bool :=
  parts.whole.length ≤ shortWhole && parts.fraction.length ≤ shortFraction

def wordDigit (c : Char) : Word :=
  BitVec.ofNat 128 c.toNat - BitVec.ofNat 128 '0'.toNat

def wordOf (digits : List Char) : Word :=
  digits.foldl (fun sofar c => sofar * 10#128 + wordDigit c) 0#128

def wordScale : Nat → Word
  | 0 => 1#128
  | places + 1 => wordScale places * 10#128

def Parts.shortValue (parts : Parts) : Rat :=
  mkRat (wordOf (parts.whole ++ parts.fraction)).toNat (wordScale parts.fraction.length).toNat

def Parts.longValue (parts : Parts) : Rat :=
  let scale : Nat := powerOfTen parts.fraction.length
  let digits : Nat := Nat.ofDigitChars 10 parts.whole 0 * scale + Nat.ofDigitChars 10 parts.fraction 0
  mkRat digits scale

def Parts.value (parts : Parts) : Rat :=
  if parts.isShort then parts.shortValue else parts.longValue

def read? (raw : List Char) : Option Rat :=
  let parts := split raw
  if parts.wellFormed then some parts.value else none

end RationalCalc.Literal
