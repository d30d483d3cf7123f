/-!
Character properties given as lists of code point ranges, both ends included. A property is decided
directly on the ASCII characters and looked up in its ranges on all others.
-/

namespace RationalCalc.Character

def within (ranges : List (Nat × Nat)) (c : Char) : Bool :=
  ranges.any fun (low, high) => low ≤ c.toNat && c.toNat ≤ high

def isAscii (c : Char) : Bool :=
  c.toNat < 128

end RationalCalc.Character
