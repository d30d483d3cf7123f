import RationalCalc.Character.Ranges

/-!
The Unicode property White_Space: what the lexer skips and what trimming removes.
-/

namespace RationalCalc.Character

def whiteSpaceRanges : List (Nat × Nat) :=
  [(0x85, 0x85), (0xA0, 0xA0), (0x1680, 0x1680), (0x2000, 0x200A), (0x2028, 0x2029),
    (0x202F, 0x202F), (0x205F, 0x205F), (0x3000, 0x3000)]

/-- Tab to carriage return, the space, and the white space beyond ASCII. -/
def isWhiteSpace (c : Char) : Bool :=
  if isAscii c then c = ' ' || (9 ≤ c.toNat && c.toNat ≤ 13) else within whiteSpaceRanges c

end RationalCalc.Character
