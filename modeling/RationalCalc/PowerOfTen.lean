/-!
The powers of ten that decimals stand over. Their exponents are machine words of 32 bits: of a number
of places that does not fit, the low bits are left.
-/

namespace RationalCalc

def powerOfTen (places : Nat) : Nat :=
  Nat.pow 10 places.toUInt32.toNat

theorem powerOfTen_few {places : Nat} (few : places < UInt32.size) :
    powerOfTen places = Nat.pow 10 places := by
  have word : places.toUInt32.toNat = places := UInt32.toNat_ofNat_of_lt' few
  rw [powerOfTen, word]

/-- As many places as there are words count as none. -/
theorem powerOfTen_size : powerOfTen UInt32.size = 1 := rfl

theorem powerOfTen_pos (places : Nat) : 0 < powerOfTen places :=
  Nat.pow_pos (by decide)

end RationalCalc
