/-!
The exact reading of a value: an integer alone, any other value as a fraction in lowest terms.
-/

namespace RationalCalc.Display

def exact (value : Rat) : String :=
  if value.den = 1 then value.num.repr else value.num.repr ++ "/" ++ value.den.repr

end RationalCalc.Display
