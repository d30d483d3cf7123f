import RationalCalc.Binary64.Exact

/-!
Logarithms on doubles. For the natural one the argument is split into a power of two and a factor
near one, and the logarithm of the factor is a minimax polynomial in a quotient that is small there.
Of the decimal one the cases with a zero, an infinity, a one, a negative argument or no number are
settled here; what remains is left to the machine, whose function is a parameter.
-/

namespace RationalCalc.Binary64

/-- A polynomial with its constant coefficient first. -/
def polynomial (coefficients : List Float) (x : Float) : Float :=
  match coefficients with
  | [] => 0.0
  | [last] => last
  | c :: rest => c + x * polynomial rest x

/-- The encoding of a positive finite double, and how much its exponent has to be lowered because
the double was too small to have a full significand. -/
def fullSignificand (x : Float) : Nat × Int :=
  if magnitudeBits x < fractionSpan then
    (magnitudeBits (x * Float.ofBits 0x4350000000000000), -54)
  else (magnitudeBits x, 0)

def highUnit : Nat := 0x100000000

def oneBits : Nat := 0x3ff0000000000000
def rootBits : Nat := 0x3fe6a09e00000000

/-- The parts of two's logarithm; the first has few enough bits for an exact product. -/
def lnTwoHigh : Float := 6.93147180369123816490e-01
def lnTwoLow : Float := 1.90821492927058770002e-10

/-- The logarithm of a factor `m` times two to the power `k`, where `m` is between the half and the
whole of the square root of two. -/
def lnReduced (k : Int) (m : Float) : Float :=
  let f := m - 1.0
  let half := 0.5 * f * f
  let s := f / (2.0 + f)
  let z := s * s
  let w := z * z
  let even := w * polynomial
    [3.999999999940941908e-01, 2.222219843214978396e-01, 1.531383769920937332e-01] w
  let odd := z * polynomial
    [6.666666666666735130e-01, 2.857142874366239149e-01, 1.818357216161805012e-01,
      1.479819860511658591e-01] w
  let scale := nearestInt k
  s * (half + (odd + even)) + scale * lnTwoLow - half + f + scale * lnTwoHigh

def ln (x : Float) : Float :=
  if x.isNaN then x
  else if x == 0.0 then -infinity
  else if x < 0.0 then notANumber
  else if isInfinite x then x
  else if x == 1.0 then 0.0
  else
    let (bits, lowered) := fullSignificand x
    let shifted := bits + (oneBits - rootBits)
    let k : Int := lowered + (shifted / fractionSpan : Nat) - 1023
    let m := shifted % fractionSpan + rootBits
    lnReduced k (Float.ofBits (UInt64.ofNat m))

def log10 (x : Float) (machine : Float → Float := Float.log10) : Float :=
  if x.isNaN then x
  else if x == 0.0 then -infinity
  else if x < 0.0 then notANumber
  else if isInfinite x then x
  else if x == 1.0 then 0.0
  else machine x

end RationalCalc.Binary64
