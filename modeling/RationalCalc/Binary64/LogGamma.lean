import RationalCalc.Binary64.Logarithm

/-!
The logarithm of the absolute value of the gamma function, in binary64 arithmetic. Between zero and
eight it is a rational approximation chosen by where the argument lies, from eight on the asymptotic
series, and below zero the reflection formula. It is infinite at zero and at the negative integers.
-/

namespace RationalCalc.Binary64

def pi : Float := 3.14159265358979311600e+00

def floor (x : Float) : Float :=
  nearestInt (exact x).floor

def sinNear (x : Float) : Float :=
  let z := x * x
  let w := z * z
  let tail := polynomial [8.33333333332248946124e-03, -1.98412698298579493134e-04,
    2.75573137070700676789e-06] z + z * w * polynomial [-2.50507602534068634195e-08,
    1.58969099521155010221e-10] z
  x + z * x * (-1.66666666666666324348e-01 + z * tail)

def cosNear (x : Float) : Float :=
  let z := x * x
  let w := z * z
  let tail := z * polynomial [4.16666666666666019037e-02, -1.38888888888741095749e-03,
    2.48015872894767294178e-05] z + w * w * polynomial [-2.75573143513906633035e-07,
    2.08757232129817482790e-09, -1.13596475577881948265e-11] z
  let half := 0.5 * z
  let rest := 1.0 - half
  rest + (1.0 - rest - half + z * tail)

def sinPi (x : Float) : Float :=
  let turn := 2.0 * (x * 0.5 - floor (x * 0.5))
  let quarter := ((exact (turn * 4.0)).floor + 1) / 2
  let angle := (turn - nearestInt quarter * 0.5) * pi
  if quarter = 1 then cosNear angle
  else if quarter = 2 then sinNear (-angle)
  else if quarter = 3 then -cosNear angle
  else sinNear angle

/-- Where the gamma function is least on the positive half-line; the logarithm there, in two parts,
the second of which makes up for what the first leaves out. -/
def leastAt : Float := 1.46163214496836224576e+00
def leastHigh : Float := -1.21486290535849611461e-01
def leastLow : Float := -3.63867699703950536541e-18

def belowTwo (y : Float) : Float :=
  let z := y * y
  let even := polynomial
    [7.72156649015328655494e-02, 6.73523010531292681824e-02, 7.38555086081402883957e-03,
      1.19270763183362067845e-03, 2.20862790713908385557e-04, 2.52144565451257326939e-05] z
  let odd := z * polynomial
    [3.22467033424113591611e-01, 2.05808084325167332806e-02, 2.89051383673415629091e-03,
      5.10069792153511336608e-04, 1.08011567247583939954e-04, 4.48640949618915160150e-05] z
  y * even + odd - 0.5 * y

def aroundLeast (y : Float) : Float :=
  let z := y * y
  let w := z * y
  let first := polynomial
    [4.83836122723810047042e-01, -3.27885410759859649565e-02, 6.10053870246291332635e-03,
      -1.40346469989232843813e-03, 3.15632070903625950361e-04] w
  let second := polynomial
    [-1.47587722994593911752e-01, 1.79706750811820387126e-02, -3.68452016781138256760e-03,
      8.81081882437654011382e-04, -3.12754168375120860518e-04] w
  let third := polynomial
    [6.46249402391333854778e-02, -1.03142241298341437450e-02, 2.25964780900612472250e-03,
      -5.38595305356740546715e-04, 3.35529192635519073543e-04] w
  leastHigh + (z * first - (leastLow - w * (second + y * third)))

def aboveOne (y : Float) : Float :=
  let num := y * polynomial
    [-7.72156649015328655494e-02, 6.32827064025093366517e-01, 1.45492250137234768737e+00,
      9.77717527963372745603e-01, 2.28963728064692451092e-01, 1.33810918536787660377e-02] y
  let den := polynomial
    [1.0, 2.45597793713041134822e+00, 2.12848976379893395361e+00, 7.69285150456672783825e-01,
      1.04222645593369134254e-01, 3.21709242282423911810e-03] y
  num / den - 0.5 * y

/-- The high word of a positive double, by which the ranges below are told apart. -/
def highWord (x : Float) : Nat :=
  magnitudeBits x / highUnit

/-- From just above zero to two: below nine tenths through the argument plus one. -/
def upToTwo (x : Float) : Float :=
  let high := highWord x
  if high ≤ 0x3feccccc then
    let shift := -ln x
    if 0x3fe76944 ≤ high then shift + belowTwo (1.0 - x)
    else if 0x3fcda661 ≤ high then shift + aroundLeast (x - (leastAt - 1.0))
    else shift + aboveOne x
  else if 0x3ffbb4c3 ≤ high then 0.0 + belowTwo (2.0 - x)
  else if 0x3ff3b4c4 ≤ high then 0.0 + aroundLeast (x - leastAt)
  else 0.0 + aboveOne (x - 1.0)

/-- From two to eight, where `y` is the fractional part: the factors between bring it to two. -/
def upToEight (x : Float) : Float :=
  let whole := (exact x).floor
  let y := x - nearestInt whole
  let num := y * polynomial
    [-7.72156649015328655494e-02, 2.14982415960608852501e-01, 3.25778796408930981787e-01,
      1.46350472652464452805e-01, 2.66422703033638609560e-02, 1.84028451407337715652e-03,
      3.19475326584100867617e-05] y
  let den := polynomial
    [1.0, 1.39200533467621045958e+00, 7.21935547567138069525e-01, 1.71933865632803078993e-01,
      1.86459191715652901344e-02, 7.77942496381893596434e-04, 7.32668430744625636189e-06] y
  let near := 0.5 * y + num / den
  let factors := [6.0, 5.0, 4.0, 3.0, 2.0].drop (7 - whole).toNat
  if factors.isEmpty then near
  else near + ln (factors.foldl (fun product factor => product * (y + factor)) 1.0)

def fromEight (x : Float) : Float :=
  let z := 1.0 / x
  let y := z * z
  let series := 4.18938533204672725052e-01 + z * polynomial
    [8.33333333333329678849e-02, -2.77777777728775536470e-03, 7.93650558643019558500e-04,
      -5.95187557450339963135e-04, 8.36339918996282139126e-04, -1.63092934096575273989e-03] y
  (x - 0.5) * (ln x - 1.0) + series

def lnGammaPositive (x : Float) : Float :=
  if x == 1.0 || x == 2.0 then 0.0
  else if x < 2.0 then upToTwo x
  else if x < 8.0 then upToEight x
  else if highWord x < 0x43900000 then fromEight x
  else x * (ln x - 1.0)

def lnGamma (x : Float) : Float :=
  if !isFinite x then x * x
  else if highWord x < 0x3b900000 then -ln x.abs
  else if isNegative x then
    let sine := sinPi x.abs
    if sine == 0.0 then infinity
    else ln (pi / (sine.abs * x.abs)) - lnGammaPositive x.abs
  else lnGammaPositive x

end RationalCalc.Binary64
