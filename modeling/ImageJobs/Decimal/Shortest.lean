import ImageJobs.Decimal.Double

namespace ImageJobs.Double

/-- The reals that round to a positive double, in units of a quarter of its last place: the value
lies at `4 * mantissa`, and the gap below a power of two is half as wide as the one above. -/
def lowerQuarters (double : Double) : Nat :=
  if double.mantissa = Nat.pow 2 52 ∧ least < double.exponent then 4 * double.mantissa - 1
  else 4 * double.mantissa - 2

def upperQuarters (double : Double) : Nat :=
  4 * double.mantissa + 2

/-- A quarter of the last place divided by `10 ^ place`, as a numerator and a denominator. -/
def quarterPerStep (double : Double) (place : Int) : Nat × Nat :=
  let exponent := double.exponent - 2
  (Nat.pow 2 exponent.toNat * Nat.pow 10 (-place).toNat,
    Nat.pow 2 (-exponent).toNat * Nat.pow 10 place.toNat)

/-- Whether `step * 10 ^ place` rounds to the double. The ends of the interval do if the mantissa
is even. -/
def readsBack (double : Double) (place : Int) (step : Nat) : Bool :=
  let (high, low) := double.quarterPerStep place
  let point := step * low
  let lower := double.lowerQuarters * high
  let upper := double.upperQuarters * high
  if double.mantissa % 2 = 0 then lower ≤ point && point ≤ upper
  else lower < point && point < upper

/-- The multiple of `10 ^ place` next to the double that reads back. If both do it is the nearer
one, and of two equally near ones the even one. -/
def stepAt? (double : Double) (place : Int) : Option Nat :=
  let (high, low) := double.quarterPerStep place
  let value := 4 * double.mantissa * high
  [roundDiv value low, value / low, value / low + 1].find? (double.readsBack place)

/-- Tries ever finer decimal places. -/
def shortestFrom (double : Double) : Nat → Int → Nat × Int
  | 0, place => (0, place)
  | fuel + 1, place =>
    match double.stepAt? place with
    | some step => (step, place)
    | none => double.shortestFrom fuel (place - 1)

/-- A place above that of the leading digit: 0.30103 exceeds the decimal logarithm of two. -/
def startPlace (double : Double) : Int :=
  ((double.mantissa.log2 : Int) + double.exponent + 1) * 30103 / 100000 + 1

/-- The shortest decimal that reads back, as a number and the power of ten that it counts. -/
def shortest (double : Double) : Nat × Int :=
  if double.mantissa = 0 then (0, 0) else double.shortestFrom 25 double.startPlace

/-- A number of digits that counts `10 ^ place`, with at least one digit after the point. -/
def positional (digits : List Char) (place : Int) : List Char :=
  if 0 ≤ place then digits ++ List.replicate place.toNat '0' ++ ['.', '0']
  else
    let places := (-place).toNat
    let padded := List.replicate (places + 1 - digits.length) '0' ++ digits
    padded.take (padded.length - places) ++ '.' :: padded.drop (padded.length - places)

/-- The first digit, a point and the other digits if there are any, and the place of the first digit
with its sign. -/
def scientific (digits : List Char) (leading : Int) : List Char :=
  digits.take 1 ++ (if digits.length ≤ 1 then [] else '.' :: digits.drop 1) ++
    'e' :: (if leading < 0 then '-' else '+') :: Nat.toDigits 10 leading.natAbs

/-- Written without an exponent from `10 ^ -5` up to, but not at, `10 ^ 16`. -/
def write (double : Double) : List Char :=
  let (step, place) := double.shortest
  let digits := Nat.toDigits 10 step
  let leading := place + digits.length - 1
  if -5 ≤ leading ∧ leading < 16 then positional digits place else scientific digits leading

end ImageJobs.Double
