namespace ImageJobs

/-- The finite value `mantissa * 2 ^ exponent`. What `Double.ofRatio?` gives has a mantissa below
`2 ^ 53` and an exponent from -1074 to 971, and the greatest such mantissa of its value. -/
structure Double where
  mantissa : Nat
  exponent : Int
  deriving DecidableEq, Repr

namespace Double

def zero : Double := ⟨0, -1074⟩

def least : Int := -1074

def greatest : Int := 971

/-- The quotient rounded to the nearest natural number, a tie to the even one. -/
def roundDiv (numerator denominator : Nat) : Nat :=
  let quotient := numerator / denominator
  let twice := 2 * (numerator % denominator)
  if twice < denominator then quotient
  else if denominator < twice then quotient + 1
  else quotient + quotient % 2

/-- The pair whose quotient is that of the given pair divided by `2 ^ exponent`. -/
def unscale (numerator denominator : Nat) (exponent : Int) : Nat × Nat :=
  (numerator * Nat.pow 2 (-exponent).toNat, denominator * Nat.pow 2 exponent.toNat)

/-- The exponent at which the quotient has 53 binary digits, or the least one if that is greater. -/
def exponentOf (numerator denominator : Nat) : Int :=
  let guess := (numerator.log2 : Int) - denominator.log2 - 52
  let (high, low) := unscale numerator denominator guess
  max least (if high / low < Nat.pow 2 52 then guess - 1 else guess)

/-- The double nearest to the quotient, of two the one with the even mantissa; none if the
magnitude is beyond the finite doubles. The denominator has to be positive. -/
def ofRatio? (numerator denominator : Nat) : Option Double :=
  if numerator = 0 then some zero
  else
    let exponent := exponentOf numerator denominator
    let (high, low) := unscale numerator denominator exponent
    let mantissa := roundDiv high low
    let rounded : Double :=
      if mantissa < Nat.pow 2 53 then ⟨mantissa, exponent⟩ else ⟨Nat.pow 2 52, exponent + 1⟩
    if rounded.exponent ≤ greatest then some rounded else none

def times? (left right : Double) : Option Double :=
  let exponent := left.exponent + right.exponent
  ofRatio? (left.mantissa * right.mantissa * Nat.pow 2 exponent.toNat)
    (Nat.pow 2 (-exponent).toNat)

def over? (left right : Double) : Option Double :=
  let exponent := left.exponent - right.exponent
  ofRatio? (left.mantissa * Nat.pow 2 exponent.toNat)
    (right.mantissa * Nat.pow 2 (-exponent).toNat)

def powerOfTen? (exponent : Nat) : Option Double :=
  ofRatio? (Nat.pow 10 exponent) 1

end Double

end ImageJobs
