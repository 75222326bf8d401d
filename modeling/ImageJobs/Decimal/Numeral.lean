import ImageJobs.Decimal.Double
import ImageJobs.Json.Value

/-! The number that a numeral denotes: an integer of 64 bits if it is written as one, and otherwise
a double.

The double is found in two steps. As many leading digits as fit 64 bits make the significand, and
the value is that significand times or over a power of ten, each rounded to a double. So the result
can differ from the nearest double in its last place. -/

namespace ImageJobs

inductive Number where
  | integer (value : Int)
  | floating (negative : Bool) (magnitude : Double)
  deriving DecidableEq, Repr

namespace Numeral

def significandLimit : Nat := Nat.pow 2 64

/-- The leading digits that make a number below the limit, and the digits left over. -/
def takeDigits (significand : Nat) : List (Fin 10) → Nat × List (Fin 10)
  | [] => (significand, [])
  | digit :: rest =>
    let next := significand * 10 + digit.val
    if next < significandLimit then takeDigits next rest else (significand, digit :: rest)

def wholeDigits (numeral : Numeral) : List (Fin 10) :=
  (Nat.toDigits 10 numeral.whole).map digitValue

/-- The significand and the power of ten that belongs to it, before a written exponent. Digits of
the fraction count also after the whole part has overflowed, as long as they fit. -/
def significand (numeral : Numeral) : Nat × Int :=
  let (whole, left) := takeDigits 0 numeral.wholeDigits
  let (both, dropped) := takeDigits whole numeral.fraction
  (both, (left.length : Int) - (numeral.fraction.length - dropped.length : Nat))

/-- Divides by `10 ^ places`, in steps of at most `10 ^ 308`. -/
def shrink? (double : Double) (places : Nat) : Option Double :=
  if double.mantissa = 0 then some double
  else if places ≤ 308 then (Double.powerOfTen? places).bind double.over?
  else do shrink? (← (Double.powerOfTen? 308).bind double.over?) (places - 308)
termination_by places

/-- None beyond the finite doubles. -/
def magnitude? (significand : Nat) (exponent : Int) : Option Double := do
  let start ← Double.ofRatio? significand 1
  if start.mantissa = 0 then some start
  else if exponent < 0 then shrink? start exponent.natAbs
  else if exponent ≤ 308 then (Double.powerOfTen? exponent.natAbs).bind start.times?
  else none

def floating? (numeral : Numeral) : Option Number := do
  let (significand, exponent) := numeral.significand
  return .floating numeral.negative (← magnitude? significand (exponent + numeral.exponent.getD 0))

/-- Negative zero is a double. None for a number beyond the finite doubles. -/
def number? (numeral : Numeral) : Option Number :=
  let value : Int := if numeral.negative then -(numeral.whole : Int) else numeral.whole
  if numeral.fraction.isEmpty && numeral.exponent.isNone && -(Nat.pow 2 63 : Int) ≤ value &&
      value < Nat.pow 2 64 && !(numeral.negative && numeral.whole == 0) then
    some (.integer value)
  else numeral.floating?

end Numeral

end ImageJobs
