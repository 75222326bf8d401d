import ImageJobs.Calendar.Instant

namespace ImageJobs

/-- Decimal digits with leading zeros up to the width. -/
def paddedDigits (width value : Nat) : List Char :=
  let digits := Nat.toDigits 10 value
  List.replicate (width - digits.length) '0' ++ digits

namespace Instant

/-- Years outside 0 to 9999 are written with a sign. -/
def writeYear (year : Int) : List Char :=
  if 0 ≤ year ∧ year ≤ 9999 then paddedDigits 4 year.toNat
  else (if year < 0 then '-' else '+') :: paddedDigits 4 year.natAbs

def writeDate (date : Date) : List Char :=
  writeYear date.year ++ '-' :: paddedDigits 2 date.month ++ '-' :: paddedDigits 2 date.day

/-- The fewest of three, six or nine digits that are exact, and nothing for a whole second. -/
def writeFraction (nanosecond : Nat) : List Char :=
  if nanosecond = 0 then []
  else if nanosecond % 1000000 = 0 then '.' :: paddedDigits 3 (nanosecond / 1000000)
  else if nanosecond % 1000 = 0 then '.' :: paddedDigits 6 (nanosecond / 1000)
  else '.' :: paddedDigits 9 nanosecond

def write (instant : Instant) : List Char :=
  let reading := ClockReading.ofInstant instant
  writeDate reading.date ++ 'T' :: paddedDigits 2 reading.hour ++
    ':' :: paddedDigits 2 reading.minute ++ ':' :: paddedDigits 2 reading.second ++
    writeFraction reading.nanosecond ++ ['Z']

def render (instant : Instant) : String :=
  String.ofList instant.write

end Instant

end ImageJobs
