import ImageJobs.Calendar.Instant
import ImageJobs.Text.Basic

/-! Reading of RFC 3339 times, with some freedom: blanks may stand around the numbers of the date
and of the time of day, a month, day, hour, minute or second may have one digit, a year with a sign
may have any number of them, a blank may stand for the `T`, and `UTC` for the `Z`. -/

namespace ImageJobs.TimeReader

open Text (skipBlank isBlank)

/-- The value of one to `width` digits, and what follows them. -/
def readNumber (width : Nat) : List Char → Except TimeFault (Nat × List Char)
  | [] => .error .endsEarly
  | head :: tail =>
    if head.isDigit then
      let digits := ((head :: tail).take width).takeWhile Char.isDigit
      .ok (Nat.ofDigitChars 10 digits 0, (head :: tail).drop digits.length)
    else .error .badCharacter

/-- A number after blanks that has to lie in the inclusive range. -/
def readField (least greatest : Nat) (text : List Char) : Except TimeFault (Nat × List Char) := do
  let (value, rest) ← readNumber 2 (skipBlank text)
  if least ≤ value ∧ value ≤ greatest then .ok (value, rest) else .error .outOfRange

/-- A mark after blanks. -/
def readMark (mark : Char) (text : List Char) : Except TimeFault (List Char) :=
  match skipBlank text with
  | [] => .error .endsEarly
  | head :: tail => if head = mark then .ok tail else .error .badCharacter

/-- Years are kept in 32 bits. -/
def checkYear (year : Int) : Except TimeFault Int :=
  if -(Nat.pow 2 31 : Int) ≤ year ∧ year < Nat.pow 2 31 then .ok year else .error .outOfRange

/-- Four digits at most, or a sign and any number of them. -/
def readYear (text : List Char) : Except TimeFault (Int × List Char) := do
  match skipBlank text with
  | '-' :: rest =>
    let (value, rest) ← readNumber rest.length rest
    return (← checkYear (-(value : Int)), rest)
  | '+' :: rest =>
    let (value, rest) ← readNumber rest.length rest
    return (← checkYear value, rest)
  | rest =>
    let (value, rest) ← readNumber 4 rest
    return (value, rest)

def readDate (text : List Char) : Except TimeFault (Date × List Char) := do
  let (year, rest) ← readYear text
  let rest ← readMark '-' rest
  let (month, rest) ← readField 1 12 rest
  let rest ← readMark '-' rest
  let (day, rest) ← readField 1 31 rest
  return (⟨year, month, day⟩, rest)

def readSeparator : List Char → Except TimeFault (List Char)
  | [] => .error .endsEarly
  | head :: tail =>
    if head = 'T' ∨ head = 't' ∨ head = ' ' then .ok tail else .error .badCharacter

/-- Digits after the ninth are dropped. -/
def readFraction : List Char → Except TimeFault (Nat × List Char)
  | '.' :: rest => do
    let (value, after) ← readNumber 9 rest
    let places := rest.length - after.length
    return (value * Nat.pow 10 (9 - places), after.dropWhile Char.isDigit)
  | rest => .ok (0, rest)

def readClock (date : Date) (text : List Char) : Except TimeFault (ClockReading × List Char) := do
  let (hour, rest) ← readField 0 23 text
  let rest ← readMark ':' rest
  let (minute, rest) ← readField 0 59 rest
  let rest ← readMark ':' rest
  let (second, rest) ← readField 0 60 rest
  let (nanosecond, rest) ← readFraction rest
  return (⟨date, hour, minute, second, nanosecond⟩, rest)

/-- Two characters that have to be digits. One character that takes a single byte is an early end,
and one that takes more is a bad character. -/
def readPair : List Char → Except TimeFault (Nat × List Char)
  | [] => .error .endsEarly
  | [only] => if only.utf8Size = 1 then .error .endsEarly else .error .badCharacter
  | first :: second :: rest =>
    if first.isDigit ∧ second.isDigit then .ok (Nat.ofDigitChars 10 [first, second] 0, rest)
    else .error .badCharacter

/-- Hours and minutes, between which colons and blanks may stand, in seconds. -/
def readHoursMinutes (text : List Char) : Except TimeFault (Nat × List Char) := do
  let (hours, rest) ← readPair text
  let (minutes, rest) ← readPair (rest.dropWhile fun char => char == ':' || isBlank char)
  if minutes < 60 then return (hours * 3600 + minutes * 60, rest) else .error .outOfRange

/-- The seconds by which the clock is ahead of UTC. -/
def readOffset (text : List Char) : Except TimeFault (Int × List Char) :=
  match text with
  | [] => .error .endsEarly
  | 'Z' :: rest => .ok (0, rest)
  | 'z' :: rest => .ok (0, rest)
  | '+' :: rest => do
    let (seconds, rest) ← readHoursMinutes rest
    return (seconds, rest)
  | '-' :: rest => do
    let (seconds, rest) ← readHoursMinutes rest
    return (-(seconds : Int), rest)
  | '\u2212' :: rest => do
    let (seconds, rest) ← readHoursMinutes rest
    return (-(seconds : Int), rest)
  | first :: second :: third :: rest =>
    if [first, second, third].map Char.toUpper = ['U', 'T', 'C'] then .ok (0, rest)
    else .error .badCharacter
  | _ => .error .badCharacter

def leastYear : Int := -262143

def greatestYear : Int := 262142

def isSupported (date : Date) : Bool :=
  leastYear ≤ date.year && date.year ≤ greatestYear

/-- The instant of the reading, if the calendar has its date and both the date and the instant lie
in the supported years. -/
def locate (reading : ClockReading) (offset : Int) : Except TimeFault Instant :=
  if !reading.date.isReal || !isSupported reading.date then .error .outOfRange
  else if offset ≤ -Instant.secondsPerDay ∨ Instant.secondsPerDay ≤ offset then
    .error .outOfRange
  else
    let instant := reading.instant offset
    if isSupported instant.date then .ok instant else .error .impossible

end TimeReader

namespace Instant

open TimeReader

def ofChars (text : List Char) : Except TimeFault Instant := do
  let (date, rest) ← readDate text
  let rest ← readSeparator rest
  let (reading, rest) ← readClock date rest
  let (offset, rest) ← readOffset (Text.skipBlank rest)
  if (Text.skipBlank rest).isEmpty then locate reading offset else .error .textAfterEnd

def parse (text : String) : Except TimeFault Instant :=
  ofChars text.toList

end Instant

end ImageJobs
