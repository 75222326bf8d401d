import ImageJobs.Calendar.Date

namespace ImageJobs

/-- Seconds since the start of 1970, and nanoseconds into that second. From `10 ^ 9` nanoseconds on
the instant lies in the leap second that follows. -/
structure Instant where
  second : Int
  nanosecond : Nat
  deriving DecidableEq, Repr

namespace Instant

def secondsPerDay : Int := 86400

def nanosPerSecond : Nat := 1000000000

def date (instant : Instant) : Date :=
  .ofDayNumber (instant.second / secondsPerDay)

/-- The seconds since the start of the day. -/
def secondOfDay (instant : Instant) : Nat :=
  (instant.second % secondsPerDay).toNat

end Instant

/-- A date and a time of day as a clock shows them. The second 60 is a leap second. -/
structure ClockReading where
  date : Date
  hour : Nat
  minute : Nat
  second : Nat
  nanosecond : Nat
  deriving DecidableEq, Repr

namespace ClockReading

/-- The instant at which a clock shows the reading that is ahead of UTC by so many seconds. -/
def instant (reading : ClockReading) (offset : Int) : Instant :=
  let leap := reading.second == 60
  let second := if leap then 59 else reading.second
  { second := reading.date.dayNumber * Instant.secondsPerDay +
      (reading.hour * 3600 + reading.minute * 60 + second : Nat) - offset
    nanosecond := reading.nanosecond + if leap then Instant.nanosPerSecond else 0 }

/-- What a clock of UTC shows at the instant. -/
def ofInstant (instant : Instant) : ClockReading :=
  let leap := Instant.nanosPerSecond ≤ instant.nanosecond
  { date := instant.date
    hour := instant.secondOfDay / 3600
    minute := instant.secondOfDay / 60 % 60
    second := instant.secondOfDay % 60 + if leap then 1 else 0
    nanosecond := if leap then instant.nanosecond - Instant.nanosPerSecond
      else instant.nanosecond }

end ClockReading

/-- What can be wrong with the text of a time. -/
inductive TimeFault where
  /-- A number that the calendar, the clock or an offset does not have. -/
  | outOfRange
  | endsEarly
  | badCharacter
  | textAfterEnd
  /-- The time is outside the supported years once it is taken to UTC. -/
  | impossible
  deriving DecidableEq, Repr

namespace TimeFault

def message : TimeFault → String
  | .outOfRange => "input is out of range"
  | .endsEarly => "premature end of input"
  | .badCharacter => "input contains invalid characters"
  | .textAfterEnd => "trailing input"
  | .impossible => "no possible date and time matching input"

end TimeFault

end ImageJobs
