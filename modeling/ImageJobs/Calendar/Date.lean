/-! The Gregorian calendar, extended to all years, and the number of each day counted from
1970-01-01. Within the computation a year starts in March, so that a leap day ends it. -/

namespace ImageJobs

structure Date where
  year : Int
  month : Nat
  day : Nat
  deriving DecidableEq, Repr

namespace Date

def isLeap (year : Int) : Bool :=
  year % 4 == 0 && (year % 100 != 0 || year % 400 == 0)

def daysInMonth (year : Int) (month : Nat) : Nat :=
  match month with
  | 2 => if isLeap year then 29 else 28
  | 4 | 6 | 9 | 11 => 30
  | _ => 31

theorem daysInMonth_le (year : Int) (month : Nat) : daysInMonth year month ≤ 31 := by
  unfold daysInMonth
  split
  · split <;> decide
  · decide
  · decide
  · decide
  · decide
  · decide

/-- Whether the calendar has the date. -/
def isReal (date : Date) : Bool :=
  1 ≤ date.month && date.month ≤ 12 && 1 ≤ date.day &&
    date.day ≤ daysInMonth date.year date.month

theorem bounds_of_isReal {year : Int} {month day : Nat}
    (real : isReal ⟨year, month, day⟩ = true) :
    1 ≤ month ∧ month ≤ 12 ∧ 1 ≤ day ∧ day ≤ daysInMonth year month ∧ day ≤ 31 := by
  simp only [isReal, Bool.and_eq_true, decide_eq_true_eq] at real
  obtain ⟨⟨⟨firstMonth, lastMonth⟩, firstDay⟩, lastDay⟩ := real
  exact ⟨firstMonth, lastMonth, firstDay, lastDay,
    Nat.le_trans lastDay (daysInMonth_le year month)⟩

/-- The day number of 1970-01-01, counted from 0000-03-01. -/
def epoch : Int := 719468

/-- The days from 0000-03-01 to the first of March of the year. -/
def daysBefore (year : Int) : Int :=
  365 * year + year / 4 - year / 100 + year / 400

/-- The days from the first of March to the first of the month that comes that many months later. -/
def daysBeforeMonth (monthsLater : Int) : Int :=
  (153 * monthsLater + 2) / 5

def dayNumber (date : Date) : Int :=
  let year := if date.month ≤ 2 then date.year - 1 else date.year
  let monthsLater : Int := if date.month ≤ 2 then date.month + 9 else date.month - 3
  daysBefore year + daysBeforeMonth monthsLater + date.day - 1 - epoch

/-- The year in which the day lies that comes that many days after 0000-03-01. The mean length of
a year gives it to within one year. -/
def marchYear (days : Int) : Int :=
  let guess := 400 * days / 146097
  if daysBefore (guess + 1) ≤ days then guess + 1
  else if daysBefore guess ≤ days then guess
  else guess - 1

def ofDayNumber (number : Int) : Date :=
  let days := number + epoch
  let year := marchYear days
  let dayOfYear := days - daysBefore year
  let monthsLater := (5 * dayOfYear + 2) / 153
  let day := dayOfYear - daysBeforeMonth monthsLater + 1
  if monthsLater < 10 then ⟨year, (monthsLater + 3).toNat, day.toNat⟩
  else ⟨year + 1, (monthsLater - 9).toNat, day.toNat⟩

theorem daysBefore_marchYear_le (days : Int) : daysBefore (marchYear days) ≤ days := by
  simp only [marchYear]
  split
  · assumption
  split
  · assumption
  · simp only [daysBefore] at *
    omega

theorem lt_daysBefore_marchYear (days : Int) : days < daysBefore (marchYear days + 1) := by
  simp only [marchYear]
  split
  · simp only [daysBefore] at *
    omega
  split
  · omega
  · rename_i _ before
    simpa using before

theorem daysBefore_le_daysBefore {earlier later : Int} (order : earlier ≤ later) :
    daysBefore earlier ≤ daysBefore later := by
  unfold daysBefore
  omega

theorem daysBefore_succ_le (year : Int) : daysBefore (year + 1) ≤ daysBefore year + 366 := by
  unfold daysBefore
  omega

theorem dayNumber_ofDayNumber (number : Int) : (ofDayNumber number).dayNumber = number := by
  have lower := daysBefore_marchYear_le (number + epoch)
  have upper := lt_daysBefore_marchYear (number + epoch)
  have width := daysBefore_succ_le (marchYear (number + epoch))
  obtain ⟨year, same⟩ : ∃ year, marchYear (number + epoch) = year := ⟨_, rfl⟩
  simp only [ofDayNumber, same] at *
  obtain ⟨dayOfYear, offset⟩ : ∃ dayOfYear, number + epoch - daysBefore year = dayOfYear := ⟨_, rfl⟩
  simp only [offset, daysBeforeMonth]
  split
  · have early : ¬((5 * dayOfYear + 2) / 153 + 3).toNat ≤ 2 := by omega
    simp only [dayNumber, early, if_false, daysBeforeMonth]
    omega
  · have late : ((5 * dayOfYear + 2) / 153 - 9).toNat ≤ 2 := by omega
    simp only [dayNumber, late, if_true, daysBeforeMonth, Int.add_sub_cancel]
    omega

theorem daysBefore_succ (year : Int) :
    daysBefore (year + 1) = daysBefore year + if isLeap (year + 1) then 366 else 365 := by
  unfold daysBefore isLeap
  split <;> simp_all <;> omega

/-- The calendar has the date of every day. -/
theorem isReal_ofDayNumber (number : Int) : (ofDayNumber number).isReal = true := by
  have lower := daysBefore_marchYear_le (number + epoch)
  have upper := lt_daysBefore_marchYear (number + epoch)
  obtain ⟨year, same⟩ : ∃ year, marchYear (number + epoch) = year := ⟨_, rfl⟩
  rw [same] at lower upper
  have length := daysBefore_succ year
  obtain ⟨dayOfYear, offset⟩ : ∃ dayOfYear, number + epoch - daysBefore year = dayOfYear := ⟨_, rfl⟩
  obtain ⟨monthsLater, months⟩ : ∃ monthsLater, (5 * dayOfYear + 2) / 153 = monthsLater := ⟨_, rfl⟩
  have inYear : 0 ≤ dayOfYear ∧ dayOfYear < if isLeap (year + 1) then 366 else 365 := by omega
  simp only [ofDayNumber, same, offset, months, daysBeforeMonth]
  clear lower upper length offset same
  by_cases early : monthsLater < 10
  · have cases : monthsLater = 0 ∨ monthsLater = 1 ∨ monthsLater = 2 ∨ monthsLater = 3 ∨
        monthsLater = 4 ∨ monthsLater = 5 ∨ monthsLater = 6 ∨ monthsLater = 7 ∨
        monthsLater = 8 ∨ monthsLater = 9 := by omega
    simp only [early, ↓reduceIte]
    rcases cases with rfl | rfl | rfl | rfl | rfl | rfl | rfl | rfl | rfl | rfl <;>
      simp [isReal, daysInMonth] <;> omega
  · have cases : monthsLater = 10 ∨ monthsLater = 11 := by
      split at inYear <;> omega
    simp only [early, ↓reduceIte]
    rcases cases with rfl | rfl
    · simp [isReal, daysInMonth]
      omega
    · simp [isReal, daysInMonth]
      split at inYear <;> simp_all <;> omega

/-- A day that lies between the starts of two March years has a year between them. -/
theorem le_year_ofDayNumber {number year : Int} (start : daysBefore year ≤ number + epoch) :
    year ≤ (ofDayNumber number).year := by
  have upper := lt_daysBefore_marchYear (number + epoch)
  have least : year ≤ marchYear (number + epoch) := by
    rcases Int.lt_or_le (marchYear (number + epoch)) year with less | least
    · have := daysBefore_le_daysBefore (show marchYear (number + epoch) + 1 ≤ year from less)
      omega
    · exact least
  simp only [ofDayNumber]
  split
  · exact least
  · exact Int.le_add_one least

theorem year_ofDayNumber_le {number year : Int} (stop : number + epoch < daysBefore year) :
    (ofDayNumber number).year ≤ year := by
  have lower := daysBefore_marchYear_le (number + epoch)
  have greatest : marchYear (number + epoch) < year := by
    rcases Int.lt_or_le (marchYear (number + epoch)) year with less | greater
    · exact less
    · have := daysBefore_le_daysBefore greater
      omega
  simp only [ofDayNumber]
  split
  · exact Int.le_of_lt greatest
  · exact greatest

/-- A date of the calendar lies between the first of January of its year and that of the next,
which come 306 days after the first of March before. -/
theorem dayNumber_bounds {date : Date} (real : date.isReal = true) :
    daysBefore (date.year - 1) + 306 ≤ date.dayNumber + epoch ∧
      date.dayNumber + epoch < daysBefore date.year + 306 := by
  obtain ⟨year, month, day⟩ := date
  obtain ⟨firstMonth, lastMonth, firstDay, -, short⟩ := bounds_of_isReal real
  by_cases early : month ≤ 2
  · simp only [dayNumber, early, if_true, daysBeforeMonth, daysBefore]
    omega
  · simp only [dayNumber, early, if_false, daysBeforeMonth, daysBefore]
    omega

end Date

end ImageJobs
