import ImageJobs.Calendar.Date

namespace ImageJobs.Date

/-- The days of that many years, from year zero on. -/
def daysOfYears : Nat → Nat
  | 0 => 0
  | year + 1 => daysOfYears year + if isLeap year then 366 else 365

/-- The days of that many months of the year, from January on. -/
def daysOfMonths (year : Int) : Nat → Nat
  | 0 => 0
  | month + 1 => daysOfMonths year month + daysInMonth year (month + 1)

/-- The days that come before the date, counted from the start of year zero. -/
def countBefore (date : Date) : Nat :=
  daysOfYears date.year.toNat + daysOfMonths date.year (date.month - 1) + (date.day - 1)

/-- The number of the first day of year zero. -/
def firstDay : Int := -719528

variable {date : Date}

theorem daysOfYears_eq (year : Nat) : (daysOfYears year : Int) = daysBefore (year - 1) + 366 := by
  induction year with
  | zero => rfl
  | succ year ih =>
    have step := daysBefore_succ ((year : Int) - 1)
    rw [Int.sub_add_cancel] at step
    simp only [daysOfYears, Int.natCast_add, Int.natCast_one, Int.add_sub_cancel, ih, step]
    split <;> omega

/-- The days from January on, with those of February left open until the year is known. -/
theorem daysOfMonths_eq {month : Nat} (late : 3 ≤ month) (most : month ≤ 12) (year : Int) :
    (daysOfMonths year (month - 1) : Int) =
      daysBeforeMonth (month - 3) + 31 + if isLeap year then 29 else 28 := by
  have cases : month = 3 ∨ month = 4 ∨ month = 5 ∨ month = 6 ∨ month = 7 ∨ month = 8 ∨
      month = 9 ∨ month = 10 ∨ month = 11 ∨ month = 12 := by omega
  rcases cases with rfl | rfl | rfl | rfl | rfl | rfl | rfl | rfl | rfl | rfl <;>
    simp only [daysOfMonths, daysInMonth] <;> split <;> decide

/-- A date has the number that the count gives it, whatever month the years are taken to start
with. -/
theorem countBefore_eq (real : date.isReal = true) (nonneg : 0 ≤ date.year) :
    (date.countBefore : Int) = date.dayNumber - firstDay := by
  obtain ⟨year, month, day⟩ := date
  dsimp only at nonneg
  obtain ⟨year, rfl⟩ := Int.eq_ofNat_of_zero_le nonneg
  obtain ⟨firstMonth, lastMonth, firstOfMonth, -, -⟩ := bounds_of_isReal real
  have years := daysOfYears_eq year
  have length := daysBefore_succ ((year : Int) - 1)
  rw [Int.sub_add_cancel] at length
  simp only [countBefore, Int.toNat_natCast, dayNumber, firstDay, epoch]
  by_cases early : month ≤ 2
  · have cases : month = 1 ∨ month = 2 := by omega
    rcases cases with rfl | rfl
    · simp [daysOfMonths, daysBeforeMonth]
      omega
    · simp [daysOfMonths, daysInMonth, daysBeforeMonth]
      omega
  · have months := daysOfMonths_eq (by omega : 3 ≤ month) lastMonth year
    simp only [early, if_false]
    split at length <;> simp_all <;> omega

/-- The years take their days in order. -/
theorem le_year_iff (real : date.isReal = true) (year : Nat) :
    (year : Int) ≤ date.year ↔ (daysOfYears year : Int) ≤ date.dayNumber - firstDay := by
  obtain ⟨start, stop⟩ := dayNumber_bounds real
  rw [daysOfYears_eq]
  unfold firstDay epoch at *
  constructor
  · intro reached
    have order := daysBefore_le_daysBefore (show (year : Int) - 1 ≤ date.year - 1 by omega)
    omega
  · intro reached
    rcases Int.lt_or_le date.year year with before | reached
    · have order := daysBefore_le_daysBefore (show date.year ≤ (year : Int) - 1 by omega)
      omega
    · exact reached

end ImageJobs.Date
