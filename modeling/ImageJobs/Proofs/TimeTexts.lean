import Mathlib.Algebra.Group.Nat.Defs
import ImageJobs.Calendar.TimeReader
import ImageJobs.Calendar.TimeWriter
import ImageJobs.Proofs.WrittenNumbers

/-! The times of RFC 3339 as a relation between a text and what it says: a date of the calendar, a
time of day and the offset of the clock. Every such text is read as the instant it says
(`ofChars_of_rfc3339`), and the written form of an instant is such a text (`rfc3339_write`), so that
what was written is read back (`parse_render_instant`). -/

namespace ImageJobs

open Json (EndsDigits)

/-- A number of that many digits. -/
structure Digits (width value : Nat) (text : List Char) : Prop where
  length : text.length = width
  all : ∀ char ∈ text, char.isDigit = true
  value : Nat.ofDigitChars 10 text 0 = value

namespace Digits

variable {width value : Nat} {text : List Char}

theorem ofDigitChars_lt (all : ∀ char ∈ text, char.isDigit = true) (start : Nat) :
    Nat.ofDigitChars 10 text start < (start + 1) * 10 ^ text.length := by
  induction text generalizing start with
  | nil => simp
  | cons head tail ih =>
    have digit := all head List.mem_cons_self
    simp only [Char.isDigit, Bool.and_eq_true, decide_eq_true_eq] at digit
    have small : head.toNat - '0'.toNat ≤ 9 := by
      have : head.toNat ≤ 57 := digit.2
      change head.toNat - 48 ≤ 9
      omega
    calc Nat.ofDigitChars 10 (head :: tail) start
        = Nat.ofDigitChars 10 tail (10 * start + (head.toNat - '0'.toNat)) := Nat.ofDigitChars_cons
      _ < (10 * start + (head.toNat - '0'.toNat) + 1) * 10 ^ tail.length :=
        ih (fun char member => all char (List.mem_cons_of_mem head member)) _
      _ ≤ (start + 1) * 10 * 10 ^ tail.length := Nat.mul_le_mul_right _ (by omega)
      _ = (start + 1) * 10 ^ (head :: tail).length := by
        rw [List.length_cons, Nat.pow_succ', Nat.mul_assoc]

theorem lt (digits : Digits width value text) : value < 10 ^ width := by
  have bound := ofDigitChars_lt digits.all 0
  rwa [digits.value, digits.length, Nat.zero_add, Nat.one_mul] at bound

theorem nonempty (digits : Digits width value text) (positive : 0 < width) : text ≠ [] := by
  rintro rfl
  have none : 0 = width := digits.length
  omega

/-- A number that fits the width is written with that many digits. -/
theorem padded (positive : 0 < width) (small : value < 10 ^ width) :
    Digits width value (paddedDigits width value) := by
  have short := (Nat.length_toDigits_le_iff (by decide : 1 < 10) positive).mpr small
  refine ⟨?_, ?_, ?_⟩
  · simp only [paddedDigits, List.length_append, List.length_replicate]
    omega
  · intro char member
    rcases List.mem_append.mp member with zero | digit
    · obtain rfl := List.eq_of_mem_replicate zero
      rfl
    · exact Nat.isDigit_of_mem_toDigits (by decide) (by decide) digit
  · simp only [paddedDigits, Nat.ofDigitChars_append, Nat.ofDigitChars_replicate_zero, Nat.mul_zero,
      Nat.ofDigitChars_ten_toDigits]

end Digits

namespace Rfc3339

/-- A text of a date that the calendar has. -/
inductive DateText : List Char → Date → Prop where
  | intro {year month day : Nat} {yearText monthText dayText : List Char}
      (years : Digits 4 year yearText) (months : Digits 2 month monthText)
      (days : Digits 2 day dayText) (real : Date.isReal ⟨year, month, day⟩ = true) :
      DateText (yearText ++ '-' :: monthText ++ '-' :: dayText) ⟨year, month, day⟩

/-- A point and any number of digits, in nanoseconds: those after the ninth count nothing. -/
inductive FractionText : List Char → Nat → Prop where
  | none : FractionText [] 0
  | some {digits : List Char} (nonempty : digits ≠ [])
      (all : ∀ char ∈ digits, char.isDigit = true) :
      FractionText ('.' :: digits)
        (Nat.ofDigitChars 10 (digits.take 9) 0 * 10 ^ (9 - digits.length))

/-- A time of day up to a leap second. -/
inductive ClockText (date : Date) : List Char → ClockReading → Prop where
  | intro {hour minute second nanosecond : Nat}
      {hourText minuteText secondText fraction : List Char}
      (hours : Digits 2 hour hourText) (minutes : Digits 2 minute minuteText)
      (seconds : Digits 2 second secondText) (inDay : hour ≤ 23) (inHour : minute ≤ 59)
      (inMinute : second ≤ 60) (places : FractionText fraction nanosecond) :
      ClockText date (hourText ++ ':' :: minuteText ++ ':' :: secondText ++ fraction)
        ⟨date, hour, minute, second, nanosecond⟩

/-- The seconds by which the clock is ahead of UTC. -/
inductive OffsetText : List Char → Int → Prop where
  | utc {mark : Char} (known : mark = 'Z' ∨ mark = 'z') : OffsetText [mark] 0
  | ahead {hours minutes : Nat} {hourText minuteText : List Char} (hour : Digits 2 hours hourText)
      (minute : Digits 2 minutes minuteText) (inDay : hours ≤ 23) (inHour : minutes ≤ 59) :
      OffsetText ('+' :: hourText ++ ':' :: minuteText) (hours * 3600 + minutes * 60 : Nat)
  | behind {hours minutes : Nat} {hourText minuteText : List Char} (hour : Digits 2 hours hourText)
      (minute : Digits 2 minutes minuteText) (inDay : hours ≤ 23) (inHour : minutes ≤ 59) :
      OffsetText ('-' :: hourText ++ ':' :: minuteText) (-(hours * 3600 + minutes * 60 : Nat))

end Rfc3339

/-- The text is a time of RFC 3339: what the clock shows, and by how much it is ahead of UTC. A
small letter or a blank may separate the two parts of what it shows. -/
inductive Rfc3339 : List Char → ClockReading → Int → Prop where
  | intro {date : Date} {reading : ClockReading} {offset : Int} {separator : Char}
      {dateText clockText offsetText : List Char} (days : Rfc3339.DateText dateText date)
      (separates : separator = 'T' ∨ separator = 't' ∨ separator = ' ')
      (clock : Rfc3339.ClockText date clockText reading)
      (zone : Rfc3339.OffsetText offsetText offset) :
      Rfc3339 (dateText ++ separator :: clockText ++ offsetText) reading offset

namespace TimeReader

open Text (skipBlank isBlank)

theorem isBlank_of_isDigit {char : Char} (digit : char.isDigit = true) : isBlank char = false := by
  simp only [Char.isDigit, Bool.and_eq_true, decide_eq_true_eq] at digit
  have least : 48 ≤ char.toNat := digit.1
  have most : char.toNat ≤ 57 := digit.2
  exact Text.within_eq_false (by decide) least most

theorem skipBlank_cons {head : Char} (dark : isBlank head = false) (tail : List Char) :
    skipBlank (head :: tail) = head :: tail := by
  simp [skipBlank, dark]

theorem readNumber_append {width : Nat} {digits rest : List Char} (nonempty : digits ≠ [])
    (all : ∀ char ∈ digits, char.isDigit = true) (short : digits.length ≤ width)
    (stop : EndsDigits (rest.take (width - digits.length))) :
    readNumber width (digits ++ rest) = .ok (Nat.ofDigitChars 10 digits 0, rest) := by
  have run : ((digits ++ rest).take width).takeWhile Char.isDigit = digits := by
    rw [List.take_append, List.take_of_length_le short, List.takeWhile_append_of_pos all,
      stop.takeWhile_eq_nil, List.append_nil]
  cases digits with
  | nil => exact absurd rfl nonempty
  | cons head tail =>
    have first : head.isDigit = true := all head List.mem_cons_self
    rw [List.cons_append] at run ⊢
    simp only [readNumber, first, ↓reduceIte, run]
    rw [← List.cons_append, List.drop_left]

variable {width value : Nat} {text : List Char}

theorem readNumber_digits (digits : Digits width value text) (positive : 0 < width)
    (rest : List Char) : readNumber width (text ++ rest) = .ok (value, rest) := by
  have full : EndsDigits (rest.take (width - text.length)) := by
    simp [digits.length, EndsDigits]
  have read := readNumber_append (digits.nonempty positive) digits.all
    (Nat.le_of_eq digits.length) full
  rwa [digits.value] at read

theorem skipBlank_digits (digits : Digits width value text) (positive : 0 < width)
    (rest : List Char) : skipBlank (text ++ rest) = text ++ rest := by
  have nonempty := digits.nonempty positive
  have all := digits.all
  cases text with
  | nil => exact absurd rfl nonempty
  | cons head tail => exact skipBlank_cons (isBlank_of_isDigit (all head List.mem_cons_self)) _

theorem readField_digits (digits : Digits 2 value text) {least greatest : Nat}
    (above : least ≤ value) (below : value ≤ greatest) (rest : List Char) :
    readField least greatest (text ++ rest) = .ok (value, rest) := by
  simp only [readField, skipBlank_digits digits Nat.two_pos, readNumber_digits digits Nat.two_pos,
    bind, Except.bind, above, below, and_self, ↓reduceIte]

theorem readMark_cons {mark : Char} (dark : isBlank mark = false) (rest : List Char) :
    readMark mark (mark :: rest) = .ok rest := by
  simp only [readMark, skipBlank_cons dark, ↓reduceIte]

theorem readYear_digits (digits : Digits 4 value text) (rest : List Char) :
    readYear (text ++ rest) = .ok ((value : Int), rest) := by
  have read := readNumber_digits digits (by decide) rest
  have all := digits.all
  have nonempty := digits.nonempty (by decide)
  simp only [readYear, skipBlank_digits digits (by decide : 0 < 4)]
  cases text with
  | nil => exact absurd rfl nonempty
  | cons head tail =>
    have first : head.isDigit = true := all head List.mem_cons_self
    rw [List.cons_append] at read ⊢
    split
    · rename_i same
      rw [(List.cons.inj same).1] at first
      exact absurd first (by decide)
    · rename_i same
      rw [(List.cons.inj same).1] at first
      exact absurd first (by decide)
    · simp only [read, bind, Except.bind, pure, Except.pure]

theorem readDate_text {date : Date} (written : Rfc3339.DateText text date) (rest : List Char) :
    readDate (text ++ rest) = .ok (date, rest) := by
  cases written with
  | @intro year month day _ _ _ years months days real =>
    obtain ⟨firstMonth, lastMonth, firstDay, -, short⟩ := Date.bounds_of_isReal real
    simp only [List.append_assoc, List.cons_append, readDate, readYear_digits years,
      readField_digits months firstMonth lastMonth, readField_digits days firstDay short,
      readMark_cons (by decide : isBlank '-' = false), bind, Except.bind, pure, Except.pure]

theorem readFraction_text {nanosecond : Nat} (places : Rfc3339.FractionText text nanosecond)
    {rest : List Char} (stop : EndsDigits rest) (noPoint : rest.head? ≠ some '.') :
    readFraction (text ++ rest) = .ok (nanosecond, rest) := by
  cases places with
  | none =>
    unfold readFraction
    split
    · simp_all
    · rfl
  | @some digits nonempty all =>
    have counted : ∀ char ∈ digits.take 9, char.isDigit = true :=
      fun char member => all char (List.mem_of_mem_take member)
    have uncounted : ∀ char ∈ digits.drop 9, char.isDigit = true :=
      fun char member => all char (List.mem_of_mem_drop member)
    have read : readNumber 9 (digits.take 9 ++ (digits.drop 9 ++ rest)) =
        .ok (Nat.ofDigitChars 10 (digits.take 9) 0, digits.drop 9 ++ rest) := by
      refine readNumber_append ?_ counted (List.length_take_le ..) ?_
      · simpa using nonempty
      · -- Either nine digits are there, or none is left after those that are.
        rcases Nat.le_total digits.length 9 with short | long
        · rw [List.drop_eq_nil_of_le short, List.nil_append]
          exact stop.take _
        · simp [EndsDigits, long]
    rw [← List.append_assoc, List.take_append_drop] at read
    simp only [List.cons_append, readFraction, read, bind, Except.bind, pure, Except.pure,
      List.dropWhile_append_of_pos uncounted, stop.dropWhile_eq]
    have left : 9 - ((digits ++ rest).length - (digits.drop 9 ++ rest).length) =
        9 - digits.length := by
      simp only [List.length_append, List.length_drop]
      omega
    rw [left]
    rfl

theorem readClock_text {date : Date} {reading : ClockReading}
    (written : Rfc3339.ClockText date text reading) {rest : List Char} (stop : EndsDigits rest)
    (noPoint : rest.head? ≠ some '.') : readClock date (text ++ rest) = .ok (reading, rest) := by
  cases written with
  | intro hours minutes seconds inDay inHour inMinute places =>
    simp only [List.append_assoc, List.cons_append, readClock,
      readField_digits hours (Nat.zero_le _) inDay, readField_digits minutes (Nat.zero_le _) inHour,
      readField_digits seconds (Nat.zero_le _) inMinute, readFraction_text places stop noPoint,
      readMark_cons (by decide : isBlank ':' = false), bind, Except.bind, pure, Except.pure]

theorem readPair_digits (digits : Digits 2 value text) (rest : List Char) :
    readPair (text ++ rest) = .ok (value, rest) := by
  obtain ⟨length, all, rfl⟩ := digits
  match text, length with
  | [first, second], _ =>
    have firstDigit : first.isDigit = true := all first List.mem_cons_self
    have secondDigit : second.isDigit = true := all second (by simp)
    simp only [List.cons_append, List.nil_append, readPair, firstDigit, secondDigit, and_self,
      ↓reduceIte]

theorem dropWhile_colon_digits (digits : Digits 2 value text) :
    (':' :: text).dropWhile (fun char => char == ':' || isBlank char) = text := by
  have nonempty := digits.nonempty Nat.two_pos
  have all := digits.all
  cases text with
  | nil => exact absurd rfl nonempty
  | cons head tail =>
    have first : head.isDigit = true := all head List.mem_cons_self
    have mark : (head == ':') = false := beq_eq_false_iff_ne.mpr (Json.ne_of_isDigit first rfl)
    simp [isBlank_of_isDigit first, mark]

theorem readHoursMinutes_text {hours minutes : Nat} {hourText minuteText : List Char}
    (hour : Digits 2 hours hourText) (minute : Digits 2 minutes minuteText)
    (inHour : minutes ≤ 59) :
    readHoursMinutes (hourText ++ ':' :: minuteText) = .ok (hours * 3600 + minutes * 60, []) := by
  have pair := readPair_digits minute []
  rw [List.append_nil] at pair
  simp only [readHoursMinutes, readPair_digits hour, dropWhile_colon_digits minute, pair, bind,
    Except.bind, pure, Except.pure, Nat.lt_succ_of_le inHour, ↓reduceIte]

theorem readOffset_text {offset : Int} (zone : Rfc3339.OffsetText text offset) :
    readOffset (skipBlank text) = .ok (offset, []) := by
  cases zone with
  | utc known => rcases known with rfl | rfl <;> rfl
  | ahead hour minute inDay inHour =>
    rw [List.cons_append, skipBlank_cons (by decide)]
    simp only [readOffset, readHoursMinutes_text hour minute inHour, bind, Except.bind, pure,
      Except.pure]
  | behind hour minute inDay inHour =>
    rw [List.cons_append, skipBlank_cons (by decide)]
    simp only [readOffset, readHoursMinutes_text hour minute inHour, bind, Except.bind, pure,
      Except.pure]

end TimeReader

namespace Rfc3339

variable {text : List Char} {reading : ClockReading} {offset : Int}

theorem OffsetText.bounds (zone : OffsetText text offset) :
    -Instant.secondsPerDay < offset ∧ offset < Instant.secondsPerDay := by
  unfold Instant.secondsPerDay
  cases zone with
  | utc => decide
  | ahead => omega
  | behind => omega

/-- What follows the time of day is no part of it. -/
theorem OffsetText.ends (zone : OffsetText text offset) :
    EndsDigits text ∧ text.head? ≠ some '.' := by
  cases zone with
  | utc known => rcases known with rfl | rfl <;> simp [EndsDigits]
  | ahead => simp [EndsDigits]
  | behind => simp [EndsDigits]

theorem ClockText.date_eq {date : Date} (clock : ClockText date text reading) :
    reading.date = date := by
  cases clock with
  | intro => rfl

/-- A time of day lies within the day, so that an offset carries it by one day at most. -/
theorem ClockText.inDay {date : Date} (clock : ClockText date text reading)
    (behind : -Instant.secondsPerDay < offset) (ahead : offset < Instant.secondsPerDay) :
    date.dayNumber - 1 ≤ (reading.instant offset).second / Instant.secondsPerDay ∧
      (reading.instant offset).second / Instant.secondsPerDay ≤ date.dayNumber + 1 := by
  cases clock with
  | intro =>
    unfold ClockReading.instant Instant.secondsPerDay at *
    dsimp only
    split <;> omega

theorem DateText.isReal {date : Date} (days : DateText text date) : date.isReal = true := by
  cases days with
  | intro _ _ _ real => exact real

theorem DateText.year_bounds {date : Date} (days : DateText text date) :
    0 ≤ date.year ∧ date.year ≤ 9999 := by
  cases days with
  | intro years => exact ⟨Int.natCast_nonneg _, by have := years.lt; dsimp only; omega⟩

end Rfc3339

open TimeReader Rfc3339

variable {text : List Char} {reading : ClockReading} {offset : Int}

/-- A time that an offset carries out of the years with four digits is still supported. -/
theorem locate_of_rfc3339 (valid : Rfc3339 text reading offset) :
    locate reading offset = .ok (reading.instant offset) := by
  cases valid with
  | intro days separates clock zone =>
    obtain ⟨behind, ahead⟩ := zone.bounds
    obtain ⟨least, most⟩ := days.year_bounds
    obtain ⟨earliest, latest⟩ := clock.inDay behind ahead
    obtain ⟨start, stop⟩ := Date.dayNumber_bounds days.isReal
    have same := clock.date_eq
    subst same
    have early : reading.date.year - 2 ≤ (reading.instant offset).date.year :=
      Date.le_year_ofDayNumber (by unfold Date.daysBefore at *; omega)
    have late : (reading.instant offset).date.year ≤ reading.date.year + 2 :=
      Date.year_ofDayNumber_le (by unfold Date.daysBefore at *; omega)
    have supported (date : Date) (above : -2 ≤ date.year) (below : date.year ≤ 10001) :
        isSupported date = true := by
      simp only [isSupported, Bool.and_eq_true, decide_eq_true_eq]
      unfold leastYear greatestYear
      omega
    simp only [locate, days.isReal, supported reading.date (by omega) (by omega),
      supported (reading.instant offset).date (by omega) (by omega), Bool.not_true, Bool.or_self,
      Bool.false_eq_true, ↓reduceIte]
    rw [if_neg (by omega)]

/-- Every time of RFC 3339 is read as the instant it says. -/
theorem ofChars_of_rfc3339 (valid : Rfc3339 text reading offset) :
    Instant.ofChars text = .ok (reading.instant offset) := by
  have located := locate_of_rfc3339 valid
  cases valid with
  | intro days separates clock zone =>
    obtain ⟨stop, noPoint⟩ := zone.ends
    simp only [List.append_assoc, List.cons_append, Instant.ofChars, readDate_text days,
      readSeparator, separates, ↓reduceIte, readClock_text clock stop noPoint, readOffset_text zone,
      bind, Except.bind]
    exact located

theorem Rfc3339.FractionText.padded {width value nanosecond : Nat} (positive : 0 < width)
    (short : width ≤ 9) (small : value < 10 ^ width)
    (scaled : value * 10 ^ (9 - width) = nanosecond) :
    FractionText ('.' :: paddedDigits width value) nanosecond := by
  have digits := Digits.padded positive small
  have places := FractionText.some (digits.nonempty positive) digits.all
  have counted : (paddedDigits width value).take 9 = paddedDigits width value :=
    List.take_of_length_le (by rw [digits.length]; exact short)
  rwa [counted, digits.value, digits.length, scaled] at places

theorem Rfc3339.FractionText.write {nanosecond : Nat}
    (small : nanosecond < Instant.nanosPerSecond) :
    FractionText (Instant.writeFraction nanosecond) nanosecond := by
  unfold Instant.nanosPerSecond at small
  unfold Instant.writeFraction
  split
  · rename_i whole
    exact whole ▸ .none
  split
  · exact .padded (by decide) (by decide) (by omega) (by omega)
  split
  · exact .padded (by decide) (by decide) (by omega) (by omega)
  · exact .padded (by decide) (by decide) (by omega) (by omega)

theorem Rfc3339.DateText.write {date : Date} (real : date.isReal = true) (nonneg : 0 ≤ date.year)
    (fourDigits : date.year ≤ 9999) : DateText (Instant.writeDate date) date := by
  obtain ⟨year, month, day⟩ := date
  obtain ⟨year, rfl⟩ := Int.eq_ofNat_of_zero_le nonneg
  obtain ⟨firstMonth, lastMonth, firstDay, -, short⟩ := Date.bounds_of_isReal real
  dsimp only at nonneg fourDigits
  simp only [Instant.writeDate, Instant.writeYear, nonneg, fourDigits, and_self, ↓reduceIte,
    Int.toNat_natCast]
  exact .intro (.padded (by decide) (by omega)) (.padded (by decide) (by omega))
    (.padded (by decide) (by omega)) real

/-- The year of the instant has four digits, and no leap second is shown at it. -/
structure Instant.Ordinary (instant : Instant) : Prop where
  nonneg : 0 ≤ instant.date.year
  fourDigits : instant.date.year ≤ 9999
  noLeap : instant.nanosecond < nanosPerSecond

theorem Instant.secondOfDay_lt (instant : Instant) : instant.secondOfDay < 86400 := by
  unfold secondOfDay secondsPerDay
  omega

/-- The written form of an instant says what a clock of UTC shows. -/
theorem rfc3339_write {instant : Instant} (ordinary : instant.Ordinary) :
    Rfc3339 instant.write (.ofInstant instant) 0 := by
  obtain ⟨nonneg, fourDigits, noLeap⟩ := ordinary
  have inDay := instant.secondOfDay_lt
  have real : instant.date.isReal = true := Date.isReal_ofDayNumber _
  have days := DateText.write real nonneg fourDigits
  have clock : ClockText instant.date _ _ := .intro
    (.padded Nat.two_pos (by omega : instant.secondOfDay / 3600 < 10 ^ 2))
    (.padded Nat.two_pos (by omega : instant.secondOfDay / 60 % 60 < 10 ^ 2))
    (.padded Nat.two_pos (by omega : instant.secondOfDay % 60 < 10 ^ 2))
    (by omega) (by omega) (by omega) (.write noLeap)
  have written := Rfc3339.intro days (.inl rfl) clock (.utc (.inl rfl))
  simpa only [Instant.write, ClockReading.ofInstant, Nat.not_le_of_lt noLeap, decide_false,
    Bool.false_eq_true, ↓reduceIte, Nat.add_zero, List.append_assoc, List.cons_append] using written

/-- A clock of UTC shows the instant. -/
theorem instant_ofInstant {instant : Instant}
    (noLeap : instant.nanosecond < Instant.nanosPerSecond) :
    (ClockReading.ofInstant instant).instant 0 = instant := by
  obtain ⟨second, nanosecond⟩ := instant
  dsimp only at noLeap
  have noLeapSecond : ((second % 86400).toNat % 60 == 60) = false :=
    beq_eq_false_iff_ne.mpr (by omega)
  simp only [ClockReading.instant, ClockReading.ofInstant, Instant.date, Instant.secondOfDay,
    Instant.secondsPerDay, Nat.not_le_of_lt noLeap, Date.dayNumber_ofDayNumber, ↓reduceIte,
    Nat.add_zero, noLeapSecond, Bool.false_eq_true, Instant.mk.injEq, and_true]
  omega

theorem parse_render_instant {instant : Instant} (ordinary : instant.Ordinary) :
    Instant.parse instant.render = .ok instant := by
  rw [Instant.parse, Instant.render, String.toList_ofList,
    ofChars_of_rfc3339 (rfc3339_write ordinary), instant_ofInstant ordinary.noLeap]

end ImageJobs
