import ImageJobs.Proofs.CalendarCount
import ImageJobs.Proofs.TimeTexts

/-! Times of RFC 3339 by their parts, and the moments that they denote, counted in nanoseconds from
the start of year zero by the calendar alone. Such a time is read (`parse_text`) as its moment
(`moment_instant`), what is written of an instant is the time of UTC with the fewest places
(`exists_normal`), and times are written alike exactly if their moments are equal
(`render_instant_eq_iff`). -/

namespace ImageJobs

def twoDigits (value : Nat) : List Char :=
  [(value / 10).digitChar, (value % 10).digitChar]

/-- By how much a clock is ahead of UTC or behind it. -/
inductive Zone where
  | utc (mark : Char) (known : mark = 'Z' ∨ mark = 'z')
  | ahead (hours : Fin 24) (minutes : Fin 60)
  | behind (hours : Fin 24) (minutes : Fin 60)

namespace Zone

/-- The lead over UTC in seconds. -/
def lead : Zone → Int
  | .utc _ _ => 0
  | .ahead hours minutes => (hours.val * 60 + minutes.val) * 60
  | .behind hours minutes => -((hours.val * 60 + minutes.val) * 60)

def chars : Zone → List Char
  | .utc mark _ => [mark]
  | .ahead hours minutes => '+' :: twoDigits hours.val ++ ':' :: twoDigits minutes.val
  | .behind hours minutes => '-' :: twoDigits hours.val ++ ':' :: twoDigits minutes.val

end Zone

/-- A time of RFC 3339 that is no leap second and has nine places at most: what a clock shows, and
the zone of the clock. -/
structure Timestamp where
  date : Date
  hour : Fin 24
  minute : Fin 60
  second : Fin 60
  /-- The digits behind the point. The point is left out if there are none. -/
  fraction : List (Fin 10)
  separator : Char
  zone : Zone
  real : date.isReal = true
  nonneg : 0 ≤ date.year
  fourDigits : date.year ≤ 9999
  nine : fraction.length ≤ 9
  separates : separator = 'T' ∨ separator = 't' ∨ separator = ' '

/-- The value of the digits if the first one counts that unit and each a tenth of the one before. -/
def placeValue : Nat → List (Fin 10) → Nat
  | _, [] => 0
  | unit, digit :: rest => digit.val * unit + placeValue (unit / 10) rest

def digitChars (digits : List (Fin 10)) : List Char :=
  digits.map fun digit => digit.val.digitChar

namespace Timestamp

def nanoseconds (stamp : Timestamp) : Nat :=
  placeValue 100000000 stamp.fraction

/-- The nanoseconds from the start of year zero to the time, both of UTC. -/
def moment (stamp : Timestamp) : Int :=
  ((((stamp.date.countBefore * 24 + stamp.hour.val) * 60 + stamp.minute.val) * 60 +
    stamp.second.val : Nat) - stamp.zone.lead) * 1000000000 + stamp.nanoseconds

/-- The moment lies in a year of four digits in UTC, too. -/
structure FourDigitsInUtc (stamp : Timestamp) : Prop where
  reached : 0 ≤ stamp.moment
  notOver : stamp.moment < (Date.daysOfYears 10000 : Int) * 86400 * 1000000000

def dateChars (date : Date) : List Char :=
  twoDigits (date.year.toNat / 100) ++ twoDigits (date.year.toNat % 100) ++
    '-' :: twoDigits date.month ++ '-' :: twoDigits date.day

def fractionChars (fraction : List (Fin 10)) : List Char :=
  if fraction.isEmpty then [] else '.' :: digitChars fraction

def chars (stamp : Timestamp) : List Char :=
  dateChars stamp.date ++ stamp.separator :: (twoDigits stamp.hour.val ++
    ':' :: twoDigits stamp.minute.val ++ ':' :: twoDigits stamp.second.val ++
    fractionChars stamp.fraction) ++ stamp.zone.chars

def text (stamp : Timestamp) : String :=
  String.ofList stamp.chars

/-- The form in which times are written: of UTC, and with the fewest of no, three, six or nine
places that give the moment exactly. -/
structure Normal (stamp : Timestamp) : Prop where
  separated : stamp.separator = 'T'
  utc : stamp.zone = .utc 'Z' (.inl rfl)
  width : stamp.fraction.length ∈ [0, 3, 6, 9]
  shortest : ∀ other : Timestamp, other.moment = stamp.moment →
    other.fraction.length ∈ [0, 3, 6, 9] → stamp.fraction.length ≤ other.fraction.length

end Timestamp

namespace Digits

variable {width value : Nat} {text other : List Char}

theorem two (small : value < 100) : Digits 2 value (twoDigits value) := by
  have tens : value / 10 < 10 := by omega
  have ones : value % 10 < 10 := Nat.mod_lt _ (by decide)
  refine ⟨rfl, ?_, ?_⟩
  · intro char member
    simp only [twoDigits, List.mem_cons, List.not_mem_nil, or_false] at member
    rcases member with rfl | rfl
    · rw [Nat.isDigit_digitChar, decide_eq_true tens]
    · rw [Nat.isDigit_digitChar, decide_eq_true ones]
  · rw [twoDigits, Nat.ofDigitChars_cons_digitChar_of_lt_ten tens,
      Nat.ofDigitChars_cons_digitChar_of_lt_ten ones, Nat.ofDigitChars_nil]
    omega

theorem append {more count : Nat} {rest : List Char} (front : Digits width value text)
    (back : Digits more count rest) :
    Digits (width + more) (10 ^ more * value + count) (text ++ rest) := by
  refine ⟨?_, ?_, ?_⟩
  · rw [List.length_append, front.length, back.length]
  · intro char member
    exact (List.mem_append.mp member).elim (front.all char) (back.all char)
  · rw [Nat.ofDigitChars_append, front.value, Nat.ofDigitChars_eq_ofDigitChars_zero, back.value,
      back.length]

theorem four (small : value < 10000) :
    Digits 4 value (twoDigits (value / 100) ++ twoDigits (value % 100)) := by
  have joined := (two (by omega : value / 100 < 100)).append (two (by omega : value % 100 < 100))
  have same : 10 ^ 2 * (value / 100) + value % 100 = value := Nat.div_add_mod value 100
  rwa [same] at joined

/-- Texts of digits with the same length denote the same number only if they are the same. -/
theorem ofDigitChars_inj (lengths : text.length = other.length)
    (all : ∀ char ∈ text, char.isDigit = true) (others : ∀ char ∈ other, char.isDigit = true)
    {start otherStart : Nat}
    (same : Nat.ofDigitChars 10 text start = Nat.ofDigitChars 10 other otherStart) :
    text = other ∧ start = otherStart := by
  -- What the digits so far come to is the start, and from equal ends it is compared backwards.
  induction text generalizing other start otherStart with
  | nil =>
    obtain rfl := List.eq_nil_of_length_eq_zero lengths.symm
    exact ⟨rfl, same⟩
  | cons head tail ih =>
    cases other with
    | nil => cases lengths
    | cons otherHead otherTail =>
      obtain ⟨digit, digits⟩ := List.forall_mem_cons.mp all
      obtain ⟨otherDigit, otherDigits⟩ := List.forall_mem_cons.mp others
      obtain ⟨rfl, starts⟩ := ih (Nat.succ.inj lengths) digits otherDigits same
      have step : 10 * start + (head.toNat - 48) = 10 * otherStart + (otherHead.toNat - 48) :=
        starts
      have bounds : 48 ≤ head.toNat ∧ head.toNat ≤ 57 := Char.isDigit_iff_toNat.mp digit
      have otherBounds : 48 ≤ otherHead.toNat ∧ otherHead.toNat ≤ 57 :=
        Char.isDigit_iff_toNat.mp otherDigit
      have heads : head.toNat = otherHead.toNat := by omega
      exact ⟨by rw [Char.toNat_inj.mp heads], by omega⟩

theorem unique (first : Digits width value text) (second : Digits width value other) :
    text = other :=
  (ofDigitChars_inj (first.length.trans second.length.symm) first.all second.all
    (first.value.trans second.value.symm)).1

end Digits

theorem paddedDigits_two {value : Nat} (small : value < 100) :
    paddedDigits 2 value = twoDigits value :=
  (Digits.padded Nat.two_pos small).unique (.two small)

theorem paddedDigits_four {value : Nat} (small : value < 10000) :
    paddedDigits 4 value = twoDigits (value / 100) ++ twoDigits (value % 100) :=
  (Digits.padded (by decide) small).unique (.four small)

theorem digitChar_digitValue {char : Char} (digit : char.isDigit = true) :
    (Numeral.digitValue char).val.digitChar = char := by
  have all : ∀ code : Fin 58, (Char.ofNat code.val).isDigit = true →
      (Numeral.digitValue (Char.ofNat code.val)).val.digitChar = Char.ofNat code.val := by
    decide
  have most : char.toNat ≤ 57 := (Char.isDigit_iff_toNat.mp digit).2
  have own := all ⟨char.toNat, Nat.lt_succ_of_le most⟩
  rw [Char.ofNat_toNat] at own
  exact own digit

theorem isDigit_of_mem_digitChars (digits : List (Fin 10)) :
    ∀ char ∈ digitChars digits, char.isDigit = true := by
  intro char member
  obtain ⟨digit, -, rfl⟩ := List.mem_map.mp member
  simp [Nat.isDigit_digitChar]

/-- The digits taken one after the other have the value that they have as a number, scaled to the
unit of the first. -/
theorem placeValue_eq {digits : List (Fin 10)} {count : Nat} (short : digits.length ≤ count) :
    placeValue (10 ^ count / 10) digits =
      Nat.ofDigitChars 10 (digitChars digits) 0 * 10 ^ (count - digits.length) := by
  induction digits generalizing count with
  | nil => simp [placeValue, digitChars]
  | cons digit rest ih =>
    cases count with
    | zero => cases short
    | succ count =>
      have shortRest : rest.length ≤ count := Nat.le_of_succ_le_succ short
      have unit : 10 ^ (count + 1) / 10 = 10 ^ count :=
        Nat.mul_div_cancel (10 ^ count) (by decide)
      have front : Nat.ofDigitChars 10 (digitChars (digit :: rest)) 0 =
          10 ^ rest.length * digit.val + Nat.ofDigitChars 10 (digitChars rest) 0 := by
        rw [digitChars, List.map_cons, Nat.ofDigitChars_cons_digitChar_of_lt_ten digit.isLt,
          Nat.ofDigitChars_eq_ofDigitChars_zero, List.length_map, Nat.mul_zero, Nat.zero_add]
        rfl
      have scale : 10 ^ rest.length * 10 ^ (count - rest.length) = 10 ^ count := by
        rw [← Nat.pow_add, Nat.add_sub_cancel' shortRest]
      calc placeValue (10 ^ (count + 1) / 10) (digit :: rest)
          = digit.val * 10 ^ count + Nat.ofDigitChars 10 (digitChars rest) 0 *
              10 ^ (count - rest.length) := by rw [unit, placeValue, ih shortRest]
        _ = (10 ^ rest.length * digit.val + Nat.ofDigitChars 10 (digitChars rest) 0) *
              10 ^ (count - rest.length) := by
          rw [Nat.add_mul, ← scale, ← Nat.mul_assoc, Nat.mul_comm digit.val]
        _ = Nat.ofDigitChars 10 (digitChars (digit :: rest)) 0 *
              10 ^ (count + 1 - (digit :: rest).length) := by
          rw [front, List.length_cons, Nat.add_sub_add_right]

theorem Zone.offsetText (zone : Zone) : Rfc3339.OffsetText zone.chars zone.lead := by
  cases zone with
  | utc mark known => exact .utc known
  | ahead hours minutes =>
    have text := Rfc3339.OffsetText.ahead (Digits.two (by omega : hours.val < 100))
      (Digits.two (by omega : minutes.val < 100)) (by omega) (by omega)
    have same : ((hours.val * 3600 + minutes.val * 60 : Nat) : Int) =
        (Zone.ahead hours minutes).lead := by
      simp only [lead]
      omega
    exact same ▸ text
  | behind hours minutes =>
    have text := Rfc3339.OffsetText.behind (Digits.two (by omega : hours.val < 100))
      (Digits.two (by omega : minutes.val < 100)) (by omega) (by omega)
    have same : (-(hours.val * 3600 + minutes.val * 60 : Nat) : Int) =
        (Zone.behind hours minutes).lead := by
      simp only [lead]
      omega
    exact same ▸ text

namespace Timestamp

variable {stamp other : Timestamp}

theorem nanoseconds_eq (stamp : Timestamp) : stamp.nanoseconds =
    Nat.ofDigitChars 10 (digitChars stamp.fraction) 0 * 10 ^ (9 - stamp.fraction.length) :=
  placeValue_eq stamp.nine

theorem nanoseconds_lt (stamp : Timestamp) : stamp.nanoseconds < 1000000000 := by
  have bound := Digits.ofDigitChars_lt (isDigit_of_mem_digitChars stamp.fraction) 0
  rw [digitChars, List.length_map, Nat.zero_add, Nat.one_mul] at bound
  have whole : 10 ^ stamp.fraction.length * 10 ^ (9 - stamp.fraction.length) = 1000000000 := by
    rw [← Nat.pow_add, Nat.add_sub_cancel' stamp.nine]
  rw [nanoseconds_eq, ← whole]
  exact Nat.mul_lt_mul_of_pos_right bound (Nat.pow_pos (by decide))

theorem fractionText {fraction : List (Fin 10)} (nine : fraction.length ≤ 9) :
    Rfc3339.FractionText (fractionChars fraction) (placeValue 100000000 fraction) := by
  have value : placeValue 100000000 fraction =
      Nat.ofDigitChars 10 (digitChars fraction) 0 * 10 ^ (9 - fraction.length) :=
    placeValue_eq nine
  by_cases none : fraction = []
  · subst none
    exact .none
  · have length : (digitChars fraction).length = fraction.length := List.length_map ..
    have text := Rfc3339.FractionText.some (mt List.map_eq_nil_iff.mp none)
      (isDigit_of_mem_digitChars fraction)
    rw [← digitChars, List.take_of_length_le (length ▸ nine), length, ← value] at text
    rwa [fractionChars, if_neg (by simpa using none)]

/-- What the clock shows. -/
def reading (stamp : Timestamp) : ClockReading :=
  ⟨stamp.date, stamp.hour.val, stamp.minute.val, stamp.second.val, stamp.nanoseconds⟩

def instant (stamp : Timestamp) : Instant :=
  stamp.reading.instant stamp.zone.lead

theorem dateChars_eq_writeDate {date : Date} (real : date.isReal = true) (nonneg : 0 ≤ date.year)
    (fourDigits : date.year ≤ 9999) : dateChars date = Instant.writeDate date := by
  obtain ⟨year, month, day⟩ := date
  obtain ⟨year, rfl⟩ := Int.eq_ofNat_of_zero_le nonneg
  obtain ⟨firstMonth, lastMonth, firstDay, -, short⟩ := Date.bounds_of_isReal real
  dsimp only at nonneg fourDigits
  simp only [Instant.writeDate, Instant.writeYear, nonneg, fourDigits, and_self, ↓reduceIte,
    dateChars, Int.toNat_natCast]
  rw [paddedDigits_four (by omega), paddedDigits_two (by omega), paddedDigits_two (by omega)]

theorem dateText {date : Date} (real : date.isReal = true) (nonneg : 0 ≤ date.year)
    (fourDigits : date.year ≤ 9999) : Rfc3339.DateText (dateChars date) date := by
  rw [dateChars_eq_writeDate real nonneg fourDigits]
  exact .write real nonneg fourDigits

theorem rfc3339 (stamp : Timestamp) : Rfc3339 stamp.chars stamp.reading stamp.zone.lead := by
  have clock : Rfc3339.ClockText stamp.date _ stamp.reading := .intro
    (.two (by omega : stamp.hour.val < 100)) (.two (by omega : stamp.minute.val < 100))
    (.two (by omega : stamp.second.val < 100)) (by omega) (by omega) (by omega)
    (fractionText stamp.nine)
  exact .intro (dateText stamp.real stamp.nonneg stamp.fourDigits) stamp.separates clock
    stamp.zone.offsetText

theorem parse_text (stamp : Timestamp) : Instant.parse stamp.text = .ok stamp.instant := by
  rw [Instant.parse, text, String.toList_ofList]
  exact ofChars_of_rfc3339 stamp.rfc3339

end Timestamp

/-- The nanoseconds from the start of year zero to the instant. -/
def Instant.moment (instant : Instant) : Int :=
  (instant.second - Date.firstDay * 86400) * 1000000000 + instant.nanosecond

theorem Instant.eq_of_moment_eq {instant other : Instant}
    (noLeap : instant.nanosecond < nanosPerSecond) (otherNoLeap : other.nanosecond < nanosPerSecond)
    (same : instant.moment = other.moment) : instant = other := by
  obtain ⟨second, nanosecond⟩ := instant
  obtain ⟨otherSecond, otherNanosecond⟩ := other
  simp only [moment, nanosPerSecond] at *
  rw [Instant.mk.injEq]
  omega

namespace Timestamp

variable {stamp other : Timestamp}

/-- No second of the clock is taken for a leap second. -/
theorem instant_eq (stamp : Timestamp) : stamp.instant =
    { second := stamp.date.dayNumber * 86400 + (stamp.hour.val * 3600 + stamp.minute.val * 60 +
        stamp.second.val : Nat) - stamp.zone.lead
      nanosecond := stamp.nanoseconds } := by
  have noLeap : (stamp.second.val == 60) = false :=
    beq_eq_false_iff_ne.mpr (Nat.ne_of_lt stamp.second.isLt)
  simp only [instant, reading, ClockReading.instant, Instant.secondsPerDay, noLeap,
    Bool.false_eq_true, ↓reduceIte, Nat.add_zero]

theorem noLeap (stamp : Timestamp) : stamp.instant.nanosecond < Instant.nanosPerSecond := by
  rw [instant_eq]
  exact nanoseconds_lt stamp

/-- A time is read as its moment. -/
theorem moment_instant (stamp : Timestamp) : stamp.instant.moment = stamp.moment := by
  have count := Date.countBefore_eq stamp.real stamp.nonneg
  rw [instant_eq]
  simp only [Instant.moment, moment]
  omega

/-- A time can be written in UTC exactly if its moment lies in a year of four digits. -/
theorem ordinary_instant_iff : stamp.instant.Ordinary ↔ stamp.FourDigitsInUtc := by
  have noLeap : stamp.instant.nanosecond < 1000000000 := stamp.noLeap
  have real : stamp.instant.date.isReal = true := Date.isReal_ofDayNumber _
  have number : stamp.instant.date.dayNumber = stamp.instant.second / 86400 :=
    Date.dayNumber_ofDayNumber _
  have least := Date.le_year_iff real 0
  have most := Date.le_year_iff real 10000
  have start : Date.daysOfYears 0 = 0 := rfl
  rw [number] at least most
  constructor
  · rintro ⟨nonneg, fourDigits, -⟩
    have reached := least.mp nonneg
    have notOver := mt most.mpr (by omega)
    exact ⟨by rw [← moment_instant, Instant.moment]; omega,
      by rw [← moment_instant, Instant.moment]; omega⟩
  · rintro ⟨reached, notOver⟩
    rw [← moment_instant, Instant.moment] at reached notOver
    have before := mt most.mp (by omega)
    exact ⟨least.mpr (by omega), by omega, stamp.noLeap⟩

/-- A padded number is written with the digits that have its value. -/
theorem exists_padded {width value : Nat} (positive : 0 < width) (short : width ≤ 9)
    (small : value < 10 ^ width) :
    ∃ fraction : List (Fin 10), fractionChars fraction = '.' :: paddedDigits width value ∧
      placeValue 100000000 fraction = value * 10 ^ (9 - width) ∧ fraction.length = width := by
  have digits := Digits.padded positive small
  have chars : digitChars ((paddedDigits width value).map Numeral.digitValue) =
      paddedDigits width value := by
    rw [digitChars, List.map_map]
    exact (List.map_congr_left fun char member =>
      digitChar_digitValue (digits.all char member)).trans (List.map_id _)
  have length : ((paddedDigits width value).map Numeral.digitValue).length = width := by
    rw [List.length_map, digits.length]
  have placed := placeValue_eq (length ▸ short)
  rw [chars, digits.value, length] at placed
  refine ⟨_, ?_, placed, length⟩
  rw [fractionChars, chars, if_neg]
  simpa using digits.nonempty positive

/-- Three digits more are only written where those before are not exact. -/
theorem exists_places {width value nanosecond : Nat} (known : width = 3 ∨ width = 6 ∨ width = 9)
    (small : value < 10 ^ width) (scaled : value * 10 ^ (9 - width) = nanosecond)
    (inexact : ¬10 ^ (12 - width) ∣ nanosecond) :
    ∃ fraction : List (Fin 10), fractionChars fraction = '.' :: paddedDigits width value ∧
      placeValue 100000000 fraction = nanosecond ∧ fraction.length ∈ [0, 3, 6, 9] ∧
      ∀ count ∈ [0, 3, 6, 9], 10 ^ (9 - count) ∣ nanosecond → fraction.length ≤ count := by
  obtain ⟨fraction, chars, placed, rfl⟩ := exists_padded (by omega) (by omega) small
  refine ⟨fraction, chars, placed.trans scaled, by simpa using .inr known,
    fun count member exact => ?_⟩
  simp only [List.mem_cons, List.not_mem_nil, or_false] at member
  by_cases fewer : count < fraction.length
  · have coarser : 10 ^ (12 - fraction.length) ∣ 10 ^ (9 - count) :=
      Nat.pow_dvd_pow 10 (by omega)
    exact absurd (Nat.dvd_trans coarser exact) inexact
  · exact Nat.le_of_not_lt fewer

/-- The written fraction is exact, and no shorter one of three, six or nine digits is. -/
theorem exists_fraction {nanosecond : Nat} (small : nanosecond < 1000000000) :
    ∃ fraction : List (Fin 10), fractionChars fraction = Instant.writeFraction nanosecond ∧
      placeValue 100000000 fraction = nanosecond ∧ fraction.length ∈ [0, 3, 6, 9] ∧
      ∀ count ∈ [0, 3, 6, 9], 10 ^ (9 - count) ∣ nanosecond → fraction.length ≤ count := by
  unfold Instant.writeFraction
  split
  · rename_i whole
    exact ⟨[], rfl, whole.symm, by decide, fun _ _ _ => Nat.zero_le _⟩
  split
  · exact exists_places (.inl rfl) (by omega) (by omega) (by omega)
  split
  · exact exists_places (.inr (.inl rfl)) (by omega) (by omega) (by omega)
  · exact exists_places (.inr (.inr rfl)) (by omega) (by omega) (by omega)

/-- Two times of one moment have the same nanoseconds in their last second. -/
theorem nanoseconds_eq_of_moment_eq {stamp other : Timestamp} (same : other.moment = stamp.moment) :
    other.nanoseconds = stamp.nanoseconds := by
  have bound := nanoseconds_lt stamp
  have otherBound := nanoseconds_lt other
  unfold moment at same
  omega

/-- What a clock of UTC shows at the instant, with these places of the second. -/
def ofUtc {instant : Instant} (ordinary : instant.Ordinary) (fraction : List (Fin 10))
    (nine : fraction.length ≤ 9) : Timestamp where
  date := instant.date
  hour := ⟨instant.secondOfDay / 3600, by have := instant.secondOfDay_lt; omega⟩
  minute := ⟨instant.secondOfDay / 60 % 60, Nat.mod_lt _ (by decide)⟩
  second := ⟨instant.secondOfDay % 60, Nat.mod_lt _ (by decide)⟩
  fraction := fraction
  separator := 'T'
  zone := .utc 'Z' (.inl rfl)
  real := Date.isReal_ofDayNumber _
  nonneg := ordinary.nonneg
  fourDigits := ordinary.fourDigits
  nine := nine
  separates := .inl rfl

section

variable {instant : Instant} (ordinary : instant.Ordinary) {fraction : List (Fin 10)}
  (nine : fraction.length ≤ 9)

theorem instant_ofUtc (exact : placeValue 100000000 fraction = instant.nanosecond) :
    (ofUtc ordinary fraction nine).instant = instant := by
  have noLeap := Nat.not_le_of_lt ordinary.noLeap
  have shown : (ofUtc ordinary fraction nine).reading = .ofInstant instant := by
    simp only [ClockReading.ofInstant, noLeap, ↓reduceIte, Nat.add_zero]
    rw [reading, nanoseconds]
    exact congrArg _ exact
  rw [Timestamp.instant, shown]
  exact instant_ofInstant ordinary.noLeap

theorem text_ofUtc (written : fractionChars fraction = Instant.writeFraction instant.nanosecond) :
    (ofUtc ordinary fraction nine).text = instant.render := by
  have noLeap := Nat.not_le_of_lt ordinary.noLeap
  have inDay := instant.secondOfDay_lt
  have date : dateChars instant.date = Instant.writeDate instant.date :=
    dateChars_eq_writeDate (Date.isReal_ofDayNumber _) ordinary.nonneg ordinary.fourDigits
  have hour := paddedDigits_two (by omega : instant.secondOfDay / 3600 < 100)
  have minute := paddedDigits_two (by omega : instant.secondOfDay / 60 % 60 < 100)
  have second := paddedDigits_two (by omega : instant.secondOfDay % 60 < 100)
  rw [text, Instant.render, Instant.write]
  simp only [ClockReading.ofInstant, noLeap, ↓reduceIte, Nat.add_zero]
  rw [hour, minute, second, ← written]
  simp only [chars, ofUtc, Zone.chars, date, List.append_assoc, List.cons_append]

end

/-- The written form of an instant is a time in normal form that is read as it. -/
theorem exists_normal {instant : Instant} (ordinary : instant.Ordinary) :
    ∃ stamp : Timestamp, stamp.Normal ∧ stamp.instant = instant ∧ stamp.text = instant.render := by
  obtain ⟨fraction, written, exact, width, shortest⟩ := exists_fraction ordinary.noLeap
  have nine : fraction.length ≤ 9 := by
    simp only [List.mem_cons, List.not_mem_nil, or_false] at width
    omega
  refine ⟨ofUtc ordinary fraction nine, ⟨rfl, rfl, width, fun other same few => ?_⟩,
    instant_ofUtc ordinary nine exact, text_ofUtc ordinary nine written⟩
  have value := nanoseconds_eq other
  have same : other.nanoseconds = instant.nanosecond :=
    (nanoseconds_eq_of_moment_eq same).trans exact
  rw [same] at value
  exact shortest _ few ⟨_, value.trans (Nat.mul_comm _ _)⟩

/-- Times are written alike exactly if they denote the same moment. -/
theorem render_instant_eq_iff {stamp other : Timestamp} (inUtc : stamp.FourDigitsInUtc)
    (otherInUtc : other.FourDigitsInUtc) :
    stamp.instant.render = other.instant.render ↔ stamp.moment = other.moment := by
  rw [← moment_instant, ← moment_instant]
  constructor
  · intro same
    have read := parse_render_instant (ordinary_instant_iff.mpr inUtc)
    rw [same, parse_render_instant (ordinary_instant_iff.mpr otherInUtc)] at read
    rw [Except.ok.inj read]
  · intro same
    rw [Instant.eq_of_moment_eq stamp.noLeap other.noLeap same]

end Timestamp

end ImageJobs
