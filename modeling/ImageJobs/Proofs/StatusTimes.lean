import ImageJobs.Proofs.CacheDocument
import ImageJobs.Proofs.RecordShapes
import ImageJobs.Proofs.Timestamps

namespace ImageJobs.ImageCache.Status

open Reading (Answers NamesOnce spread)

inductive TimeField where
  | start
  | completion

namespace TimeField

def field : TimeField → Field
  | .start => .startTime
  | .completion => .completionTime

def name (time : TimeField) : String :=
  time.field.name

def ofStatus (status : Status) : TimeField → Option Instant
  | .start => status.startTime
  | .completion => status.completionTime

end TimeField

/-- An optional text, as a member gives it or leaves it out. -/
inductive GivesText : Option Json → Prop where
  | absent : GivesText none
  | null : GivesText (some .null)
  | text (value : String) : GivesText (some (.string value))

/-- An optional time, which has to lie in a year of four digits in UTC, too. -/
inductive GivesTime : Option Json → Option Timestamp → Prop where
  | absent : GivesTime none none
  | null : GivesTime (some .null) none
  | text {stamp : Timestamp} (inUtc : stamp.FourDigitsInUtc) :
      GivesTime (some (.string stamp.text)) (some stamp)

/-- The members give a phase and these times, each field once. There may be other members. -/
structure Gives (members : List (String × Json)) (times : TimeField → Option Timestamp) : Prop where
  once : NamesOnce Field members
  phase : ∃ given phase, members.lookup "phase" = some given ∧ Phase.read given = .ok phase
  reason : GivesText (members.lookup "reason")
  message : GivesText (members.lookup "message")
  time : ∀ time : TimeField, GivesTime (members.lookup time.name) (times time)

/-- The document is a status with these times, by the names of its fields or as a list of their
values in order. -/
inductive Describes (times : TimeField → Option Timestamp) : Json → Prop where
  | object {members : List (String × Json)} (gives : Gives members times) :
      Describes times (.object members)
  | list {items : List Json} (short : items.length ≤ 5)
      (gives : Gives (spread (Fields.all (F := Field)) items) times) :
      Describes times (.array items)

/-- The time is written in normal form, if there is one. -/
inductive WritesTime : Option Timestamp → Option Json → Prop where
  | absent : WritesTime none none
  | normal {stamp normal : Timestamp} (form : normal.Normal) (same : normal.moment = stamp.moment) :
      WritesTime (some stamp) (some (.string normal.text))

variable {members : List (String × Json)} {times : TimeField → Option Timestamp}
  {given : Option Json}

theorem filled_of_mapM {field : Field} {slot : Option (Fields.Value field)}
    (reads : given.mapM (Fields.read field) = .ok slot) : Filled field none given slot := by
  cases given with
  | none =>
    obtain rfl := Except.ok.inj reads
    exact .absent
  | some value =>
    cases read : Fields.read field value with
    | ok held =>
      rw [Option.mapM_some, read] at reads
      obtain rfl := Except.ok.inj reads
      exact .given read
    | error fault =>
      rw [Option.mapM_some, read] at reads
      cases reads

theorem GivesText.exists_slot (gives : GivesText given) :
    ∃ slot, given.mapM (Reading.option Reading.string) = .ok slot := by
  cases gives with
  | absent => exact ⟨none, rfl⟩
  | null => exact ⟨some none, rfl⟩
  | text value => exact ⟨some (some value), rfl⟩

theorem GivesTime.exists_slot {stamp : Option Timestamp} (gives : GivesTime given stamp) :
    ∃ slot, given.mapM (Reading.option Reading.instant) = .ok slot ∧
      slot.join = stamp.map Timestamp.instant := by
  cases gives with
  | absent => exact ⟨none, rfl, rfl⟩
  | null => exact ⟨some none, rfl, rfl⟩
  | @text stamp inUtc =>
    refine ⟨some (some stamp.instant), ?_, rfl⟩
    simp only [Option.mapM_some, Reading.option, Reading.instant, stamp.parse_text]
    rfl

/-- What is held of each field, where a member may give nothing. -/
def heldSlots (phase : Phase) (reason message : Option (Option String))
    (start completion : Option (Option Instant)) : Slots Field
  | .phase => some phase
  | .reason => reason
  | .message => message
  | .startTime => start
  | .completionTime => completion

theorem exists_status (gives : Gives members times) :
    ∃ status, read (.object members) = .ok status ∧
      ∀ time : TimeField, time.ofStatus status = (times time).map Timestamp.instant := by
  obtain ⟨value, phase, found, readPhase⟩ := gives.phase
  obtain ⟨reason, readReason⟩ := gives.reason.exists_slot
  obtain ⟨message, readMessage⟩ := gives.message.exists_slot
  obtain ⟨start, readStart, startTime⟩ := (gives.time .start).exists_slot
  obtain ⟨completion, readCompletion, completionTime⟩ := (gives.time .completion).exists_slot
  -- Fields that are null and fields that are left out fill their slots differently.
  have filled (field : Field) : Filled field none (members.lookup (Fields.name field))
      (heldSlots phase reason message start completion field) := by
    cases field with
    | phase =>
      have lookup : members.lookup (Fields.name Field.phase) = some value := found
      rw [lookup]
      exact .given readPhase
    | reason => exact filled_of_mapM readReason
    | message => exact filled_of_mapM readMessage
    | startTime => exact filled_of_mapM readStart
    | completionTime => exact filled_of_mapM readCompletion
  refine ⟨⟨phase, reason.join, message.join, start.join, completion.join⟩,
    (Reading.record_object_reads_iff rfl).mpr ⟨gives.once, _, filled, rfl⟩, fun time => ?_⟩
  cases time with
  | start => exact startTime
  | completion => exact completionTime

/-- A list of the first values is read as the object of these fields. The phase comes first, so that
no list that gives it ends too early. -/
theorem exists_status_of_describes {document : Json} (describes : Describes times document) :
    ∃ status, read document = .ok status ∧
      ∀ time : TimeField, time.ofStatus status = (times time).map Timestamp.instant := by
  cases describes with
  | object gives => exact exists_status gives
  | @list items short gives =>
    obtain ⟨status, reads, shown⟩ := exists_status gives
    refine ⟨status, ?_, shown⟩
    rw [← reads]
    refine Reading.record_array_eq_object rfl (by decide) short fun field member => ?_
    cases items with
    | nil =>
      obtain ⟨value, phase, found, -⟩ := gives.phase
      cases found
    | cons first rest =>
      have later : field ∈ [Field.reason, .message, .startTime, .completionTime] :=
        List.mem_of_mem_drop member
      simp only [List.mem_cons, List.not_mem_nil, or_false] at later
      rcases later with rfl | rfl | rfl | rfl <;> rfl

theorem Describes.time {document : Json} (describes : Describes times document)
    (time : TimeField) : ∃ given, GivesTime given (times time) := by
  cases describes with
  | object gives => exact ⟨_, gives.time time⟩
  | list _ gives => exact ⟨_, gives.time time⟩

theorem Describes.inUtc {document : Json} (describes : Describes times document)
    {time : TimeField} {stamp : Timestamp} (given : times time = some stamp) :
    stamp.FourDigitsInUtc := by
  obtain ⟨_, gives⟩ := describes.time time
  rw [given] at gives
  cases gives with
  | text inUtc => exact inUtc

/-- The members of the written status for its times. -/
theorem member?_toJson (status : Status) (time : TimeField) :
    status.toJson.member? time.name =
      (time.ofStatus status).map fun instant => .string instant.render := by
  cases time with
  | start => exact status.lookup_members .startTime
  | completion => exact status.lookup_members .completionTime

/-- What such a document gives can be written: no time leaves the years of four digits. -/
theorem hasOrdinaryTimes {document : Json} (describes : Describes times document) {status : Status}
    (shown : ∀ time : TimeField, time.ofStatus status = (times time).map Timestamp.instant) :
    status.HasOrdinaryTimes := by
  have each (time : TimeField) : ∀ instant ∈ time.ofStatus status, instant.Ordinary := by
    intro instant member
    rw [shown] at member
    obtain ⟨stamp, given, rfl⟩ := Option.map_eq_some_iff.mp member
    exact Timestamp.ordinary_instant_iff.mpr (describes.inUtc given)
  exact ⟨each .start, each .completion⟩

theorem writesTime {document : Json} (describes : Describes times document) {status : Status}
    (shown : ∀ time : TimeField, time.ofStatus status = (times time).map Timestamp.instant)
    (time : TimeField) : WritesTime (times time) (status.toJson.member? time.name) := by
  rw [member?_toJson, shown]
  cases given : times time with
  | none => exact .absent
  | some stamp =>
    have ordinary := Timestamp.ordinary_instant_iff.mpr (describes.inUtc given)
    obtain ⟨normal, form, same, written⟩ := Timestamp.exists_normal ordinary
    have moment : normal.moment = stamp.moment := by
      rw [← normal.moment_instant, same, stamp.moment_instant]
    simp only [Option.map_some, ← written]
    exact .normal form moment

/-- A status with times of RFC 3339 is read, its times are written in normal form at the same
moments, and what is written is read as the same status. Two times, of one status or of two, are
written alike exactly if they denote the same moment. -/
theorem times_written_in_normal_form :
    (∀ times document, Describes times document →
      ∃ status, Answers read document (.ok status) ∧
        (∀ time : TimeField, WritesTime (times time) (status.toJson.member? time.name)) ∧
        Answers read status.toJson (.ok status) ∧
        Reading.parse read status.toJson.render = .ok status) ∧
    ∀ times otherTimes document other status otherStatus, Describes times document →
      Describes otherTimes other → read document = .ok status → read other = .ok otherStatus →
        ∀ (time otherTime : TimeField) stamp otherStamp, times time = some stamp →
          otherTimes otherTime = some otherStamp →
            (status.toJson.member? time.name = otherStatus.toJson.member? otherTime.name ↔
              stamp.moment = otherStamp.moment) := by
  constructor
  · intro times document describes
    obtain ⟨status, reads, shown⟩ := exists_status_of_describes describes
    have readsBack := Reading.answers_ok (read_toJson (hasOrdinaryTimes describes shown))
    exact ⟨status, Reading.answers_ok reads, writesTime describes shown, readsBack,
      readsBack.2 _ (Json.parse?_render status.readable_toJson)⟩
  · intro times otherTimes document other status otherStatus describes describesOther reads
      readsOther time otherTime stamp otherStamp given givenOther
    obtain ⟨_, readsSame, shown⟩ := exists_status_of_describes describes
    obtain rfl := Except.ok.inj (readsSame.symm.trans reads)
    obtain ⟨_, readsSame, shownOther⟩ := exists_status_of_describes describesOther
    obtain rfl := Except.ok.inj (readsSame.symm.trans readsOther)
    rw [member?_toJson, member?_toJson, shown, shownOther, given, givenOther, Option.map_some,
      Option.map_some, Option.map_some, Option.map_some, Option.some.injEq, Json.string.injEq]
    exact Timestamp.render_instant_eq_iff (describes.inUtc given) (describesOther.inUtc givenOther)

/-- An hour into 2024 by a clock an hour and a half behind UTC, which has not left 2023. -/
def zonedNewYear : Timestamp where
  date := ⟨2023, 12, 31⟩
  hour := ⟨23, by decide⟩
  minute := ⟨30, by decide⟩
  second := ⟨0, by decide⟩
  fraction := [⟨1, by decide⟩, ⟨2, by decide⟩, ⟨0, by decide⟩, ⟨0, by decide⟩]
  separator := 't'
  zone := .behind ⟨1, by decide⟩ ⟨30, by decide⟩
  real := by decide
  nonneg := by decide
  fourDigits := by decide
  nine := by decide
  separates := .inr (.inl rfl)

def newYear : Timestamp where
  date := ⟨2024, 1, 1⟩
  hour := ⟨1, by decide⟩
  minute := ⟨0, by decide⟩
  second := ⟨0, by decide⟩
  fraction := [⟨1, by decide⟩, ⟨2, by decide⟩]
  separator := ' '
  zone := .utc 'z' (.inr rfl)
  real := by decide
  nonneg := by decide
  fourDigits := by decide
  nine := by decide
  separates := .inr (.inr rfl)

/-- Started at the one time, and completed at the other. -/
def newYearTimes : TimeField → Option Timestamp
  | .start => some zonedNewYear
  | .completion => some newYear

def startedOnly (stamp : Timestamp) : TimeField → Option Timestamp
  | .start => some stamp
  | .completion => none

example : zonedNewYear.text = "2023-12-31t23:30:00.1200-01:30" := by decide

example : zonedNewYear.instant.render = "2024-01-01T01:00:00.120Z" := by decide

theorem inUtc_zonedNewYear : zonedNewYear.FourDigitsInUtc :=
  Timestamp.ordinary_instant_iff.mp ⟨by decide, by decide, by decide⟩

theorem inUtc_newYear : newYear.FourDigitsInUtc :=
  Timestamp.ordinary_instant_iff.mp ⟨by decide, by decide, by decide⟩

/-- Members in any order, of which one is of no field. -/
def newYearMembers : List (String × Json) :=
  [("completionTime", .string newYear.text), ("note", .unreadable),
    ("phase", .string "Succeeded"), ("reason", .null), ("startTime", .string zonedNewYear.text)]

theorem describes_newYearMembers : Describes newYearTimes (.object newYearMembers) := by
  refine .object ⟨fun field => ?_, ⟨_, .succeeded, rfl, rfl⟩, .null, .absent, fun time => ?_⟩
  · cases field <;> decide
  · cases time with
    | start => exact .text inUtc_zonedNewYear
    | completion => exact .text inUtc_newYear

/-- The first values of a status, without the time of completion. -/
def startedItems : List Json :=
  [.string "Processing", .null, .string "", .string newYear.text]

theorem describes_startedItems : Describes (startedOnly newYear) (.array startedItems) := by
  refine .list (by decide) ⟨Reading.namesOnce_spread (by decide) _, ⟨_, .processing, rfl, rfl⟩,
    .null, .text "", fun time => ?_⟩
  cases time with
  | start => exact .text inUtc_newYear
  | completion => exact .absent

theorem moment_zonedNewYear : zonedNewYear.moment = newYear.moment := by
  rw [← Timestamp.moment_instant, ← Timestamp.moment_instant]
  decide

/-- The time of the clock behind UTC is written as that of UTC, in both documents and for both
fields. -/
theorem new_year_written_alike :
    Describes newYearTimes (.object newYearMembers) ∧
    Describes (startedOnly newYear) (.array startedItems) ∧
    ∃ status otherStatus, Answers read (.object newYearMembers) (.ok status) ∧
      Answers read (.array startedItems) (.ok otherStatus) ∧
      WritesTime (some zonedNewYear) (status.toJson.member? "startTime") ∧
      WritesTime none (otherStatus.toJson.member? "completionTime") ∧
      status.toJson.member? "startTime" = otherStatus.toJson.member? "startTime" ∧
      status.toJson.member? "startTime" = status.toJson.member? "completionTime" ∧
      Reading.parse read status.toJson.render = .ok status := by
  obtain ⟨read, alike⟩ := times_written_in_normal_form
  obtain ⟨status, reads, writes, -, readsBack⟩ := read _ _ describes_newYearMembers
  obtain ⟨otherStatus, readsOther, writesOther, -, -⟩ := read _ _ describes_startedItems
  have across := alike _ _ _ _ _ _ describes_newYearMembers describes_startedItems reads.1
    readsOther.1 .start .start _ _ rfl rfl
  have within := alike _ _ _ _ _ _ describes_newYearMembers describes_newYearMembers reads.1
    reads.1 .start .completion _ _ rfl rfl
  exact ⟨describes_newYearMembers, describes_startedItems, status, otherStatus, reads, readsOther,
    writes .start, writesOther .completion, across.mpr moment_zonedNewYear,
    within.mpr moment_zonedNewYear, readsBack⟩

end ImageJobs.ImageCache.Status
