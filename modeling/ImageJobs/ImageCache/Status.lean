import ImageJobs.Calendar.TimeWriter
import ImageJobs.Document.Record

namespace ImageJobs.ImageCache

inductive Phase where
  | unknown
  | processing
  | succeeded
  | failed
  | aborted
  deriving DecidableEq, Repr

namespace Phase

def default : Phase := .unknown

def name : Phase → String
  | .unknown => "Unknown"
  | .processing => "Processing"
  | .succeeded => "Succeeded"
  | .failed => "Failed"
  | .aborted => "Aborted"

def all : List Phase :=
  [.unknown, .processing, .succeeded, .failed, .aborted]

def read : Reading Phase :=
  Reading.choice (all.map fun phase => (phase.name, phase))

def toJson (phase : Phase) : Json :=
  .string phase.name

end Phase

structure Status where
  phase : Phase := .unknown
  /-- Why the phase was entered, for a program. -/
  reason : Option String := none
  /-- Why the phase was entered, for a person. -/
  message : Option String := none
  startTime : Option Instant := none
  completionTime : Option Instant := none
  deriving DecidableEq, Repr

namespace Status

def default : Status := {}

inductive Field where
  | phase
  | reason
  | message
  | startTime
  | completionTime
  deriving DecidableEq, Repr

namespace Field

def name : Field → String
  | .phase => "phase"
  | .reason => "reason"
  | .message => "message"
  | .startTime => "startTime"
  | .completionTime => "completionTime"

abbrev Value : Field → Type
  | .phase => Phase
  | .reason | .message => Option String
  | .startTime | .completionTime => Option Instant

def read : (field : Field) → Reading field.Value
  | .phase => Phase.read
  | .reason | .message => Reading.option Reading.string
  | .startTime | .completionTime => Reading.option Reading.instant

instance : Fields Field where
  all := [.phase, .reason, .message, .startTime, .completionTime]
  name := name
  Value := Value
  read := read
  mayEnd := fun field => field != .phase

end Field

def ofSlots (slots : Slots Field) : Except Fault Status := do
  return { phase := ← slots.require .phase
           reason := (slots .reason).join
           message := (slots .message).join
           startTime := (slots .startTime).join
           completionTime := (slots .completionTime).join }

def read : Reading Status :=
  Reading.record ⟨"struct ImageCacheStatus", true, false⟩ ofSlots

def toJson (status : Status) : Json :=
  .object (("phase", status.phase.toJson) ::
    Json.optional "reason" .string status.reason ++
    Json.optional "message" .string status.message ++
    Json.optional "startTime" (fun time => .string time.render) status.startTime ++
    Json.optional "completionTime" (fun time => .string time.render) status.completionTime)

end Status

end ImageJobs.ImageCache
