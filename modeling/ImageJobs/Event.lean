import ImageJobs.Engine
import ImageJobs.Image.PullPolicy
import ImageJobs.Synthesis.Strategy

namespace ImageJobs

inductive Level where
  | error
  | warn
  | debug
  deriving DecidableEq, Repr

inductive Event where
  | cacheMissing
  | policyUnrecognized (image : String)
  | residencyChecked (image : String) (present : Bool)
  | placementPlanned (image node : String) (strategy : Strategy) (policy : PullPolicy)
  | engineUnrecognized (version node : String)
  | removalPlanned (image node : String) (engine : Engine) (socket : String)
  deriving DecidableEq, Repr

namespace Level

def name : Level → String
  | .error => "ERROR"
  | .warn => "WARN"
  | .debug => "DEBUG"

end Level

namespace Event

def level : Event → Level
  | .cacheMissing => .error
  | .policyUnrecognized .. | .engineUnrecognized .. => .warn
  | .residencyChecked .. | .placementPlanned .. | .removalPlanned .. => .debug

def message : Event → String
  | .cacheMissing => "ImageCache is missing, no job will be built"
  | .policyUnrecognized .. => "Unrecognized image pull policy, using IfNotPresent"
  | .residencyChecked .. => "Checked node for resident image"
  | .placementPlanned .. => "Building image pull job"
  | .engineUnrecognized .. => "Unrecognized container runtime, deleting via the docker socket"
  | .removalPlanned .. => "Building image delete job"

def fields : Event → List (String × Json)
  | .cacheMissing => []
  | .policyUnrecognized image => [("image", .string image)]
  | .residencyChecked image present => [("image", .string image), ("present", .bool present)]
  | .placementPlanned image node strategy policy =>
    [("image", .string image), ("node", .string node), ("variant", .string strategy.describe),
     ("policy", .string policy.name)]
  | .engineUnrecognized version node =>
    [("runtime_version", .string version), ("node", .string node)]
  | .removalPlanned image node engine socket =>
    [("image", .string image), ("node", .string node), ("runtime", .string engine.name),
     ("socket", .string socket)]

def toJson (event : Event) : Json :=
  .object [("level", .string event.level.name), ("message", .string event.message),
    ("fields", .object event.fields)]

end Event

/-- A value and the events, in order, on the way to it. -/
structure Logged (α : Type) where
  value : α
  events : List Event := []
  deriving DecidableEq, Repr

namespace Logged

instance : Monad Logged where
  pure value := ⟨value, []⟩
  bind first next :=
    let second := next first.value
    ⟨second.value, first.events ++ second.events⟩

def emit (event : Event) : Logged Unit :=
  ⟨(), [event]⟩

@[simp] theorem value_pure (value : α) : (pure value : Logged α).value = value := rfl

@[simp] theorem events_pure (value : α) : (pure value : Logged α).events = [] := rfl

@[simp] theorem value_bind (first : Logged α) (next : α → Logged β) :
    (first >>= next).value = (next first.value).value := rfl

@[simp] theorem events_bind (first : Logged α) (next : α → Logged β) :
    (first >>= next).events = first.events ++ (next first.value).events := rfl

end Logged

end ImageJobs
