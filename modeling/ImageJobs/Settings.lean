import ImageJobs.Document.Record

namespace ImageJobs

/-- The operator's settings for all jobs. -/
structure Settings where
  /-- The helper image that lends a pulled image the program it runs. -/
  busyboxImage : String := "busybox:1.36.1"
  /-- The helper image that holds the engines' command lines. -/
  criClientImage : String := "docker.io/senthilrch/kubefledged-cri-client:v0.10.0"
  serviceAccountName : Option String := none
  priorityClassName : Option String := none
  deleteJobHostNetwork : Bool := false
  /-- The engine's socket, where it is not the default one. -/
  criSocketPath : Option String := none
  /-- The host folder below which files of images are kept. -/
  cacheRoot : String := "/var/lib/kubefledged/cache"
  deriving DecidableEq, Repr

namespace Settings

def default : Settings := {}

/-- An empty text counts as none. -/
def nonEmpty (value : Option String) : Option String :=
  value.filter fun text => !text.isEmpty

theorem nonEmpty_eq_none_iff {value : Option String} :
    nonEmpty value = none ↔ value = none ∨ value = some "" := by
  cases value <;> simp [nonEmpty, Option.filter]

def serviceAccount (settings : Settings) : Option String :=
  nonEmpty settings.serviceAccountName

def priorityClass (settings : Settings) : Option String :=
  nonEmpty settings.priorityClassName

def socketPath (settings : Settings) : Option String :=
  nonEmpty settings.criSocketPath

inductive Field where
  | busyboxImage
  | criClientImage
  | serviceAccountName
  | priorityClassName
  | deleteJobHostNetwork
  | criSocketPath
  | cacheRoot
  deriving DecidableEq, Repr

namespace Field

def name : Field → String
  | .busyboxImage => "busyboxImage"
  | .criClientImage => "criClientImage"
  | .serviceAccountName => "serviceAccountName"
  | .priorityClassName => "priorityClassName"
  | .deleteJobHostNetwork => "deleteJobHostNetwork"
  | .criSocketPath => "criSocketPath"
  | .cacheRoot => "cacheRoot"

abbrev Value : Field → Type
  | .busyboxImage | .criClientImage | .cacheRoot => String
  | .serviceAccountName | .priorityClassName | .criSocketPath => Option String
  | .deleteJobHostNetwork => Bool

def read : (field : Field) → Reading field.Value
  | .busyboxImage | .criClientImage | .cacheRoot => Reading.string
  | .serviceAccountName | .priorityClassName | .criSocketPath => Reading.option Reading.string
  | .deleteJobHostNetwork => Reading.bool

instance : Fields Field where
  all := [.busyboxImage, .criClientImage, .serviceAccountName, .priorityClassName,
    .deleteJobHostNetwork, .criSocketPath, .cacheRoot]
  name := name
  Value := Value
  read := read
  mayEnd := fun _ => true

end Field

/-- What the document gives laid over the defaults. -/
def ofSlots (slots : Slots Field) : Settings where
  busyboxImage := (slots .busyboxImage).getD default.busyboxImage
  criClientImage := (slots .criClientImage).getD default.criClientImage
  serviceAccountName := (slots .serviceAccountName).getD default.serviceAccountName
  priorityClassName := (slots .priorityClassName).getD default.priorityClassName
  deleteJobHostNetwork := (slots .deleteJobHostNetwork).getD default.deleteJobHostNetwork
  criSocketPath := (slots .criSocketPath).getD default.criSocketPath
  cacheRoot := (slots .cacheRoot).getD default.cacheRoot

def read : Reading Settings :=
  Reading.record ⟨"struct JobConfig", true, false⟩ fun slots => .ok (ofSlots slots)

end Settings

end ImageJobs
