import ImageJobs.ImageCache.Spec
import ImageJobs.ImageCache.Status

namespace ImageJobs

/-- A list of images to keep resident on nodes. It owns the jobs that pull and remove them. -/
structure ImageCache where
  metadata : Meta
  spec : ImageCache.Spec
  status : Option ImageCache.Status := none
  deriving DecidableEq, Repr

namespace ImageCache

def group : String := "kubefledged.io"

def version : String := "v1alpha3"

def kind : String := "ImageCache"

def plural : String := "imagecaches"

def singular : String := "imagecache"

def shortNames : List String := ["ic"]

def apiVersion : String := group ++ "/" ++ version

/-- The name under which the cluster knows the type. -/
def definitionName : String := plural ++ "." ++ group

def named (name : String) (spec : Spec) : ImageCache :=
  { metadata := { name := some name }, spec }

inductive Field where
  | metadata
  | spec
  | status
  deriving DecidableEq, Repr

namespace Field

def name : Field → String
  | .metadata => "metadata"
  | .spec => "spec"
  | .status => "status"

abbrev Value : Field → Type
  | .metadata => Meta
  | .spec => Spec
  | .status => Option Status

def read : (field : Field) → Reading field.Value
  | .metadata => Meta.read
  | .spec => Spec.read
  | .status => Reading.option Status.read

instance : Fields Field where
  all := [.metadata, .spec, .status]
  name := name
  Value := Value
  read := read
  mayEnd := fun _ => false

end Field

def ofSlots (slots : Slots Field) : Except Fault ImageCache := do
  return { metadata := ← slots.require .metadata
           spec := ← slots.require .spec
           status := (slots .status).join }

/-- The version and kind that a document states are not looked at. -/
def read : Reading ImageCache :=
  Reading.record ⟨"struct ImageCache", true, false⟩ ofSlots

def toJson (cache : ImageCache) : Json :=
  .object ([("apiVersion", .string apiVersion), ("kind", .string kind),
    ("metadata", cache.metadata.toJson), ("spec", cache.spec.toJson)] ++
    Json.optional "status" Status.toJson cache.status)

end ImageCache

end ImageJobs
