import ImageJobs.Document.Record

namespace ImageJobs

structure Meta where
  name : Option String := none
  /-- The start of a name that the cluster completes. -/
  generateName : Option String := none
  namespaceName : Option String := none
  uid : Option String := none
  labels : Option TextMap := none
  annotations : Option TextMap := none
  deriving DecidableEq, Repr

namespace TextMap

def toJson (map : TextMap) : Json :=
  .object (map.entries.map fun entry => (entry.1, .string entry.2))

end TextMap

namespace Meta

inductive Field where
  | name
  | generateName
  | namespaceName
  | uid
  | labels
  | annotations
  deriving DecidableEq, Repr

namespace Field

def key : Field → String
  | .name => "name"
  | .generateName => "generateName"
  | .namespaceName => "namespace"
  | .uid => "uid"
  | .labels => "labels"
  | .annotations => "annotations"

abbrev Value : Field → Type
  | .name | .generateName | .namespaceName | .uid => Option String
  | .labels | .annotations => Option TextMap

def read : (field : Field) → Reading field.Value
  | .name | .generateName | .namespaceName | .uid => Reading.option Reading.string
  | .labels | .annotations => Reading.option Reading.textMap

instance : Fields Field where
  all := [.annotations, .generateName, .labels, .name, .namespaceName, .uid]
  name := key
  Value := Value
  read := read
  mayEnd := fun _ => true

end Field

def ofSlots (slots : Slots Field) : Meta where
  name := (slots .name).join
  generateName := (slots .generateName).join
  namespaceName := (slots .namespaceName).join
  uid := (slots .uid).join
  labels := (slots .labels).join
  annotations := (slots .annotations).join

def read : Reading Meta :=
  Reading.record ⟨"ObjectMeta", false, true⟩ fun slots => .ok (ofSlots slots)

def members (data : Meta) : List (String × Json) :=
  Json.optional "annotations" TextMap.toJson data.annotations ++
    Json.optional "generateName" .string data.generateName ++
    Json.optional "labels" TextMap.toJson data.labels ++
    Json.optional "name" .string data.name ++
    Json.optional "namespace" .string data.namespaceName ++
    Json.optional "uid" .string data.uid

def toJson (data : Meta) : Json :=
  .object data.members

/-- The name of the object, or else the start of the name it is to get, or else nothing. -/
def anyName (data : Meta) : String :=
  (data.name.or data.generateName).getD ""

def label? (data : Meta) (key : String) : Option String :=
  data.labels.bind (·.get? key)

end Meta

end ImageJobs
