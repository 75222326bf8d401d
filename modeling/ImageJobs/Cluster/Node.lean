import ImageJobs.Cluster.Meta

namespace ImageJobs

/-- An image on a node: the names that it goes by, and its size. -/
structure ResidentImage where
  names : Option (List String) := none
  sizeBytes : Option Int := none
  deriving DecidableEq, Repr

namespace ResidentImage

inductive Field where
  | names
  | sizeBytes
  deriving DecidableEq, Repr

namespace Field

def name : Field → String
  | .names => "names"
  | .sizeBytes => "sizeBytes"

abbrev Value : Field → Type
  | .names => Option (List String)
  | .sizeBytes => Option Int

def read : (field : Field) → Reading field.Value
  | .names => Reading.option (Reading.list Reading.string)
  | .sizeBytes => Reading.option Reading.integer

instance : Fields Field where
  all := [.names, .sizeBytes]
  name := name
  Value := Value
  read := read
  mayEnd := fun _ => true

end Field

def ofSlots (slots : Slots Field) : ResidentImage where
  names := (slots .names).join
  sizeBytes := (slots .sizeBytes).join

def read : Reading ResidentImage :=
  Reading.record ⟨"ContainerImage", false, true⟩ fun slots => .ok (ofSlots slots)

def toJson (image : ResidentImage) : Json :=
  .object (Json.optional "names" Json.texts image.names ++
    Json.optional "sizeBytes" Json.int image.sizeBytes)

end ResidentImage

structure NodeStatus where
  images : Option (List ResidentImage) := none
  deriving DecidableEq, Repr

namespace NodeStatus

inductive Field where
  | images
  deriving DecidableEq, Repr

namespace Field

abbrev Value : Field → Type
  | .images => Option (List ResidentImage)

def read : (field : Field) → Reading field.Value
  | .images => Reading.option (Reading.list ResidentImage.read)

instance : Fields Field where
  all := [.images]
  name := fun _ => "images"
  Value := Value
  read := read
  mayEnd := fun _ => true

end Field

def ofSlots (slots : Slots Field) : NodeStatus where
  images := (slots .images).join

def read : Reading NodeStatus :=
  Reading.record ⟨"NodeStatus", false, true⟩ fun slots => .ok (ofSlots slots)

end NodeStatus

structure Node where
  metadata : Meta := {}
  status : Option NodeStatus := none
  deriving DecidableEq, Repr

namespace Node

inductive Field where
  | metadata
  | status
  deriving DecidableEq, Repr

namespace Field

def name : Field → String
  | .metadata => "metadata"
  | .status => "status"

abbrev Value : Field → Type
  | .metadata => Option Meta
  | .status => Option NodeStatus

def read : (field : Field) → Reading field.Value
  | .metadata => Reading.option Meta.read
  | .status => Reading.option NodeStatus.read

instance : Fields Field where
  all := [.metadata, .status]
  name := name
  Value := Value
  read := read
  mayEnd := fun _ => true

end Field

def ofSlots (slots : Slots Field) : Node where
  metadata := (slots .metadata).join.getD {}
  status := (slots .status).join

def read : Reading Node :=
  Reading.record ⟨"Node", false, true⟩ fun slots => .ok (ofSlots slots)

/-- The images that the node reports; none without a report. -/
def residents (node : Node) : List ResidentImage :=
  (node.status.bind (·.images)).getD []

/-- The label that names the node's host. -/
def hostnameLabel : String := "kubernetes.io/hostname"

def hostname? (node : Node) : Option String :=
  node.metadata.label? hostnameLabel

end Node

end ImageJobs
