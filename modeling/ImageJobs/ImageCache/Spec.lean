import ImageJobs.Cluster.Meta

namespace ImageJobs.ImageCache

/-- Images, and the labels of the nodes they are kept on; no labels select every node. -/
structure Group where
  images : List String
  nodeSelector : TextMap := .empty
  deriving DecidableEq, Repr

namespace Group

inductive Field where
  | images
  | nodeSelector
  deriving DecidableEq, Repr

namespace Field

def name : Field → String
  | .images => "images"
  | .nodeSelector => "nodeSelector"

abbrev Value : Field → Type
  | .images => List String
  | .nodeSelector => TextMap

def read : (field : Field) → Reading field.Value
  | .images => Reading.list Reading.string
  | .nodeSelector => Reading.textMap

instance : Fields Field where
  all := [.images, .nodeSelector]
  name := name
  Value := Value
  read := read
  mayEnd := fun field => field == .nodeSelector

end Field

def ofSlots (slots : Slots Field) : Except Fault Group := do
  return { images := ← slots.require .images, nodeSelector := (slots .nodeSelector).getD .empty }

def read : Reading Group :=
  Reading.record ⟨"struct CacheSpecImages", true, false⟩ ofSlots

def toJson (group : Group) : Json :=
  .object (("images", Json.texts group.images) ::
    if group.nodeSelector.isEmpty then [] else [("nodeSelector", group.nodeSelector.toJson)])

end Group

structure PullSecret where
  name : String
  deriving DecidableEq, Repr

namespace PullSecret

inductive Field where
  | name
  deriving DecidableEq, Repr

namespace Field

abbrev Value : Field → Type
  | .name => String

def read : (field : Field) → Reading field.Value
  | .name => Reading.string

instance : Fields Field where
  all := [.name]
  name := fun _ => "name"
  Value := Value
  read := read
  mayEnd := fun _ => false

end Field

def ofSlots (slots : Slots Field) : Except Fault PullSecret := do
  return { name := ← slots.require .name }

def read : Reading PullSecret :=
  Reading.record ⟨"struct ImagePullSecretRef", true, false⟩ ofSlots

def toJson (secret : PullSecret) : Json :=
  .object [("name", .string secret.name)]

end PullSecret

structure Spec where
  cacheSpec : List Group := []
  imagePullSecrets : List PullSecret := []
  deriving DecidableEq, Repr

namespace Spec

def default : Spec := {}

inductive Field where
  | cacheSpec
  | imagePullSecrets
  deriving DecidableEq, Repr

namespace Field

def name : Field → String
  | .cacheSpec => "cacheSpec"
  | .imagePullSecrets => "imagePullSecrets"

abbrev Value : Field → Type
  | .cacheSpec => List Group
  | .imagePullSecrets => List PullSecret

def read : (field : Field) → Reading field.Value
  | .cacheSpec => Reading.list Group.read
  | .imagePullSecrets => Reading.list PullSecret.read

instance : Fields Field where
  all := [.cacheSpec, .imagePullSecrets]
  name := name
  Value := Value
  read := read
  mayEnd := fun field => field == .imagePullSecrets

end Field

def ofSlots (slots : Slots Field) : Except Fault Spec := do
  return { cacheSpec := ← slots.require .cacheSpec
           imagePullSecrets := (slots .imagePullSecrets).getD [] }

def read : Reading Spec :=
  Reading.record ⟨"struct ImageCacheSpec", true, false⟩ ofSlots

def toJson (spec : Spec) : Json :=
  .object (("cacheSpec", .array (spec.cacheSpec.map Group.toJson)) ::
    if spec.imagePullSecrets.isEmpty then []
    else [("imagePullSecrets", .array (spec.imagePullSecrets.map PullSecret.toJson))])

/-- The names of the secrets for a pod; none rather than an empty list. -/
def podSecrets (spec : Spec) : Option (List String) :=
  if spec.imagePullSecrets.isEmpty then none
  else some (spec.imagePullSecrets.map (·.name))

end Spec

end ImageJobs.ImageCache
