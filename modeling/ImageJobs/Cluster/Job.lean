import ImageJobs.Cluster.Pod

namespace ImageJobs

/-- An object that another one belongs to. -/
structure Owner where
  apiVersion : String
  kind : String
  name : String
  uid : String
  controller : Bool
  blockOwnerDeletion : Bool
  deriving DecidableEq, Repr

structure Job where
  metadata : Meta
  owners : List Owner
  backoffLimit : Nat
  activeDeadlineSeconds : Nat
  podMetadata : Meta
  pod : Pod
  deriving DecidableEq, Repr

namespace Owner

def toJson (owner : Owner) : Json :=
  .object [("apiVersion", .string owner.apiVersion),
    ("blockOwnerDeletion", .bool owner.blockOwnerDeletion), ("controller", .bool owner.controller),
    ("kind", .string owner.kind), ("name", .string owner.name), ("uid", .string owner.uid)]

end Owner

namespace Job

def toJson (job : Job) : Json :=
  .object [("apiVersion", .string "batch/v1"), ("kind", .string "Job"),
    ("metadata", .object (job.metadata.members ++
      [("ownerReferences", .array (job.owners.map Owner.toJson))])),
    ("spec", .object [("activeDeadlineSeconds", Json.int job.activeDeadlineSeconds),
      ("backoffLimit", Json.int job.backoffLimit),
      ("template", .object [("metadata", job.podMetadata.toJson), ("spec", job.pod.toJson)])])]

end Job

end ImageJobs
