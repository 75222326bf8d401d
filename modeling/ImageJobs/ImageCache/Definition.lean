import ImageJobs.ImageCache.Basic
import ImageJobs.ImageCache.Schema

namespace ImageJobs.ImageCache

def textSchema (description : String) : Schema :=
  .string { description := some description } none []

def optionalTextSchema (description : String) : Schema :=
  .string { description := some description, nullable := true } none []

def optionalTimeSchema (description : String) : Schema :=
  .string { description := some description, nullable := true } (some "date-time") []

def groupSchema : Schema :=
  .record { description := some "A list of images and the nodes they are cached on" }
    [("images", .array { description := some "Image references (`repo[:tag][@digest]`)" }
        (.string {} none [])),
      ("nodeSelector",
        .map { description :=
            some "Label selector for target nodes; empty selects every node" }
          (.string {} none []))]
    ["images"]

def secretSchema : Schema :=
  .record { description := some "Reference to an image pull secret in the ImageCache's namespace" }
    [("name", textSchema "Secret name")]
    ["name"]

def specSchema : Schema :=
  .record { description := some "Desired set of cached images" }
    [("cacheSpec",
        .array { description := some "Images to cache, grouped by the nodes they should land on" }
          groupSchema),
      ("imagePullSecrets",
        .array { description := some "Secrets used to pull private images" } secretSchema)]
    ["cacheSpec"]

def statusSchema : Schema :=
  .record { description := some "Observed state of an ImageCache", nullable := true }
    [("completionTime", optionalTimeSchema "When the current round of jobs finished"),
      ("message", optionalTextSchema "Human-readable detail for the current phase"),
      ("phase", .string { description := some "Current phase" } none (Phase.all.map Phase.name)),
      ("reason", optionalTextSchema "Machine-readable reason for the current phase"),
      ("startTime", optionalTimeSchema "When the current round of jobs started")]
    ["phase"]

/-- Version, kind and metadata are left to the cluster. -/
def schema : Schema :=
  .record
    { description := some "Auto-generated derived type for ImageCacheSpec via `CustomResource`"
      title := some kind }
    [("spec", specSchema), ("status", statusSchema)]
    ["spec"]

/-- A column of the table in which the cluster lists objects. -/
def column (name type path : String) : Json :=
  .object [("jsonPath", .string path), ("name", .string name), ("type", .string type)]

def definition : Json :=
  .object [("apiVersion", .string "apiextensions.k8s.io/v1"),
    ("kind", .string "CustomResourceDefinition"),
    ("metadata", .object [("name", .string definitionName)]),
    ("spec", .object [("group", .string group),
      ("names", .object [("categories", .array []), ("kind", .string kind),
        ("plural", .string plural), ("shortNames", Json.texts shortNames),
        ("singular", .string singular)]),
      ("scope", .string "Namespaced"),
      ("versions", .array [.object [
        ("additionalPrinterColumns", .array [column "Status" "string" ".status.phase",
          column "Age" "date" ".metadata.creationTimestamp"]),
        ("name", .string version),
        ("schema", .object [("openAPIV3Schema", schema.toJson)]),
        ("served", .bool true), ("storage", .bool true),
        ("subresources", .object [("status", .object [])])]])])]

end ImageJobs.ImageCache
