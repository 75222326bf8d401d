import ImageJobs.Cluster.Job
import ImageJobs.Cluster.Node
import ImageJobs.Event
import ImageJobs.ImageCache.Basic
import ImageJobs.Problem
import ImageJobs.Settings

namespace ImageJobs

/-- Why no job can be built. -/
inductive Refusal where
  | cacheMissing
  | cacheUnnamed
  | cacheWithoutNamespace (cache : String)
  | cacheWithoutUid (cache : String)
  | nodeWithoutHostname (cache node : String)
  deriving DecidableEq, Repr

namespace Refusal

def problem : Refusal → Problem
  | .cacheMissing => .ofMessage "image cache is missing"
  | .cacheUnnamed => .ofField Problem.unknownCache "metadata.name" "ImageCache has no name"
  | .cacheWithoutNamespace cache =>
    .ofField cache "metadata.namespace" "ImageCache must be namespaced"
  | .cacheWithoutUid cache => .ofField cache "metadata.uid" "ImageCache has no UID"
  | .nodeWithoutHostname cache node =>
    .ofField cache "metadata.labels"
      ("node " ++ node ++ " has no " ++ Node.hostnameLabel ++ " label")

end Refusal

/-- The inputs that every image job needs. -/
structure Assignment where
  cacheName : String
  namespaceName : String
  uid : String
  hostname : String
  pullSecrets : Option (List String)
  deriving DecidableEq, Repr

namespace Assignment

/-- The first input that is missing is the one reported. -/
def ofCache (cache : ImageCache) (node : Node) : Except Refusal Assignment := do
  let some cacheName := cache.metadata.name | throw .cacheUnnamed
  let some namespaceName := cache.metadata.namespaceName | throw (.cacheWithoutNamespace cacheName)
  let some uid := cache.metadata.uid | throw (.cacheWithoutUid cacheName)
  let some hostname := node.hostname? | throw (.nodeWithoutHostname cacheName node.metadata.anyName)
  return { cacheName, namespaceName, uid, hostname, pullSecrets := cache.spec.podSecrets }

def ofInputs (cache : Option ImageCache) (node : Node) : Logged (Except Refusal Assignment) :=
  match cache with
  | some cache => pure (ofCache cache node)
  | none => do
    Logged.emit .cacheMissing
    return .error .cacheMissing

theorem ofCache_eq_ok_iff {cache : ImageCache} {node : Node} {assignment : Assignment} :
    ofCache cache node = .ok assignment ↔
      cache.metadata.name = some assignment.cacheName ∧
        cache.metadata.namespaceName = some assignment.namespaceName ∧
        cache.metadata.uid = some assignment.uid ∧ node.hostname? = some assignment.hostname ∧
        cache.spec.podSecrets = assignment.pullSecrets := by
  obtain ⟨cacheName, namespaceName, uid, hostname, pullSecrets⟩ := assignment
  unfold ofCache
  cases cache.metadata.name with
  | none => simp
  | some name =>
    cases cache.metadata.namespaceName with
    | none => simp
    | some place =>
      cases cache.metadata.uid with
      | none => simp
      | some identity =>
        cases node.hostname? with
        | none => simp
        | some host => simp [pure, Except.pure]

@[simp] theorem value_ofInputs_none (node : Node) :
    (ofInputs none node).value = .error .cacheMissing :=
  rfl

@[simp] theorem value_ofInputs_some (cache : ImageCache) (node : Node) :
    (ofInputs (some cache) node).value = ofCache cache node :=
  rfl

@[simp] theorem events_ofInputs_none (node : Node) :
    (ofInputs none node).events = [.cacheMissing] :=
  rfl

@[simp] theorem events_ofInputs_some (cache : ImageCache) (node : Node) :
    (ofInputs (some cache) node).events = [] :=
  rfl

def controllerAgent : String := "kubefledged-controller"

def appLabelValue : String := "kubefledged"

def componentLabel : String := "kubefledged"

def imageManager : String := "kubefledged-image-manager"

def imageCacheLabel : String := "imagecache"

/-- The labels of every image job of the cache and of its pods. -/
def labels (cacheName : String) : TextMap :=
  .ofList [("app", appLabelValue), (componentLabel, imageManager), (imageCacheLabel, cacheName),
    ("controller", controllerAgent)]

/-- An image job is never tried again. -/
def backoffLimit : Nat := 0

/-- An image job may take an hour. -/
def activeDeadlineSeconds : Nat := 3600

def owner (assignment : Assignment) : Owner where
  apiVersion := ImageCache.apiVersion
  kind := ImageCache.kind
  name := assignment.cacheName
  uid := assignment.uid
  controller := true
  blockOwnerDeletion := true

/-- The account and the priority of the settings come last. Where the settings name none, the pod
keeps what it has. -/
def applyOverrides (pod : Pod) (settings : Settings) : Pod :=
  { pod with
    serviceAccountName := settings.serviceAccount.or pod.serviceAccountName
    priorityClassName := settings.priorityClass.or pod.priorityClassName }

/-- The pod runs on the one node, whatever its taints, and only once. -/
def pod (assignment : Assignment) (settings : Settings) (variant : Pod) : Pod :=
  applyOverrides
    { variant with
      nodeSelector := some (.ofList [(Node.hostnameLabel, assignment.hostname)])
      restartPolicy := some .never
      tolerations := some [{ operator := .exists }]
      imagePullSecrets := assignment.pullSecrets }
    settings

def job (assignment : Assignment) (settings : Settings) (variant : Pod) : Job where
  metadata :=
    { generateName := some (assignment.cacheName ++ "-")
      namespaceName := some assignment.namespaceName
      labels := some (labels assignment.cacheName) }
  owners := [assignment.owner]
  backoffLimit := backoffLimit
  activeDeadlineSeconds := activeDeadlineSeconds
  podMetadata :=
    { namespaceName := some assignment.namespaceName
      labels := some (labels assignment.cacheName) }
  pod := assignment.pod settings variant

end Assignment

end ImageJobs
