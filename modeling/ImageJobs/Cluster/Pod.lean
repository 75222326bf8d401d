import ImageJobs.Cluster.Meta
import ImageJobs.Image.PullPolicy

namespace ImageJobs

/-- A volume of the pod, made visible at a path of a container. -/
structure VolumeMount where
  volume : String
  path : String
  deriving DecidableEq, Repr

structure Container where
  name : String
  image : String
  command : List String
  /-- Without arguments the document has no member for them. -/
  args : List String := []
  pullPolicy : PullPolicy
  mounts : List VolumeMount
  deriving DecidableEq, Repr

/-- What has to be at a path of the host. -/
inductive HostPathKind where
  | directoryOrCreate
  | socket
  deriving DecidableEq, Repr

/-- Something of the host that a volume shows. -/
structure HostPath where
  path : String
  kind : HostPathKind
  deriving DecidableEq, Repr

/-- A directory that is empty when the pod starts. -/
structure EmptyDir where
  deriving DecidableEq, Repr

/-- The type leaves open which sources a volume has; the cluster takes one that has one of them. -/
structure Volume where
  name : String
  emptyDir : Option EmptyDir := none
  hostPath : Option HostPath := none
  deriving DecidableEq, Repr

inductive RestartPolicy where
  | always
  | onFailure
  | never
  deriving DecidableEq, Repr

inductive TolerationOperator where
  | equal
  | exists
  deriving DecidableEq, Repr

/-- Taints that the pod puts up with; without a key all of them. -/
structure Toleration where
  key : Option String := none
  operator : TolerationOperator
  deriving DecidableEq, Repr

/-- The parts of a pod that differ from one kind of image job to another. -/
structure PodBody where
  containers : List Container
  initContainers : List Container := []
  volumes : List Volume
  hostNetwork : Option Bool := none
  deriving DecidableEq, Repr

/-- A pod is made of its body first. The fields behind it may be left open then. -/
structure Pod extends PodBody where
  nodeSelector : Option TextMap := none
  restartPolicy : Option RestartPolicy := none
  tolerations : Option (List Toleration) := none
  imagePullSecrets : Option (List String) := none
  serviceAccountName : Option String := none
  priorityClassName : Option String := none
  deriving DecidableEq, Repr

namespace VolumeMount

def toJson (mount : VolumeMount) : Json :=
  .object [("mountPath", .string mount.path), ("name", .string mount.volume)]

end VolumeMount

/-- A list member that is left out when the list is empty. -/
def Json.nonEmptyList (name : String) (write : α → Json) (values : List α) : List (String × Json) :=
  if values.isEmpty then [] else [(name, .array (values.map write))]

namespace Container

def toJson (container : Container) : Json :=
  .object (Json.nonEmptyList "args" .string container.args ++
    [("command", Json.texts container.command), ("image", .string container.image),
     ("imagePullPolicy", .string container.pullPolicy.name), ("name", .string container.name),
     ("volumeMounts", .array (container.mounts.map VolumeMount.toJson))])

end Container

namespace HostPathKind

def name : HostPathKind → String
  | .directoryOrCreate => "DirectoryOrCreate"
  | .socket => "Socket"

end HostPathKind

namespace HostPath

def toJson (source : HostPath) : Json :=
  .object [("path", .string source.path), ("type", .string source.kind.name)]

end HostPath

namespace EmptyDir

def toJson (_ : EmptyDir) : Json :=
  .object []

end EmptyDir

namespace Volume

def toJson (volume : Volume) : Json :=
  .object (Json.optional "emptyDir" EmptyDir.toJson volume.emptyDir ++
    Json.optional "hostPath" HostPath.toJson volume.hostPath ++
    [("name", .string volume.name)])

end Volume

namespace RestartPolicy

def name : RestartPolicy → String
  | .always => "Always"
  | .onFailure => "OnFailure"
  | .never => "Never"

end RestartPolicy

namespace Toleration

def operatorName : TolerationOperator → String
  | .equal => "Equal"
  | .exists => "Exists"

def toJson (toleration : Toleration) : Json :=
  .object (Json.optional "key" .string toleration.key ++
    [("operator", .string (operatorName toleration.operator))])

end Toleration

namespace Pod

def secretReferences (names : List String) : Json :=
  .array (names.map fun name => .object [("name", .string name)])

def toJson (pod : Pod) : Json :=
  .object (("containers", .array (pod.containers.map Container.toJson)) ::
    Json.optional "hostNetwork" .bool pod.hostNetwork ++
    Json.optional "imagePullSecrets" secretReferences pod.imagePullSecrets ++
    Json.nonEmptyList "initContainers" Container.toJson pod.initContainers ++
    Json.optional "nodeSelector" TextMap.toJson pod.nodeSelector ++
    Json.optional "priorityClassName" .string pod.priorityClassName ++
    Json.optional "restartPolicy" (fun policy => .string policy.name) pod.restartPolicy ++
    Json.optional "serviceAccountName" .string pod.serviceAccountName ++
    Json.optional "tolerations" (fun list => .array (list.map Toleration.toJson))
      pod.tolerations ++
    [("volumes", .array (pod.volumes.map Volume.toJson))])

end Pod

end ImageJobs
