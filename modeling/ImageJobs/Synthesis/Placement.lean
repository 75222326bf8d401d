import ImageJobs.Image.PullDecision
import ImageJobs.Image.Reference
import ImageJobs.Synthesis.Assignment

namespace ImageJobs

structure Placement where
  cache : Option ImageCache
  image : String
  node : Node
  /-- Copy the whole image, whatever its name. -/
  copyAll : Bool := false
  /-- None for a policy that was not recognized. -/
  policy : Option PullPolicy := none
  deriving DecidableEq, Repr

namespace Placement

/-- Where a copying container sees the host folder. -/
def cacheMount : String := "/cache"

/-- Where the helper's program is shared. -/
def echoMount : String := "/tmp/bin"

/-- Copies everything but the virtual file systems and the copy itself. -/
def wholeScript : String :=
  "mkdir -p " ++ cacheMount ++
    " && tar -cf - -C / --exclude=./proc --exclude=./sys --exclude=./dev --exclude=." ++
    cacheMount ++ " . | tar -xf - -C " ++ cacheMount

/-- The path as seen from the root folder. -/
def relative (path : String) : String :=
  String.ofList (path.toList.dropWhile (· == '/'))

def directoryScript (paths : List String) : String :=
  "mkdir -p " ++ cacheMount ++ " && tar -cf - -C / " ++ " ".intercalate (paths.map relative) ++
    " | tar -xf - -C " ++ cacheMount

/-- Runs the image itself with a script that copies its files to the host. -/
def copyPod (image : String) (policy : PullPolicy) (root script : String) : Pod where
  containers :=
    [{ name := "image-cacher", image, command := ["/bin/sh"], args := ["-c", script]
       pullPolicy := policy, mounts := [⟨"image-cache", cacheMount⟩] }]
  volumes :=
    [{ name := "image-cache", hostPath := some ⟨Folder.path root image, .directoryOrCreate⟩ }]

/-- The helper lends its program, so that the image needs none of its own. -/
def pullPod (image : String) (policy : PullPolicy) (helper : String) : Pod where
  initContainers :=
    [{ name := "busybox", image := helper, command := ["cp", "/bin/echo", echoMount]
       pullPolicy := .ifNotPresent, mounts := [⟨"tmp-bin", echoMount⟩] }]
  containers :=
    [{ name := "image-puller", image
       command := [echoMount ++ "/echo", "Image pulled successfully!"]
       pullPolicy := policy, mounts := [⟨"tmp-bin", echoMount⟩] }]
  volumes := [{ name := "tmp-bin", emptyDir := some {} }]

/-- The pod as the strategy leaves it, with its frame still open. -/
def variant (strategy : Strategy) (image : String) (policy : PullPolicy) (settings : Settings) :
    Pod :=
  match strategy with
  | .wholeImage => copyPod image policy settings.cacheRoot wholeScript
  | .directories paths => copyPod image policy settings.cacheRoot (directoryScript paths)
  | .plainPull => pullPod image policy settings.busyboxImage

def job (placement : Placement) (settings : Settings) : Logged (Except Refusal Job) := do
  match ← Assignment.ofInputs placement.cache placement.node with
  | .error refusal => return .error refusal
  | .ok assignment =>
    let policy ← PullPolicy.ofRequest placement.policy placement.image
    let strategy := Strategy.choose placement.image placement.copyAll
    Logged.emit (.placementPlanned placement.image assignment.hostname strategy policy)
    return .ok (assignment.job settings (variant strategy placement.image policy settings))

/-- The inputs that every job needs decide whether there is a job; the rest decides its variant. -/
theorem value_job (placement : Placement) (settings : Settings) :
    (placement.job settings).value =
      (Assignment.ofInputs placement.cache placement.node).value.map fun assignment =>
        assignment.job settings (variant (Strategy.choose placement.image placement.copyAll)
          placement.image (PullPolicy.ofRequest placement.policy placement.image).value
          settings) := by
  simp only [job, Logged.value_bind]
  cases (Assignment.ofInputs placement.cache placement.node).value <;> rfl

/-- The events of the inputs come first. Only a job that is built has events of its own. -/
theorem events_job (placement : Placement) (settings : Settings) :
    (placement.job settings).events =
      (Assignment.ofInputs placement.cache placement.node).events ++
        match (Assignment.ofInputs placement.cache placement.node).value with
        | .error _ => []
        | .ok assignment =>
          (PullPolicy.ofRequest placement.policy placement.image).events ++
            [.placementPlanned placement.image assignment.hostname
              (Strategy.choose placement.image placement.copyAll)
              (PullPolicy.ofRequest placement.policy placement.image).value] := by
  simp only [job, Logged.events_bind]
  cases (Assignment.ofInputs placement.cache placement.node).value <;> rfl

end Placement

end ImageJobs
