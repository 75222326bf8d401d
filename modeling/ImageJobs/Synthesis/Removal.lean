import ImageJobs.Synthesis.Assignment

namespace ImageJobs

structure Removal where
  cache : Option ImageCache
  image : String
  node : Node
  /-- What the node says of its container engine. -/
  engineVersion : String
  deriving DecidableEq, Repr

namespace Removal

def containerName : String := "docker-cri-client"

/-- What the command prints becomes the reason that the pod gives for its end. -/
def script (command : String) : String :=
  "exec " ++ command ++ " > /dev/termination-log 2>&1"

/-- Runs the engine's command line against the socket of the host. -/
def variant (command : RemovalCommand) (settings : Settings) : Pod where
  containers :=
    [{ name := containerName, image := settings.criClientImage, command := ["/bin/bash"]
       args := ["-c", script command.line], pullPolicy := .ifNotPresent
       mounts := [⟨"runtime-sock", command.socket⟩] }]
  volumes := [{ name := "runtime-sock", hostPath := some ⟨command.socket, .socket⟩ }]
  hostNetwork := some settings.deleteJobHostNetwork

def job (removal : Removal) (settings : Settings) : Logged (Except Refusal Job) := do
  match ← Assignment.ofInputs removal.cache removal.node with
  | .error refusal => return .error refusal
  | .ok assignment =>
    let engine := Engine.ofVersion removal.engineVersion
    if engine = .unknown then
      Logged.emit (.engineUnrecognized removal.engineVersion assignment.hostname)
    let command := engine.removalCommand removal.image settings.socketPath
    Logged.emit (.removalPlanned removal.image assignment.hostname engine command.socket)
    return .ok (assignment.job settings (variant command settings))

/-- The inputs that every job needs decide whether there is a job; the rest decides its variant. -/
theorem value_job (removal : Removal) (settings : Settings) :
    (removal.job settings).value =
      (Assignment.ofInputs removal.cache removal.node).value.map fun assignment =>
        assignment.job settings (variant ((Engine.ofVersion removal.engineVersion).removalCommand
          removal.image settings.socketPath) settings) := by
  simp only [job, Logged.value_bind]
  cases (Assignment.ofInputs removal.cache removal.node).value with
  | error refusal => rfl
  | ok assignment =>
    by_cases unknown : Engine.ofVersion removal.engineVersion = .unknown <;>
      simp [unknown, Except.map]

/-- The events of the inputs come first. Only a job that is built has events of its own. -/
theorem events_job (removal : Removal) (settings : Settings) :
    (removal.job settings).events =
      (Assignment.ofInputs removal.cache removal.node).events ++
        match (Assignment.ofInputs removal.cache removal.node).value with
        | .error _ => []
        | .ok assignment =>
          (if Engine.ofVersion removal.engineVersion = .unknown then
            [.engineUnrecognized removal.engineVersion assignment.hostname] else []) ++
            [.removalPlanned removal.image assignment.hostname
              (Engine.ofVersion removal.engineVersion)
              ((Engine.ofVersion removal.engineVersion).socket settings.socketPath)] := by
  simp only [job, Logged.events_bind]
  cases (Assignment.ofInputs removal.cache removal.node).value with
  | error refusal => rfl
  | ok assignment =>
    by_cases unknown : Engine.ofVersion removal.engineVersion = .unknown
    · simp only [unknown, ↓reduceIte]
      rfl
    · simp only [unknown, ↓reduceIte]
      rfl

end Removal

end ImageJobs
