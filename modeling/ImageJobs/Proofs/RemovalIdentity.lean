import ImageJobs.Proofs.RemovalSocket

namespace ImageJobs

namespace Engine

/-- The forms that a line for the shell can have. -/
inductive LineForm where
  | crictl
  | dockerAtSocket
  | docker
  deriving DecidableEq, Repr

def lineForm : Engine → LineForm
  | .containerd | .crio => .crictl
  | .docker => .dockerAtSocket
  | .unknown => .docker

/-- As much of a line as it takes to tell its form. -/
def LineForm.opening : LineForm → String
  | .crictl => "/usr/bin/crictl"
  | .dockerAtSocket => "/usr/bin/docker -H"
  | .docker => "/usr/bin/docker image"

/-- What stands in a line between its opening and the image. -/
def LineForm.options (path : String) : LineForm → String
  | .crictl =>
    " --runtime-endpoint=unix://" ++ path ++ " --image-endpoint=unix://" ++ path ++ " rmi "
  | .dockerAtSocket => " unix://" ++ path ++ " image rm -f "
  | .docker => " rm -f "

theorem removalLine_eq_append (engine : Engine) (path image : String) :
    engine.removalLine path image =
      engine.lineForm.opening ++ (engine.lineForm.options path ++ image) := by
  apply String.toList_inj.mp
  cases engine <;> simp [removalLine.eq_def, lineForm, LineForm.opening, LineForm.options.eq_def]

theorem LineForm.eq_of_opening_starts {form other : LineForm}
    (starts : form.opening.toList <+: other.opening.toList) : form = other := by
  cases form <;> cases other <;> first | rfl | exact absurd starts (by decide)

/-- No opening is the beginning of another one, so that a line has one form only. -/
theorem LineForm.eq_of_append_eq {form other : LineForm} {rest otherRest : String}
    (same : form.opening ++ rest = other.opening ++ otherRest) : form = other := by
  have chars : form.opening.toList ++ rest.toList = other.opening.toList ++ otherRest.toList := by
    simpa using congrArg String.toList same
  have starts : form.opening.toList <+: form.opening.toList ++ rest.toList :=
    List.prefix_append ..
  have otherStarts : other.opening.toList <+: form.opening.toList ++ rest.toList :=
    chars ▸ List.prefix_append ..
  rcases List.prefix_or_prefix_of_prefix starts otherStarts with shorter | longer
  · exact eq_of_opening_starts shorter
  · exact (eq_of_opening_starts longer).symm

theorem removalLine_eq_iff {engine peer : Engine} {path image other : String} :
    engine.removalLine path image = peer.removalLine path other ↔
      image = other ∧ engine.lineForm = peer.lineForm := by
  rw [removalLine_eq_append, removalLine_eq_append]
  constructor
  · intro same
    have form := LineForm.eq_of_append_eq same
    rw [form, String.append_right_inj, String.append_right_inj] at same
    exact ⟨same, form⟩
  · rintro ⟨rfl, form⟩
    rw [form]

theorem removalCommand_eq_iff {engine peer : Engine} {image other : String}
    {given otherGiven : Option String} :
    engine.removalCommand image given = peer.removalCommand other otherGiven ↔
      image = other ∧ engine.socket given = peer.socket otherGiven ∧
        engine.lineForm = peer.lineForm := by
  simp only [removalCommand, RemovalCommand.mk.injEq]
  constructor
  · rintro ⟨socket, line⟩
    rw [socket, removalLine_eq_iff] at line
    exact ⟨line.1, socket, line.2⟩
  · rintro ⟨image, socket, form⟩
    rw [socket, removalLine_eq_iff]
    exact ⟨rfl, image, form⟩

/-- Two engines are reached through one socket exactly if they come to the same one. -/
theorem exists_reachedAt_iff {engine peer : Engine} {given otherGiven : Option String} :
    (∃ path, engine.ReachedAt given path ∧ peer.ReachedAt otherGiven path) ↔
      engine.socket given = peer.socket otherGiven := by
  simp only [reachedAt_iff]
  constructor
  · rintro ⟨path, reached, otherReached⟩
    exact reached.trans otherReached.symm
  · intro same
    exact ⟨_, rfl, same.symm⟩

end Engine

namespace Removal

theorem script_inj {line other : String} : script line = script other ↔ line = other := by
  rw [script, script, String.append_left_inj, String.append_right_inj]

/-- A body shows the whole command: its socket is the path of the mount, its line stands in the
script. -/
theorem command_eq_of_body_eq {command other : RemovalCommand} {settings changed : Settings}
    (same : (variant command settings).toPodBody = (variant other changed).toPodBody) :
    command = other := by
  have sockets := congrArg (fun body => body.containers.map (·.mounts)) same
  have scripts := congrArg (fun body => body.containers.map (·.args)) same
  have socket : command.socket = other.socket := by simpa [variant] using sockets
  have line : command.line = other.line := by simpa [variant, script_inj] using scripts
  obtain ⟨_, _⟩ := command
  subst socket line
  rfl

theorem command_eq_of_job_eq {removal other : Removal} {settings changed : Settings}
    {job otherJob : Job} (built : (removal.job settings).value = .ok job)
    (otherBuilt : (other.job changed).value = .ok otherJob)
    (same : job.pod.toPodBody = otherJob.pod.toPodBody) :
    (Engine.ofVersion removal.engineVersion).removalCommand removal.image settings.socketPath =
      (Engine.ofVersion other.engineVersion).removalCommand other.image changed.socketPath := by
  rw [body_of_job built, body_of_job otherBuilt] at same
  exact command_eq_of_body_eq same

/-- Under settings that differ in the socket only, the bodies tell as much as the commands. -/
theorem body_eq_iff {removal other : Removal} {settings : Settings} {given otherGiven : Option String}
    {job otherJob : Job}
    (built : (removal.job { settings with criSocketPath := given }).value = .ok job)
    (otherBuilt : (other.job { settings with criSocketPath := otherGiven }).value = .ok otherJob) :
    job.pod.toPodBody = otherJob.pod.toPodBody ↔
      (Engine.ofVersion removal.engineVersion).removalCommand removal.image
          (given.filter (· ≠ "")) =
        (Engine.ofVersion other.engineVersion).removalCommand other.image
          (otherGiven.filter (· ≠ "")) := by
  rw [← Settings.nonEmpty_eq_filter, ← Settings.nonEmpty_eq_filter]
  constructor
  · exact command_eq_of_job_eq built otherBuilt
  · intro same
    rw [body_of_job built, body_of_job otherBuilt]
    simp only [Settings.socketPath, same, variant]

end Removal

/-- A command has the socket that its engine is reached at. Two commands are the same exactly if they
remove the same image through the same socket with a line of the same form, whatever the texts are.
Two removals under settings that differ in the socket only have the same body for their pods exactly
then, and no two that are for different images ever have the same job, not even under different
settings. -/
theorem removal_commands_equal_iff :
    (∀ (engine peer : Engine) (image other : String) (given otherGiven : Option String),
      engine.ReachedAt given (engine.removalCommand image given).socket ∧
      (engine.removalCommand image given = peer.removalCommand other otherGiven ↔
        image = other ∧
          (∃ path, engine.ReachedAt given path ∧ peer.ReachedAt otherGiven path) ∧
          engine.lineForm = peer.lineForm)) ∧
    (∀ (removal other : Removal) (settings : Settings) (given otherGiven : Option String)
      (job otherJob : Job),
      (removal.job { settings with criSocketPath := given }).value = .ok job →
      (other.job { settings with criSocketPath := otherGiven }).value = .ok otherJob →
        let engine := Engine.ofVersion removal.engineVersion
        let peer := Engine.ofVersion other.engineVersion
        (job.pod.toPodBody = otherJob.pod.toPodBody ↔
          removal.image = other.image ∧
            (∃ path, engine.ReachedAt (given.filter (· ≠ "")) path ∧
              peer.ReachedAt (otherGiven.filter (· ≠ "")) path) ∧
            engine.lineForm = peer.lineForm)) ∧
    (∀ (removal other : Removal) (settings changed : Settings) (job otherJob : Job),
      (removal.job settings).value = .ok job → (other.job changed).value = .ok otherJob →
        removal.image ≠ other.image → job ≠ otherJob) := by
  refine ⟨fun engine peer image other given otherGiven => ⟨?_, ?_⟩, ?_, ?_⟩
  · exact engine.reachedAt_socket given
  · rw [Engine.removalCommand_eq_iff, Engine.exists_reachedAt_iff]
  · intro removal other settings given otherGiven job otherJob built otherBuilt engine peer
    rw [Removal.body_eq_iff built otherBuilt, Engine.removalCommand_eq_iff,
      Engine.exists_reachedAt_iff]
  · rintro removal other settings changed job _ built otherBuilt apart rfl
    have same := Removal.command_eq_of_job_eq built otherBuilt rfl
    exact apart (Engine.removalCommand_eq_iff.mp same).1

/-- One image is removed by the same body through either of two engines that are reached in the same
way, a longer version of its tag by another job, and by another body through another socket. An empty
socket that is given to a command is not one that is left out, though the settings take it for
that. -/
theorem removals_of_two_tags_differ :
    let settings : Settings := { criSocketPath := some "/run/k3s/containerd.sock" }
    let removal : Removal :=
      { cache := some (.ofOwner "edge" "ops" "7d0e"), image := "redis:7.4"
        node := .ofHost "edge-7", engineVersion := "containerd://1.7.22" }
    let peer : Removal := { removal with engineVersion := "cri-o://1.28.1" }
    let longer : Removal := { removal with image := "redis:7.4 -f" }
    (∃ job peerJob longerJob movedJob, (removal.job settings).value = .ok job ∧
      (peer.job settings).value = .ok peerJob ∧ (longer.job settings).value = .ok longerJob ∧
      (removal.job { settings with criSocketPath := some "/run/cri.sock" }).value = .ok movedJob ∧
      job.pod.toPodBody = peerJob.pod.toPodBody ∧ job ≠ longerJob ∧
      job.pod.toPodBody ≠ movedJob.pod.toPodBody) ∧
    Engine.crio.removalCommand "redis:7.4" none =
      Engine.crio.removalCommand "redis:7.4" (some "/var/run/crio/crio.sock") ∧
    Engine.crio.removalCommand "redis:7.4" none ≠
      Engine.crio.removalCommand "redis:7.4" (some "") := by
  intro settings removal peer longer
  obtain ⟨job, built⟩ := removal.exists_job rfl rfl settings
  obtain ⟨peerJob, peerBuilt⟩ := peer.exists_job rfl rfl settings
  obtain ⟨longerJob, longerBuilt⟩ := longer.exists_job rfl rfl settings
  obtain ⟨movedJob, movedBuilt⟩ :=
    removal.exists_job rfl rfl { settings with criSocketPath := some "/run/cri.sock" }
  obtain ⟨commands, bodies, jobs⟩ := removal_commands_equal_iff
  have sameSocket : ∃ path,
      (Engine.ofVersion removal.engineVersion).ReachedAt
        (settings.criSocketPath.filter (· ≠ "")) path ∧
      (Engine.ofVersion peer.engineVersion).ReachedAt
        (settings.criSocketPath.filter (· ≠ "")) path :=
    ⟨_, .given (by decide), .given (by decide)⟩
  refine ⟨⟨job, peerJob, longerJob, movedJob, built, peerBuilt, longerBuilt, movedBuilt, ?_, ?_, ?_⟩,
    ?_, ?_⟩
  · exact (bodies removal peer settings _ _ job peerJob built peerBuilt).mpr
      ⟨rfl, sameSocket, by decide⟩
  · exact jobs removal longer settings settings job longerJob built longerBuilt (by decide)
  · intro same
    obtain ⟨-, ⟨path, reached, moved⟩, -⟩ :=
      (bodies removal removal settings _ _ job movedJob built movedBuilt).mp same
    exact absurd (reached.socket_eq.trans moved.socket_eq.symm) (by decide)
  · exact (commands _ _ _ _ _ _).2.mpr ⟨rfl, ⟨_, .crio, .given (by decide)⟩, rfl⟩
  · intro same
    obtain ⟨-, ⟨path, reached, moved⟩, -⟩ := (commands _ _ _ _ _ _).2.mp same
    exact absurd (reached.socket_eq.trans moved.socket_eq.symm) (by decide)

end ImageJobs
