import ImageJobs.Proofs.JobSkeleton

namespace ImageJobs

namespace Engine

/-- The engine that a version text stands for. The marks are looked for in a fixed order, each
anywhere in the text. -/
inductive MentionedFirst (version : String) : Engine → Prop where
  | containerd (found : "containerd".toList <:+: version.toList) : MentionedFirst version .containerd
  | crio (noContainerd : ¬"containerd".toList <:+: version.toList)
      (found : "crio".toList <:+: version.toList ∨ "cri-o".toList <:+: version.toList) :
      MentionedFirst version .crio
  | docker (noContainerd : ¬"containerd".toList <:+: version.toList)
      (noCrio : ¬("crio".toList <:+: version.toList ∨ "cri-o".toList <:+: version.toList))
      (found : "docker".toList <:+: version.toList) : MentionedFirst version .docker
  | unknown (noContainerd : ¬"containerd".toList <:+: version.toList)
      (noCrio : ¬("crio".toList <:+: version.toList ∨ "cri-o".toList <:+: version.toList))
      (noDocker : ¬"docker".toList <:+: version.toList) : MentionedFirst version .unknown

theorem mentionedFirst_ofVersion (version : String) : MentionedFirst version (ofVersion version) := by
  unfold ofVersion
  simp only [Bool.or_eq_true, Text.mentions_iff]
  split
  · rename_i found
    exact .containerd found
  split
  · rename_i noContainerd found
    exact .crio noContainerd found
  split
  · rename_i noContainerd noCrio found
    exact .docker noContainerd noCrio found
  · rename_i noContainerd noCrio noDocker
    exact .unknown noContainerd noCrio noDocker

/-- The order leaves one engine for each version text. -/
theorem MentionedFirst.ofVersion_eq {version : String} {engine : Engine}
    (mentioned : engine.MentionedFirst version) : ofVersion version = engine := by
  simp only [ofVersion, Bool.or_eq_true, Text.mentions_iff]
  cases mentioned with
  | containerd found => simp only [found, ↓reduceIte]
  | crio noContainerd found => simp only [noContainerd, found, ↓reduceIte]
  | docker noContainerd noCrio found => simp only [noContainerd, noCrio, found, ↓reduceIte]
  | unknown noContainerd noCrio noDocker =>
    simp only [noContainerd, noCrio, noDocker, ↓reduceIte]

theorem mentionedFirst_iff {version : String} {engine : Engine} :
    engine.MentionedFirst version ↔ ofVersion version = engine := by
  constructor
  · exact MentionedFirst.ofVersion_eq
  · rintro rfl
    exact mentionedFirst_ofVersion version

/-- The socket through which an engine is reached, of the one that is given for it, if any. An
unknown engine is reached where docker is, whatever is given. -/
inductive ReachedAt : Option String → Engine → String → Prop where
  | unknown : ReachedAt given .unknown "/var/run/docker.sock"
  | given (known : engine ≠ .unknown) : ReachedAt (some path) engine path
  | containerd : ReachedAt none .containerd "/run/containerd/containerd.sock"
  | crio : ReachedAt none .crio "/var/run/crio/crio.sock"
  | docker : ReachedAt none .docker "/var/run/docker.sock"

theorem reachedAt_socket (engine : Engine) (given : Option String) :
    engine.ReachedAt given (engine.socket given) := by
  cases given with
  | some path =>
    cases engine with
    | unknown => exact .unknown
    | docker | containerd | crio => exact .given Engine.noConfusion
  | none =>
    cases engine with
    | unknown => exact .unknown
    | docker => exact .docker
    | containerd => exact .containerd
    | crio => exact .crio

/-- What is given leaves one socket for each engine. -/
theorem ReachedAt.socket_eq {given : Option String} {engine : Engine} {path : String}
    (reached : engine.ReachedAt given path) : engine.socket given = path := by
  cases reached with
  | unknown => rfl
  | given known =>
    cases engine with
    | unknown => exact absurd rfl known
    | docker | containerd | crio => rfl
  | containerd | crio | docker => rfl

theorem reachedAt_iff {given : Option String} {engine : Engine} {path : String} :
    engine.ReachedAt given path ↔ engine.socket given = path := by
  constructor
  · exact ReachedAt.socket_eq
  · rintro rfl
    exact reachedAt_socket engine given

/-- The words with which the engine's client is called before it is told the image. -/
def clientWords (path : String) : Engine → List String
  | .containerd | .crio =>
    ["/usr/bin/crictl", "--runtime-endpoint=unix://" ++ path,
      "--image-endpoint=unix://" ++ path, "rmi"]
  | .docker => ["/usr/bin/docker", "-H", "unix://" ++ path, "image", "rm", "-f"]
  | .unknown => ["/usr/bin/docker", "image", "rm", "-f"]

theorem removalLine_eq_intercalate (engine : Engine) (path image : String) :
    engine.removalLine path image = " ".intercalate (engine.clientWords path ++ [image]) := by
  apply String.toList_inj.mp
  cases engine <;> simp [removalLine.eq_def, clientWords, String.intercalate_cons_cons]

end Engine

/-- An unknown engine leaves no trace of the operator's socket, in the job or on the way to it. -/
theorem Removal.job_of_unknown {removal : Removal}
    (unknown : Engine.ofVersion removal.engineVersion = .unknown) (settings : Settings)
    (given : Option String) :
    removal.job { settings with criSocketPath := given } = removal.job settings := by
  unfold job
  rw [unknown]
  rfl

theorem Settings.socketPath_eq_filter (settings : Settings) :
    settings.socketPath = settings.criSocketPath.filter (· ≠ "") :=
  nonEmpty_eq_filter settings.criSocketPath

/-- The one container of a removal has the host's socket of the engine mounted where it is on the
host, and its command line goes through that socket. The engine is the first that the version text
mentions, the socket that of the settings, if there is a text there, or the engine's own; for an
unknown engine the settings do not count, and the client is left to find the docker socket by
itself. -/
theorem removal_goes_through_mounted_socket {removal : Removal} {settings : Settings} {job : Job}
    (built : (removal.job settings).value = .ok job) :
    (∃ (engine : Engine) (path : String) (container : Container) (volume : String),
      engine.MentionedFirst removal.engineVersion ∧
        engine.ReachedAt (settings.criSocketPath.filter (· ≠ "")) path ∧
        job.pod.containers = [container] ∧
        job.pod.volumes = [{ name := volume, hostPath := some ⟨path, .socket⟩ }] ∧
        container.mounts = [⟨volume, path⟩] ∧
        container.args = ["-c", "exec " ++
          " ".intercalate (engine.clientWords path ++ [removal.image]) ++
          " > /dev/termination-log 2>&1"]) ∧
    (Engine.MentionedFirst removal.engineVersion .unknown →
      ∀ given, removal.job { settings with criSocketPath := given } = removal.job settings) := by
  constructor
  · let engine := Engine.ofVersion removal.engineVersion
    have body := Removal.body_of_job built
    rw [← settings.socketPath_eq_filter]
    refine ⟨engine, engine.socket settings.socketPath, _, "runtime-sock",
      Engine.mentionedFirst_ofVersion _, Engine.reachedAt_socket engine settings.socketPath,
      congrArg PodBody.containers body, congrArg PodBody.volumes body, rfl, ?_⟩
    rw [← Engine.removalLine_eq_intercalate]
    rfl
  · intro unknown given
    exact Removal.job_of_unknown unknown.ofVersion_eq settings given

/-- An operator's socket is the one mounted for a known engine, the engine's own one is where there
is no other, and an unknown engine has that of docker whatever the settings say. -/
theorem mounted_socket_of_known_and_unknown_engine :
    let settings : Settings := { criSocketPath := some "/run/k3s/containerd.sock" }
    let known : Removal :=
      { cache := some (.ofOwner "edge" "ops" "7d0e"), image := "redis:7.4"
        node := .ofHost "edge-7", engineVersion := "containerd://1.7.22" }
    let peer : Removal := { known with engineVersion := "cri-o://1.28.1" }
    let unknown : Removal := { known with engineVersion := "rkt://1.30.0" }
    (∃ job volume, (known.job settings).value = .ok job ∧
      job.pod.volumes =
        [{ name := volume, hostPath := some ⟨"/run/k3s/containerd.sock", .socket⟩ }]) ∧
    (∃ job volume, (peer.job { criSocketPath := some "" }).value = .ok job ∧
      job.pod.volumes =
        [{ name := volume, hostPath := some ⟨"/var/run/crio/crio.sock", .socket⟩ }]) ∧
    (∃ job volume, (unknown.job settings).value = .ok job ∧
      job.pod.volumes =
        [{ name := volume, hostPath := some ⟨"/var/run/docker.sock", .socket⟩ }]) ∧
    unknown.job settings = unknown.job {} := by
  intro settings known peer unknown
  have mounted {removal : Removal} {under : Settings} {job : Job} {engine : Engine} {path : String}
      (built : (removal.job under).value = .ok job)
      (found : engine.MentionedFirst removal.engineVersion)
      (reached : engine.ReachedAt (under.criSocketPath.filter (· ≠ "")) path) :
      ∃ volume, job.pod.volumes = [{ name := volume, hostPath := some ⟨path, .socket⟩ }] := by
    obtain ⟨other, otherPath, container, volume, mentioned, there, -, volumes, -⟩ :=
      (removal_goes_through_mounted_socket built).1
    obtain rfl := mentioned.ofVersion_eq.symm.trans found.ofVersion_eq
    obtain rfl := there.socket_eq.symm.trans reached.socket_eq
    exact ⟨volume, volumes⟩
  obtain ⟨knownJob, knownBuilt⟩ := known.exists_job rfl rfl settings
  obtain ⟨peerJob, peerBuilt⟩ := peer.exists_job rfl rfl { criSocketPath := some "" }
  obtain ⟨unknownJob, unknownBuilt⟩ := unknown.exists_job rfl rfl settings
  have foundKnown : Engine.MentionedFirst known.engineVersion .containerd :=
    Engine.mentionedFirst_iff.mpr (by decide)
  have foundPeer : Engine.MentionedFirst peer.engineVersion .crio :=
    Engine.mentionedFirst_iff.mpr (by decide)
  have foundUnknown : Engine.MentionedFirst unknown.engineVersion .unknown :=
    Engine.mentionedFirst_iff.mpr (by decide)
  obtain ⟨volume, volumes⟩ := mounted knownBuilt foundKnown (.given (by decide))
  obtain ⟨peerVolume, peerVolumes⟩ := mounted peerBuilt foundPeer .crio
  obtain ⟨unknownVolume, unknownVolumes⟩ := mounted unknownBuilt foundUnknown .unknown
  exact ⟨⟨knownJob, volume, knownBuilt, volumes⟩, ⟨peerJob, peerVolume, peerBuilt, peerVolumes⟩,
    ⟨unknownJob, unknownVolume, unknownBuilt, unknownVolumes⟩,
    ((removal_goes_through_mounted_socket unknownBuilt).2 foundUnknown none).symm⟩

end ImageJobs
