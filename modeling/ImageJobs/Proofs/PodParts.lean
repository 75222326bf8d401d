import ImageJobs.Proofs.RecordMembers
import ImageJobs.Proofs.RemovalScript

/-! How the parts of a pod fit together. Volumes, mounts, helpers and commands name each other by
texts, and every job that is built has these texts agree: what is mounted is declared, what is
declared is used, and commands work where the volumes are. -/

namespace ImageJobs

/-- The kinds of source that the volume's document has a member for. -/
def Volume.sourceNames (volume : Volume) : List String :=
  ["emptyDir", "hostPath"].filter fun kind => (volume.toJson.member? kind).isSome

/-- A volume may be written with any of its sources, with both of them or with none. -/
theorem Volume.sourceNames_eq (volume : Volume) :
    volume.sourceNames =
      (volume.emptyDir.map fun _ => "emptyDir").toList ++
        (volume.hostPath.map fun _ => "hostPath").toList := by
  obtain ⟨name, emptyDir, hostPath⟩ := volume
  cases emptyDir <;> cases hostPath <;> rfl

namespace PodBody

def volumeNames (body : PodBody) : List String :=
  body.volumes.map (·.name)

/-- The parts that go by names fit together. -/
structure FitsTogether (body : PodBody) : Prop where
  volumesApart : body.volumeNames.Nodup
  mountsDeclared : ∀ container ∈ body.initContainers ++ body.containers,
    ∀ mount ∈ container.mounts, mount.volume ∈ body.volumeNames
  volumesMounted : ∀ name ∈ body.volumeNames,
    ∃ container ∈ body.containers, name ∈ container.mounts.map (·.volume)
  oneSource : ∀ volume ∈ body.volumes, ∃ kind, volume.sourceNames = [kind]
  containersApart : ((body.initContainers ++ body.containers).map (·.name)).Nodup

/-- The helper copies a program into the directory that it shares with the one container, and there
the container runs it. -/
inductive LendsProgram (body : PodBody) : Prop where
  | shared {helper main : Container} {volume path source program : String} {words : List String}
      (helped : body.initContainers = [helper]) (one : body.containers = [main])
      (empty : body.volumes.map Volume.toJson =
        [.object [("emptyDir", .object []), ("name", .string volume)]])
      (helperMount : helper.mounts = [⟨volume, path⟩]) (mainMount : main.mounts = [⟨volume, path⟩])
      (entry : '/' ∉ program.toList)
      (copied : helper.command = ["cp", source ++ "/" ++ program, path])
      (run : main.command = (path ++ "/" ++ program) :: words)

/-- The one container has the one volume mounted, which is something of the host. The volume is
written as being of that kind. -/
inductive MountsHost (body : PodBody) (kind : String) : Prop where
  | single {main : Container} {volume path source : String} (one : body.containers = [main])
      (mount : main.mounts = [⟨volume, path⟩])
      (written : body.volumes.map Volume.toJson =
        [.object [("hostPath", .object [("path", .string source), ("type", .string kind)]),
          ("name", .string volume)]])

/-- The one container makes the directory that its volume is mounted at, and unpacks there what it
packs from its own root. Nothing that it packs is an operator of the shell. -/
inductive UnpacksAtMount (body : PodBody) : Prop where
  | piped {main : Container} {volume path script : String} {packed : List String}
      (noHelper : body.initContainers = []) (one : body.containers = [main])
      (mount : main.mounts = [⟨volume, path⟩])
      (shell : main.command = ["/bin/sh"]) (args : main.args = ["-c", script])
      (words : Shell.words script =
        ["mkdir", "-p", path, "&&", "tar", "-cf", "-", "-C", "/"] ++ packed ++
          ["|", "tar", "-xf", "-", "-C", path])
      (literal : ∀ word ∈ packed, ∀ char ∈ word.toList, char ∉ Shell.specials)

/-- One volume that every container mounts once, and of which the containers are told apart. -/
theorem FitsTogether.of_one_volume {body : PodBody} {volume : Volume}
    (one : body.volumes = [volume]) (sourced : ∃ kind, volume.sourceNames = [kind])
    (run : body.containers ≠ [])
    (mounted : ∀ container ∈ body.initContainers ++ body.containers,
      ∃ path, container.mounts = [⟨volume.name, path⟩])
    (apart : ((body.initContainers ++ body.containers).map (·.name)).Nodup) :
    body.FitsTogether where
  volumesApart := by simp [volumeNames, one]
  mountsDeclared := by
    intro container member mount mounts
    obtain ⟨path, only⟩ := mounted container member
    rw [only, List.mem_singleton] at mounts
    simp [volumeNames, one, mounts]
  volumesMounted := by
    intro name declared
    obtain ⟨container, member⟩ := List.exists_mem_of_ne_nil _ run
    obtain ⟨path, only⟩ := mounted container (List.mem_append_right _ member)
    have same : name = volume.name := by simpa [volumeNames, one] using declared
    exact ⟨container, member, by simp [only, same]⟩
  oneSource := by
    intro other declared
    rw [one, List.mem_singleton] at declared
    exact declared ▸ sourced
  containersApart := apart

end PodBody

namespace Placement

variable {image : String} {policy : PullPolicy} {settings : Settings}

theorem fitsTogether_copyPod (root script : String) :
    (copyPod image policy root script).FitsTogether := by
  refine .of_one_volume rfl ⟨"hostPath", Volume.sourceNames_eq _⟩ (List.cons_ne_nil _ _) ?_
    (List.nodup_singleton _)
  intro container member
  have only := List.mem_singleton.mp member
  exact ⟨cacheMount, only ▸ rfl⟩

theorem fitsTogether_pullPod (helper : String) : (pullPod image policy helper).FitsTogether := by
  refine .of_one_volume rfl ⟨"emptyDir", Volume.sourceNames_eq _⟩ (List.cons_ne_nil _ _) ?_ ?_
  · intro container member
    rcases List.mem_cons.mp member with isHelper | member
    · exact ⟨echoMount, isHelper ▸ rfl⟩
    · have only := List.mem_singleton.mp member
      exact ⟨echoMount, only ▸ rfl⟩
  · have apart : ["busybox", "image-puller"].Nodup := by decide
    exact apart

theorem fitsTogether_variant (strategy : Strategy) :
    (variant strategy image policy settings).FitsTogether := by
  cases strategy with
  | wholeImage => exact fitsTogether_copyPod ..
  | directories paths => exact fitsTogether_copyPod ..
  | plainPull => exact fitsTogether_pullPod ..

/-- The container of a plain pull finds the helper's program where the helper puts it. -/
theorem lendsProgram_pullPod (helper : String) : (pullPod image policy helper).LendsProgram := by
  have copied : "/bin/echo" = "/bin" ++ "/" ++ "echo" := by decide
  have run : echoMount ++ "/echo" = echoMount ++ "/" ++ "echo" := by decide
  exact .shared rfl rfl rfl rfl rfl (by decide) (congrArg (["cp", ·, echoMount]) copied)
    (congrArg (· :: _) run)

theorem mountsHost_variant {strategy : Strategy} (copied : strategy ≠ .plainPull) :
    (variant strategy image policy settings).MountsHost "DirectoryOrCreate" := by
  cases strategy with
  | wholeImage => exact .single rfl rfl rfl
  | directories paths => exact .single rfl rfl rfl
  | plainPull => exact absurd rfl copied

theorem unpacksAtMount_copyPod (root : String) {script : String} {packed : List String}
    (words : Shell.words script =
      ["mkdir", "-p", cacheMount, "&&", "tar", "-cf", "-", "-C", "/"] ++ packed ++
        ["|", "tar", "-xf", "-", "-C", cacheMount])
    (literal : ∀ word ∈ packed, ∀ char ∈ word.toList, char ∉ Shell.specials) :
    (copyPod image policy root script).UnpacksAtMount :=
  .piped rfl rfl rfl rfl rfl words literal

theorem words_wholeScript :
    Shell.words wholeScript =
      ["mkdir", "-p", cacheMount, "&&", "tar", "-cf", "-", "-C", "/"] ++
        ["--exclude=./proc", "--exclude=./sys", "--exclude=./dev", "--exclude=./cache", "."] ++
        ["|", "tar", "-xf", "-", "-C", cacheMount] := by
  decide +kernel

theorem words_directoryScript :
    Shell.words (directoryScript Strategy.directoryPaths) =
      ["mkdir", "-p", cacheMount, "&&", "tar", "-cf", "-", "-C", "/"] ++
        ["opt/conda/bin/", "opt/conda/lib/"] ++
        ["|", "tar", "-xf", "-", "-C", cacheMount] := by
  decide +kernel

/-- A strategy that is chosen and is no plain pull has its script unpack at the mount. -/
theorem unpacksAtMount_variant {copyAll : Bool}
    (copied : Strategy.choose image copyAll ≠ .plainPull) :
    (variant (Strategy.choose image copyAll) image policy settings).UnpacksAtMount := by
  unfold Strategy.choose at copied ⊢
  split at copied
  · rw [if_pos ‹_›]
    exact unpacksAtMount_copyPod _ words_wholeScript (by simp [Shell.specials])
  split at copied
  · rw [if_neg ‹_›, if_pos ‹_›]
    exact unpacksAtMount_copyPod _ words_directoryScript (by simp [Shell.specials])
  · exact absurd rfl copied

theorem initContainers_variant_iff (strategy : Strategy) :
    (variant strategy image policy settings).initContainers ≠ [] ↔ strategy = .plainPull := by
  cases strategy with
  | wholeImage => exact iff_of_false (fun helped => helped rfl) nofun
  | directories paths => exact iff_of_false (fun helped => helped rfl) nofun
  | plainPull => exact iff_of_true (List.cons_ne_nil _ _) rfl

end Placement

theorem Removal.fitsTogether_variant (command : RemovalCommand) (settings : Settings) :
    (variant command settings).FitsTogether := by
  refine .of_one_volume rfl ⟨"hostPath", Volume.sourceNames_eq _⟩ (List.cons_ne_nil _ _) ?_
    (List.nodup_singleton _)
  intro container member
  have only := List.mem_singleton.mp member
  exact ⟨command.socket, only ▸ rfl⟩

/-- Every pod of a job fits together: its volumes are told apart and have one source each, its
containers and helpers mount only volumes that it declares and leave none without a use, and they
are told apart as well. Only the pod of a plain pull has a helper, and its container runs the
program that the helper copies into the empty directory that both have mounted. The container of a
copy makes the directory where a folder of the host is mounted and unpacks there. A removal has one
container, which has a socket of the host mounted. -/
theorem pod_fits_together :
    (∀ (placement : Placement) (settings : Settings) (job : Job),
      (placement.job settings).value = .ok job →
        job.pod.FitsTogether ∧
        (job.pod.initContainers ≠ [] ↔
          Strategy.choose placement.image placement.copyAll = .plainPull) ∧
        (Strategy.choose placement.image placement.copyAll = .plainPull → job.pod.LendsProgram) ∧
        (Strategy.choose placement.image placement.copyAll ≠ .plainPull →
          job.pod.UnpacksAtMount ∧ job.pod.MountsHost "DirectoryOrCreate")) ∧
    (∀ (removal : Removal) (settings : Settings) (job : Job),
      (removal.job settings).value = .ok job →
        job.pod.FitsTogether ∧ job.pod.initContainers = [] ∧ job.pod.MountsHost "Socket") := by
  constructor
  · intro placement settings job built
    rw [Placement.body_of_job built]
    refine ⟨Placement.fitsTogether_variant _, Placement.initContainers_variant_iff _,
      fun pulled => ?_, fun copied => ⟨Placement.unpacksAtMount_variant copied,
        Placement.mountsHost_variant copied⟩⟩
    rw [pulled]
    exact Placement.lendsProgram_pullPod settings.busyboxImage
  · intro removal settings job built
    rw [Removal.body_of_job built]
    exact ⟨Removal.fitsTogether_variant _ settings, rfl, .single rfl rfl rfl⟩

/-- A plain pull, a copy and a removal through a socket of the operator's. -/
theorem pods_of_three_kinds_fit_together :
    let settings : Settings := { criSocketPath := some "/run/k3s/containerd.sock", cacheRoot := "" }
    let pull : Placement :=
      { cache := some (.ofOwner "edge" "ops" "7d0e"), image := "redis:7.4"
        node := .ofHost "edge-7" }
    let copy : Placement := { pull with image := "ghcr.io/modelzai/llm:v0.4.1" }
    let removal : Removal :=
      { cache := pull.cache, image := "redis:7.4", node := pull.node
        engineVersion := "containerd://1.7.22" }
    (∃ job, (pull.job settings).value = .ok job ∧ job.pod.FitsTogether ∧ job.pod.LendsProgram) ∧
    (∃ job, (copy.job settings).value = .ok job ∧ job.pod.FitsTogether ∧
      job.pod.UnpacksAtMount ∧ job.pod.MountsHost "DirectoryOrCreate") ∧
    ∃ job, (removal.job settings).value = .ok job ∧ job.pod.FitsTogether ∧
      job.pod.MountsHost "Socket" := by
  intro settings pull copy removal
  obtain ⟨pulled, pullBuilt⟩ := pull.exists_job rfl rfl settings
  obtain ⟨copied, copyBuilt⟩ := copy.exists_job rfl rfl settings
  obtain ⟨removed, removalBuilt⟩ := removal.exists_job rfl rfl settings
  obtain ⟨pullFits, -, lends, -⟩ := pod_fits_together.1 pull settings pulled pullBuilt
  obtain ⟨copyFits, -, -, unpacks⟩ := pod_fits_together.1 copy settings copied copyBuilt
  obtain ⟨removalFits, -, mounts⟩ := pod_fits_together.2 removal settings removed removalBuilt
  exact ⟨⟨pulled, pullBuilt, pullFits, lends (by decide)⟩,
    ⟨copied, copyBuilt, copyFits, unpacks (by decide)⟩, removed, removalBuilt, removalFits, mounts⟩

end ImageJobs
