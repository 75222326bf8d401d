import ImageJobs.Proofs.DeclaredInputs
import ImageJobs.Proofs.MissingInput

namespace ImageJobs

namespace Settings

/-- The settings with each empty text taken for one that is not given. -/
def withoutEmpty (settings : Settings) : Settings where
  busyboxImage :=
    if settings.busyboxImage = "" then "busybox:1.36.1" else settings.busyboxImage
  criClientImage :=
    if settings.criClientImage = "" then "docker.io/senthilrch/kubefledged-cri-client:v0.10.0"
    else settings.criClientImage
  serviceAccountName := settings.serviceAccountName.filter (· ≠ "")
  priorityClassName := settings.priorityClassName.filter (· ≠ "")
  deleteJobHostNetwork := settings.deleteJobHostNetwork
  criSocketPath := settings.criSocketPath.filter (· ≠ "")
  cacheRoot := if settings.cacheRoot = "" then "/var/lib/kubefledged/cache" else settings.cacheRoot

/-- The text that a job with the strategy uses as it stands is not empty: the helper's image for a
plain pull, and the root of the host folders for a copy. -/
structure FilledFor (settings : Settings) (strategy : Strategy) : Prop where
  helper : strategy = .plainPull → settings.busyboxImage ≠ ""
  root : strategy ≠ .plainPull → settings.cacheRoot ≠ ""

private theorem nonEmpty_filter (value : Option String) :
    nonEmpty (value.filter (· ≠ "")) = nonEmpty value := by
  rw [nonEmpty_eq_filter, nonEmpty_eq_filter, Option.filter_filter]
  simp only [Bool.and_self]

@[simp] theorem serviceAccount_withoutEmpty (settings : Settings) :
    settings.withoutEmpty.serviceAccount = settings.serviceAccount :=
  nonEmpty_filter _

@[simp] theorem priorityClass_withoutEmpty (settings : Settings) :
    settings.withoutEmpty.priorityClass = settings.priorityClass :=
  nonEmpty_filter _

@[simp] theorem socketPath_withoutEmpty (settings : Settings) :
    settings.withoutEmpty.socketPath = settings.socketPath :=
  nonEmpty_filter _

end Settings

/-- The frame of a job takes nothing from the settings but what counts an empty text as none. -/
theorem Assignment.job_withoutEmpty (assignment : Assignment) (settings : Settings)
    (variant : Pod) :
    assignment.job settings.withoutEmpty variant = assignment.job settings variant := by
  simp only [job, pod, applyOverrides, Settings.serviceAccount_withoutEmpty,
    Settings.priorityClass_withoutEmpty]

/-- A folder below the empty root is not one below the standing root. -/
theorem Folder.path_empty_ne (image : String) :
    path "" image ≠ path "/var/lib/kubefledged/cache" image := by
  intro same
  have lengths := congrArg String.length same
  simp only [path, String.length_append] at lengths
  exact absurd (Nat.add_right_cancel lengths) (by decide)

namespace Placement

theorem pullPod_inj_iff {image helper other : String} {policy : PullPolicy} :
    pullPod image policy helper = pullPod image policy other ↔ helper = other := by
  constructor
  · intro same
    have helpers := List.singleton_inj.mp (congrArg (·.initContainers) same)
    exact congrArg Container.image helpers
  · intro same
    rw [same]

theorem copyPod_inj_iff {image root other script : String} {policy : PullPolicy} :
    copyPod image policy root script = copyPod image policy other script ↔
      Folder.path root image = Folder.path other image := by
  constructor
  · intro same
    have volumes := List.singleton_inj.mp (congrArg (·.volumes) same)
    have sources := Option.some.inj (congrArg Volume.hostPath volumes)
    exact congrArg HostPath.path sources
  · intro same
    simp only [copyPod, same]

theorem copyPod_withoutEmpty_iff {settings : Settings} {image script : String}
    {policy : PullPolicy} :
    copyPod image policy settings.cacheRoot script =
        copyPod image policy settings.withoutEmpty.cacheRoot script ↔ settings.cacheRoot ≠ "" := by
  rw [copyPod_inj_iff]
  constructor
  · intro same empty
    simp only [Settings.withoutEmpty, empty, ↓reduceIte] at same
    exact Folder.path_empty_ne image same
  · intro filled
    simp only [Settings.withoutEmpty, filled, ↓reduceIte]

theorem variant_withoutEmpty_iff (strategy : Strategy) (image : String) (policy : PullPolicy)
    (settings : Settings) :
    variant strategy image policy settings = variant strategy image policy settings.withoutEmpty ↔
      settings.FilledFor strategy := by
  cases strategy with
  | wholeImage | directories =>
    refine copyPod_withoutEmpty_iff.trans ⟨fun filled => ⟨nofun, fun _ => filled⟩, ?_⟩
    exact fun filled => filled.root nofun
  | plainPull =>
    refine pullPod_inj_iff.trans ⟨fun same => ⟨fun _ empty => ?_, fun copy => absurd rfl copy⟩,
      fun filled => ?_⟩
    · simp [Settings.withoutEmpty, empty] at same
    · simp only [Settings.withoutEmpty, filled.helper rfl, ↓reduceIte]

end Placement

theorem Removal.variant_withoutEmpty_iff (command : RemovalCommand) (settings : Settings) :
    variant command settings = variant command settings.withoutEmpty ↔ settings.criClientImage ≠ "" := by
  constructor
  · intro same empty
    have containers := List.singleton_inj.mp (congrArg (·.containers) same)
    have clients := congrArg Container.image containers
    simp [Settings.withoutEmpty, empty] at clients
  · intro filled
    simp only [variant, Settings.withoutEmpty, filled, ↓reduceIte]

/-- The same inputs give the same result for two variants if these are the same, or else only if an
input is missing. -/
theorem Assignment.map_job_withoutEmpty_iff {cache : Option ImageCache} {node : Node}
    {settings : Settings} {variant other : Pod} (bare : variant.BodyOnly)
    (otherBare : other.BodyOnly) :
    (ofInputs cache node).value.map (fun assignment => assignment.job settings variant) =
        (ofInputs cache node).value.map (fun assignment =>
          assignment.job settings.withoutEmpty other) ↔
      SomeMissing cache node ∨ variant = other := by
  simp only [job_withoutEmpty]
  rw [← exists_firstMissing_iff, ← exists_congr fun problem => ofInputs_error_iff]
  cases (ofInputs cache node).value with
  | error refusal =>
    refine ⟨fun _ => .inl ⟨refusal.problem, rfl⟩, fun _ => rfl⟩
  | ok assignment =>
    constructor
    · intro same
      have body : variant.toPodBody = other.toPodBody :=
        congrArg (·.pod.toPodBody) (Except.ok.inj same)
      exact .inr (by rw [bare, otherBare, body])
    · rintro (⟨problem, refused⟩ | same)
      · cases refused
      · rw [same]

/-- With each empty text taken for one that is not given, the settings leave the same events. A
placement comes to the same result exactly if an input is missing or the text that its strategy uses
as it stands is not empty, and a removal exactly if an input is missing or the client's image is not
empty. -/
theorem empty_text_counts_as_unset_iff (settings : Settings) :
    (∀ placement : Placement,
      (placement.job settings).events = (placement.job settings.withoutEmpty).events ∧
      ((placement.job settings).value = (placement.job settings.withoutEmpty).value ↔
        SomeMissing placement.cache placement.node ∨
          settings.FilledFor (Strategy.choose placement.image placement.copyAll))) ∧
    (∀ removal : Removal,
      (removal.job settings).events = (removal.job settings.withoutEmpty).events ∧
      ((removal.job settings).value = (removal.job settings.withoutEmpty).value ↔
        SomeMissing removal.cache removal.node ∨ settings.criClientImage ≠ "")) := by
  refine ⟨fun placement => ⟨?_, ?_⟩, fun removal => ⟨?_, ?_⟩⟩
  · rw [Placement.events_job, Placement.events_job]
  · rw [Placement.value_job, Placement.value_job,
      Assignment.map_job_withoutEmpty_iff (Placement.bodyOnly_variant ..)
        (Placement.bodyOnly_variant ..),
      Placement.variant_withoutEmpty_iff]
  · rw [Removal.events_job, Removal.events_job, Settings.socketPath_withoutEmpty]
  · rw [Removal.value_job, Removal.value_job,
      Assignment.map_job_withoutEmpty_iff (Removal.bodyOnly_variant ..)
        (Removal.bodyOnly_variant ..),
      Settings.socketPath_withoutEmpty, Removal.variant_withoutEmpty_iff]

/-- An empty image of the helper stays empty in a job, and so do an empty image of the client and an
empty root. -/
theorem empty_helper_is_not_unset :
    let settings : Settings := { busyboxImage := "", criClientImage := "", cacheRoot := "" }
    let cache : ImageCache := .ofOwner "edge" "ops" "7d0e"
    let node : Node := .ofHost "edge-7"
    (Placement.job ⟨some cache, "nginx:1.27.2", node, false, some .ifNotPresent⟩ settings).value ≠
        (Placement.job ⟨some cache, "nginx:1.27.2", node, false, some .ifNotPresent⟩
          settings.withoutEmpty).value ∧
      (Placement.job ⟨some cache, "nginx:1.27.2", node, true, some .ifNotPresent⟩ settings).value ≠
        (Placement.job ⟨some cache, "nginx:1.27.2", node, true, some .ifNotPresent⟩
          settings.withoutEmpty).value ∧
      (Removal.job ⟨some cache, "nginx:1.27.2", node, "docker://27.3.1"⟩ settings).value ≠
        (Removal.job ⟨some cache, "nginx:1.27.2", node, "docker://27.3.1"⟩
          settings.withoutEmpty).value := by
  intro settings cache node
  refine ⟨fun same => ?_, fun same => ?_, fun same => ?_⟩
  · have helpers := congrArg
      (·.toOption.map fun job => job.pod.initContainers.map (·.image)) same
    exact absurd helpers (by decide)
  · have volumes := congrArg (·.toOption.map fun job => job.pod.volumes) same
    exact absurd volumes (by decide)
  · have clients := congrArg (·.toOption.map fun job => job.pod.containers.map (·.image)) same
    exact absurd clients (by decide)

end ImageJobs
