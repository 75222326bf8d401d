import ImageJobs.Proofs.HostFolder
import ImageJobs.Proofs.PolicyAgreement

namespace ImageJobs

namespace PodBody

/-- The body with another image for the containers that are not helpers. -/
def running (body : PodBody) (image : String) : PodBody :=
  { body with containers := body.containers.map fun container => { container with image } }

/-- The body with another path of the host for its volumes. -/
def keptAt (body : PodBody) (path : String) : PodBody :=
  { body with
    volumes := body.volumes.map fun volume =>
      { volume with hostPath := volume.hostPath.map fun source => { source with path } } }

/-- What the containers and their helpers are told to do. -/
def commands (body : PodBody) : List (List String × List String) :=
  (body.initContainers ++ body.containers).map fun container => (container.command, container.args)

@[simp] theorem commands_running (body : PodBody) (image : String) :
    (body.running image).commands = body.commands := by
  simp [commands, running, Function.comp_def]

@[simp] theorem commands_keptAt (body : PodBody) (path : String) :
    (body.keptAt path).commands = body.commands :=
  rfl

end PodBody

namespace Job

/-- The job with another body in its pod. -/
def withBody (job : Job) (body : PodBody) : Job :=
  { job with pod := { job.pod with toPodBody := body } }

/-- The frame of a job does not look at the body. -/
theorem Framed.withBody {job : Job} {cache : Option ImageCache} {node : Node}
    {settings : Settings} (framed : job.Framed cache node settings) (body : PodBody) :
    (job.withBody body).Framed cache node settings := by
  obtain ⟨owner, cacheName, namespaceName, uid, hostname, owned, named, placed, identified, hosted,
    shape⟩ := framed
  refine ⟨owner, cacheName, namespaceName, uid, hostname, owned, named, placed, identified, hosted,
    ?_⟩
  rw [shape]
  rfl

end Job

namespace Placement

variable {strategy : Strategy} {image other : String} {policy : PullPolicy} {settings : Settings}

/-- A copy of the other image is kept in the other one's folder. -/
theorem body_running_keptAt (copied : strategy ≠ .plainPull) :
    (variant strategy other policy settings).toPodBody =
      ((variant strategy image policy settings).running other).keptAt
        (Folder.path settings.cacheRoot other) := by
  cases strategy with
  | wholeImage => rfl
  | directories paths => rfl
  | plainPull => exact absurd rfl copied

theorem body_running (pulled : strategy = .plainPull) :
    (variant strategy other policy settings).toPodBody =
      (variant strategy image policy settings).running other := by
  rw [pulled]
  rfl

/-- One volume holds the files of a body, whatever the strategy. -/
theorem volumes_variant (strategy : Strategy) (image : String) (policy : PullPolicy)
    (settings : Settings) :
    ∃ volume, (variant strategy image policy settings).volumes = [volume] := by
  cases strategy with
  | wholeImage => exact ⟨_, rfl⟩
  | directories paths => exact ⟨_, rfl⟩
  | plainPull => exact ⟨_, rfl⟩

/-- The requests differ in nothing but an image text that is dealt with in the same way, and
perhaps in a requested policy that comes to the same for the container. -/
structure AgreeButImage (placement other : Placement) : Prop where
  cache : other.cache = placement.cache
  node : other.node = placement.node
  copyAll : other.copyAll = placement.copyAll
  strategy : Strategy.choose other.image other.copyAll =
    Strategy.choose placement.image placement.copyAll
  policy : (PullPolicy.ofRequest other.policy other.image).value =
    (PullPolicy.ofRequest placement.policy placement.image).value

end Placement

/-- The job for one image is the job for another that is dealt with in the same way, but for the
image that its one container runs and, where the image is copied, the folder on the host of its one
volume. That folder follows from the root of the folders and the name that the image text gives. No
command and no argument of a container or a helper is another. -/
theorem image_text_reaches_no_command {placement other : Placement} {settings : Settings}
    {job : Job} (agree : placement.AgreeButImage other)
    (built : (placement.job settings).value = .ok job) :
    ∃ container volume otherBody,
      job.pod.containers = [container] ∧ container.image = placement.image ∧
      job.pod.volumes = [volume] ∧
      (other.job settings).value = .ok (job.withBody otherBody) ∧
      otherBody.commands = job.pod.toPodBody.commands ∧
      (Strategy.choose placement.image placement.copyAll = .plainPull →
        otherBody = job.pod.toPodBody.running other.image) ∧
      (Strategy.choose placement.image placement.copyAll ≠ .plainPull →
        ∃ base, Folder.IsBase settings.cacheRoot base ∧
          volume.hostPath =
            some ⟨base ++ "/" ++ Folder.name placement.image, .directoryOrCreate⟩ ∧
          otherBody = (job.pod.toPodBody.running other.image).keptAt
            (base ++ "/" ++ Folder.name other.image)) := by
  have same := Placement.body_of_job built
  let strategy := Strategy.choose placement.image placement.copyAll
  let policy := (PullPolicy.ofRequest placement.policy placement.image).value
  let otherBody := (Placement.variant strategy other.image policy settings).toPodBody
  obtain ⟨container, one, runs, -⟩ :=
    Placement.containers_variant strategy placement.image policy settings
  obtain ⟨volume, holds⟩ := Placement.volumes_variant strategy placement.image policy settings
  have otherBuilt : (other.job settings).value = .ok (job.withBody otherBody) := by
    rw [Placement.value_job] at built ⊢
    rw [agree.cache, agree.node, agree.strategy, agree.policy]
    obtain ⟨framed, -⟩ :=
      (Assignment.map_job_eq_ok_iff (Placement.bodyOnly_variant ..)).mp built
    exact (Assignment.map_job_eq_ok_iff (Placement.bodyOnly_variant ..)).mpr
      ⟨framed.withBody otherBody, rfl⟩
  have pulled (plain : strategy = .plainPull) :
      otherBody = job.pod.toPodBody.running other.image := by
    rw [same]
    exact Placement.body_running plain
  have copied (copy : strategy ≠ .plainPull) :
      otherBody = (job.pod.toPodBody.running other.image).keptAt
        (Folder.path settings.cacheRoot other.image) := by
    rw [same]
    exact Placement.body_running_keptAt copy
  refine ⟨container, volume, otherBody, same ▸ one, runs, same ▸ holds, otherBuilt, ?_, pulled,
    fun copy => ⟨_, Folder.isBase_base settings.cacheRoot, ?_, copied copy⟩⟩
  · by_cases plain : strategy = .plainPull
    · rw [pulled plain, PodBody.commands_running]
    · rw [copied plain, PodBody.commands_keptAt, PodBody.commands_running]
  · have volumes := Placement.volumes_of_copy built copy
    rw [same, holds, List.singleton_inj] at volumes
    exact congrArg Volume.hostPath volumes

/-- A text that a shell would take for more than one word leaves a copy and a plain pull the
commands that they had. -/
theorem hostile_text_changes_no_command :
    let copy : Placement :=
      { cache := some (.ofOwner "edge" "ops" "7d0e"), image := "ghcr.io/modelzai/llm:v0.4.1"
        node := .ofHost "edge-7", policy := some .ifNotPresent }
    let hostileCopy : Placement := { copy with image := "modelzai:1 && reboot; $(id)" }
    let pull : Placement := { copy with image := "redis:7.4", policy := some .always }
    let hostilePull : Placement :=
      { copy with image := "redis:latest | sh", policy := some .ifNotPresent }
    (∃ job otherJob, (copy.job .default).value = .ok job ∧
      (hostileCopy.job .default).value = .ok otherJob ∧
      otherJob.pod.toPodBody.commands = job.pod.toPodBody.commands) ∧
    (∃ job otherJob, (pull.job .default).value = .ok job ∧
      (hostilePull.job .default).value = .ok otherJob ∧
      otherJob.pod.toPodBody = job.pod.toPodBody.running "redis:latest | sh") := by
  intro copy hostileCopy pull hostilePull
  have copies : copy.AgreeButImage hostileCopy := ⟨rfl, rfl, rfl, by decide, by decide⟩
  have pulls : pull.AgreeButImage hostilePull := ⟨rfl, rfl, rfl, by decide, by decide⟩
  obtain ⟨job, built⟩ := copy.exists_job rfl rfl .default
  obtain ⟨pullJob, pullBuilt⟩ := pull.exists_job rfl rfl .default
  obtain ⟨_, _, _, -, -, -, otherBuilt, commands, -⟩ := image_text_reaches_no_command copies built
  obtain ⟨_, _, _, -, -, -, hostileBuilt, -, running, -⟩ :=
    image_text_reaches_no_command pulls pullBuilt
  exact ⟨⟨job, _, built, otherBuilt, commands⟩,
    ⟨pullJob, _, pullBuilt, hostileBuilt, running (by decide)⟩⟩

end ImageJobs
