import ImageJobs.Proofs.PolicyAgreement
import ImageJobs.Proofs.RemovalSocket

/-! The log beside the result. Every line that a job or a decision leaves in the log can be told
from what came of it: the container, the node and the mounts of the job that was built, or the
answer that was given. -/

namespace ImageJobs

/-- A line of the log, in the form in which events are written. -/
def logLine (level message : String) (fields : List (String × Json)) : Json :=
  .object [("level", .string level), ("message", .string message), ("fields", .object fields)]

/-- The lines of the log on the way to the value. -/
def Logged.lines (logged : Logged α) : List Json :=
  logged.events.map Event.toJson

namespace PodBody

/-- The body has the marks of the variant that the log names so: the script of a full copy, the
script of the copy of the two directories, or the helper of a plain pull. -/
inductive Shows (body : PodBody) : String → Prop where
  | fullCopy {container : Container} (one : body.containers = [container])
      (noHelper : body.initContainers = [])
      (script : container.args = ["-c", "mkdir -p /cache && tar -cf - -C / --exclude=./proc " ++
        "--exclude=./sys --exclude=./dev --exclude=./cache . | tar -xf - -C /cache"]) :
      body.Shows "FullCache"
  | directoryCopy {container : Container} (one : body.containers = [container])
      (noHelper : body.initContainers = [])
      (script : container.args = ["-c", "mkdir -p /cache && tar -cf - -C / opt/conda/bin/ " ++
        "opt/conda/lib/ | tar -xf - -C /cache"]) :
      body.Shows "DirectoryScopedCache([\"/opt/conda/bin/\", \"/opt/conda/lib/\"])"
  | plainPull {helper : Container} (helped : body.initContainers = [helper])
      (name : helper.name = "busybox") :
      body.Shows "CommonPull"

/-- A body has the marks of one variant. -/
theorem Shows.unique {body : PodBody} {variant other : String} (shown : body.Shows variant)
    (shownOther : body.Shows other) : variant = other := by
  cases shown with
  | fullCopy one noHelper script =>
    cases shownOther with
    | fullCopy => rfl
    | directoryCopy otherOne _ otherScript =>
      obtain rfl := List.singleton_inj.mp (one.symm.trans otherOne)
      exact absurd (script.symm.trans otherScript) (by simp)
    | plainPull helped => exact absurd (noHelper.symm.trans helped) (by simp)
  | directoryCopy one noHelper script =>
    cases shownOther with
    | fullCopy otherOne _ otherScript =>
      obtain rfl := List.singleton_inj.mp (one.symm.trans otherOne)
      exact absurd (script.symm.trans otherScript) (by simp)
    | directoryCopy => rfl
    | plainPull helped => exact absurd (noHelper.symm.trans helped) (by simp)
  | plainPull helped =>
    cases shownOther with
    | fullCopy _ noHelper => exact absurd (noHelper.symm.trans helped) (by simp)
    | directoryCopy _ noHelper => exact absurd (noHelper.symm.trans helped) (by simp)
    | plainPull => rfl

end PodBody

namespace Placement

theorem wholeScript_eq :
    wholeScript = "mkdir -p /cache && tar -cf - -C / --exclude=./proc " ++
      "--exclude=./sys --exclude=./dev --exclude=./cache . | tar -xf - -C /cache" := by
  decide +kernel

theorem directoryScript_directoryPaths :
    directoryScript Strategy.directoryPaths =
      "mkdir -p /cache && tar -cf - -C / opt/conda/bin/ opt/conda/lib/ | tar -xf - -C /cache" := by
  decide +kernel

theorem describe_directoryPaths :
    (Strategy.directories Strategy.directoryPaths).describe =
      "DirectoryScopedCache([\"/opt/conda/bin/\", \"/opt/conda/lib/\"])" := by
  have binaries : Text.quote "/opt/conda/bin/".toList =
      '"' :: "/opt/conda/bin/".toList ++ ['"'] :=
    Text.quote_of_printable (by decide +kernel)
  have libraries : Text.quote "/opt/conda/lib/".toList =
      '"' :: "/opt/conda/lib/".toList ++ ['"'] :=
    Text.quote_of_printable (by decide +kernel)
  have described (paths : List String) : (Strategy.directories paths).describe =
      "DirectoryScopedCache([" ++
        ", ".intercalate (paths.map fun path => String.ofList (Text.quote path.toList)) ++
          "])" :=
    rfl
  -- The paths are quoted by the lemma, since the tables of the characters are long.
  rw [described, Strategy.directoryPaths, List.map_cons, List.map_cons, List.map_nil, binaries,
    libraries]
  decide +kernel

/-- The strategy that is chosen is described by the name of the variant that its body shows. -/
theorem shows_variant (image : String) (copyAll : Bool) (policy : PullPolicy)
    (settings : Settings) :
    (variant (Strategy.choose image copyAll) image policy settings).Shows
      (Strategy.choose image copyAll).describe := by
  unfold Strategy.choose
  split
  · exact .fullCopy rfl rfl (congrArg (["-c", ·]) wholeScript_eq)
  split
  · rw [describe_directoryPaths]
    exact .directoryCopy rfl rfl (congrArg (["-c", ·]) directoryScript_directoryPaths)
  · exact .plainPull rfl rfl

end Placement

/-- The line that every job leaves that has no cache to belong to. -/
def cacheMissingLine : Json :=
  logLine "ERROR" "ImageCache is missing, no job will be built" []

/-- A node's job leaves its mark in the selector of the pod. -/
def Job.RunsOn (job : Job) (hostname : String) : Prop :=
  job.pod.nodeSelector.map (·.entries) = some [("kubernetes.io/hostname", hostname)]

theorem Job.RunsOn.unique {job : Job} {hostname other : String} (placed : job.RunsOn hostname)
    (placedOther : job.RunsOn other) : hostname = other := by
  have entries := Option.some.inj (placed.symm.trans placedOther)
  exact congrArg Prod.snd (List.singleton_inj.mp entries)

namespace Placement

/-- What is said before the plan of a placement: nothing, if its policy was recognized. -/
def warnings (placement : Placement) : List Json :=
  match placement.policy with
  | some _ => []
  | none =>
    [logLine "WARN" "Unrecognized image pull policy, using IfNotPresent"
      [("image", .string placement.image)]]

/-- The lines that belong to what came of a placement. Of a job that was built they say what its
container runs, with which policy, on which node, and which variant its body shows. -/
inductive Told (placement : Placement) : Except Refusal Job → List Json → Prop where
  | cacheMissing (missing : placement.cache = none) :
      placement.Told (.error refusal) [cacheMissingLine]
  | refused (given : placement.cache ≠ none) : placement.Told (.error refusal) []
  | built {job : Job} {container : Container} {hostname variant : String}
      (one : job.pod.containers = [container]) (placed : job.RunsOn hostname)
      (shown : ∀ name, job.pod.toPodBody.Shows name ↔ name = variant) :
      placement.Told (.ok job) (placement.warnings ++
        [logLine "DEBUG" "Building image pull job"
          [("image", .string container.image), ("node", .string hostname),
            ("variant", .string variant), ("policy", .string container.pullPolicy.name)]])

/-- The result leaves no choice of the lines. -/
theorem Told.unique {placement : Placement} {result : Except Refusal Job} {lines others : List Json}
    (told : placement.Told result lines) (toldOther : placement.Told result others) :
    lines = others := by
  cases told with
  | cacheMissing missing =>
    cases toldOther with
    | cacheMissing => rfl
    | refused given => exact absurd missing given
  | refused given =>
    cases toldOther with
    | cacheMissing missing => exact absurd missing given
    | refused => rfl
  | built one placed shown =>
    cases toldOther with
    | built otherOne otherPlaced otherShown =>
      obtain rfl := List.singleton_inj.mp (one.symm.trans otherOne)
      obtain rfl := placed.unique otherPlaced
      obtain rfl := (otherShown _).mp ((shown _).mpr rfl)
      rfl

end Placement

namespace Removal

/-- What is said before the plan of a removal: nothing, if the node's engine was recognized. -/
def warnings (removal : Removal) (hostname : String) : Engine → List Json
  | .unknown =>
    [logLine "WARN" "Unrecognized container runtime, deleting via the docker socket"
      [("runtime_version", .string removal.engineVersion), ("node", .string hostname)]]
  | .docker | .containerd | .crio => []

/-- The lines that belong to what came of a removal. Of a job that was built they say which image is
removed, on which node, of which engine, and through which socket, that is the one which the volume
takes from the host and the container has mounted. -/
inductive Told (removal : Removal) : Except Refusal Job → List Json → Prop where
  | cacheMissing (missing : removal.cache = none) :
      removal.Told (.error refusal) [cacheMissingLine]
  | refused (given : removal.cache ≠ none) : removal.Told (.error refusal) []
  | built {job : Job} {container : Container} {hostname volume socket : String} {engine : Engine}
      (mentioned : engine.MentionedFirst removal.engineVersion)
      (one : job.pod.containers = [container]) (placed : job.RunsOn hostname)
      (mounted : container.mounts = [⟨volume, socket⟩])
      (source : job.pod.volumes = [{ name := volume, hostPath := some ⟨socket, .socket⟩ }]) :
      removal.Told (.ok job) (removal.warnings hostname engine ++
        [logLine "DEBUG" "Building image delete job"
          [("image", .string removal.image), ("node", .string hostname),
            ("runtime", .string engine.name), ("socket", .string socket)]])

/-- The result leaves no choice of the lines. -/
theorem Told.unique {removal : Removal} {result : Except Refusal Job} {lines others : List Json}
    (told : removal.Told result lines) (toldOther : removal.Told result others) :
    lines = others := by
  cases told with
  | cacheMissing missing =>
    cases toldOther with
    | cacheMissing => rfl
    | refused given => exact absurd missing given
  | refused given =>
    cases toldOther with
    | cacheMissing missing => exact absurd missing given
    | refused => rfl
  | built mentioned one placed mounted source =>
    cases toldOther with
    | built otherMentioned otherOne otherPlaced otherMounted otherSource =>
      obtain rfl := List.singleton_inj.mp (one.symm.trans otherOne)
      obtain rfl := placed.unique otherPlaced
      obtain rfl := mentioned.ofVersion_eq.symm.trans otherMentioned.ofVersion_eq
      have mount := List.singleton_inj.mp (mounted.symm.trans otherMounted)
      obtain rfl := congrArg VolumeMount.path mount
      rfl

end Removal

/-- The lines that belong to a decision on a pull, which is never an error. Only where the node was
looked at is there one, and the pull is needed if it says that the image is not present. -/
inductive NeedTold (policy : Option PullPolicy) (image : String) :
    Except Problem Bool → List Json → Prop where
  | looked (presence : policy = some .ifNotPresent)
      (pinned : ReferenceKind.ofImage image = .pinned) :
      NeedTold policy image (.ok needed)
        [logLine "DEBUG" "Checked node for resident image"
          [("image", .string image), ("present", .bool !needed)]]
  | decided (without : policy ≠ some .ifNotPresent ∨ ReferenceKind.ofImage image ≠ .pinned) :
      NeedTold policy image (.ok true) []

theorem NeedTold.unique {policy : Option PullPolicy} {image : String}
    {result : Except Problem Bool} {lines others : List Json}
    (told : NeedTold policy image result lines)
    (toldOther : NeedTold policy image result others) : lines = others := by
  cases told with
  | looked presence pinned =>
    cases toldOther with
    | looked => rfl
    | decided without => exact absurd presence (without.resolve_right (not_not.mpr pinned))
  | decided without =>
    cases toldOther with
    | looked presence pinned => exact absurd presence (without.resolve_right (not_not.mpr pinned))
    | decided => rfl

theorem Assignment.runsOn_job (assignment : Assignment) (settings : Settings) (variant : Pod) :
    (assignment.job settings variant).RunsOn assignment.hostname :=
  rfl

theorem Placement.lines_ofRequest (placement : Placement) :
    (PullPolicy.ofRequest placement.policy placement.image).lines = placement.warnings := by
  unfold warnings
  cases placement.policy <;> rfl

theorem Placement.told_job (placement : Placement) (settings : Settings) :
    placement.Told (placement.job settings).value (placement.job settings).lines := by
  rw [Logged.lines, value_job, events_job]
  cases cache : placement.cache with
  | none => exact .cacheMissing cache
  | some owner =>
    simp only [Assignment.value_ofInputs_some, Assignment.events_ofInputs_some, List.nil_append]
    cases Assignment.ofCache owner placement.node with
    | error refusal => exact .refused (by simp [cache])
    | ok assignment =>
      obtain ⟨policy, decided⟩ :
          ∃ policy, (PullPolicy.ofRequest placement.policy placement.image).value = policy :=
        ⟨_, rfl⟩
      obtain ⟨container, one, run, pulled⟩ := containers_variant
        (Strategy.choose placement.image placement.copyAll) placement.image policy settings
      have shown := shows_variant placement.image placement.copyAll policy settings
      have warned := placement.lines_ofRequest
      rw [Logged.lines] at warned
      simp only [decided, List.map_append, warned]
      have told : placement.Told (.ok (assignment.job settings
          (variant (Strategy.choose placement.image placement.copyAll) placement.image policy
            settings))) _ :=
        .built one (assignment.runsOn_job settings _)
          fun name => ⟨fun other => other.unique shown, fun same => same ▸ shown⟩
      rw [run, pulled] at told
      exact told

theorem Removal.lines_ofEngine (removal : Removal) (hostname : String) (engine : Engine) :
    (if engine = .unknown then [Event.engineUnrecognized removal.engineVersion hostname]
      else []).map Event.toJson = removal.warnings hostname engine := by
  cases engine <;> rfl

theorem Removal.told_job (removal : Removal) (settings : Settings) :
    removal.Told (removal.job settings).value (removal.job settings).lines := by
  rw [Logged.lines, value_job, events_job]
  cases cache : removal.cache with
  | none => exact .cacheMissing cache
  | some owner =>
    simp only [Assignment.value_ofInputs_some, Assignment.events_ofInputs_some, List.nil_append]
    cases Assignment.ofCache owner removal.node with
    | error refusal => exact .refused (by simp [cache])
    | ok assignment =>
      have mentioned := Engine.mentionedFirst_ofVersion removal.engineVersion
      obtain ⟨engine, found⟩ : ∃ engine, Engine.ofVersion removal.engineVersion = engine :=
        ⟨_, rfl⟩
      rw [found] at mentioned
      simp only [found, List.map_append, removal.lines_ofEngine]
      have told : removal.Told (.ok (assignment.job settings
          (variant (engine.removalCommand removal.image settings.socketPath) settings))) _ :=
        .built mentioned rfl (assignment.runsOn_job settings _) rfl rfl
      exact told

theorem needTold_pullNeeded (policy : Option PullPolicy) (image : String) (node : Node) :
    NeedTold policy image (pullNeeded policy image node).value
      (pullNeeded policy image node).lines := by
  unfold pullNeeded
  split
  · rename_i other
    exact .decided (.inl other)
  split
  · rename_i changing
    exact .decided (.inr fun pinned => by
      simp [ReferenceKind.ofImage_eq_pinned_iff.mp pinned] at changing)
  · rename_i presence fixed
    have pinned := ReferenceKind.ofImage_eq_pinned_iff.mpr (Bool.not_eq_true _ ▸ fixed)
    have told (present : Bool) : NeedTold policy image (.ok !present) _ :=
      .looked (not_not.mp presence) pinned
    simp only [Bool.not_not] at told
    rw [Node.shows_eq_ok]
    exact told _

/-- Whatever is asked for, the log holds the lines that belong to the result and no others, for a
job that brings an image, for a job that removes one and for a decision on a pull. -/
theorem log_tells_the_result :
    (∀ (placement : Placement) (settings : Settings) (lines : List Json),
      placement.Told (placement.job settings).value lines ↔
        lines = (placement.job settings).lines) ∧
    (∀ (removal : Removal) (settings : Settings) (lines : List Json),
      removal.Told (removal.job settings).value lines ↔ lines = (removal.job settings).lines) ∧
    ∀ (policy : Option PullPolicy) (image : String) (node : Node) (lines : List Json),
      NeedTold policy image (pullNeeded policy image node).value lines ↔
        lines = (pullNeeded policy image node).lines := by
  refine ⟨fun placement settings lines => ?_, fun removal settings lines => ?_,
    fun policy image node lines => ?_⟩
  · have told := placement.told_job settings
    exact ⟨fun other => other.unique told, fun same => same ▸ told⟩
  · have told := removal.told_job settings
    exact ⟨fun other => other.unique told, fun same => same ▸ told⟩
  · have told := needTold_pullNeeded policy image node
    exact ⟨fun other => other.unique told, fun same => same ▸ told⟩

end ImageJobs
