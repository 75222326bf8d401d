import ImageJobs.Proofs.RecordMembers
import ImageJobs.Synthesis.Placement
import ImageJobs.Synthesis.Removal

/-! What all image jobs share. Whatever a job does, all of it but the body of its pod follows from
the cache that owns it, the host of its node and the settings. -/

namespace ImageJobs

/-- The labels that a job and its pods bear. -/
def skeletonLabels (cacheName : String) : TextMap where
  entries :=
    [("app", "kubefledged"), ("controller", "kubefledged-controller"), ("imagecache", cacheName),
      ("kubefledged", "kubefledged-image-manager")]
  ascending := by
    have keys : ["app", "controller", "imagecache", "kubefledged"].Pairwise (· < ·) := by decide
    exact keys.of_map Prod.fst fun _ _ less => less

/-- The one shape of all jobs, with a body put in. -/
def skeleton (cacheName namespaceName uid hostname : String) (secrets : List String)
    (settings : Settings) (body : PodBody) : Job where
  metadata :=
    { name := none, generateName := some (cacheName ++ "-"), namespaceName := some namespaceName
      uid := none, labels := some (skeletonLabels cacheName), annotations := none }
  owners :=
    [{ apiVersion := "kubefledged.io/v1alpha3", kind := "ImageCache", name := cacheName, uid
       controller := true, blockOwnerDeletion := true }]
  backoffLimit := 0
  activeDeadlineSeconds := 3600
  podMetadata :=
    { name := none, generateName := none, namespaceName := some namespaceName, uid := none
      labels := some (skeletonLabels cacheName), annotations := none }
  pod :=
    { toPodBody := body
      nodeSelector := some ⟨[("kubernetes.io/hostname", hostname)], List.pairwise_singleton ..⟩
      restartPolicy := some .never
      tolerations := some [{ key := none, operator := .exists }]
      imagePullSecrets := if secrets = [] then none else some secrets
      serviceAccountName := settings.serviceAccountName.filter (· ≠ "")
      priorityClassName := settings.priorityClassName.filter (· ≠ "") }

/-- But for its body the job is the skeleton of the cache, the host of the node and the settings. -/
def Job.Framed (job : Job) (cache : Option ImageCache) (node : Node) (settings : Settings) : Prop :=
  ∃ owner cacheName namespaceName uid hostname,
    cache = some owner ∧ owner.metadata.name = some cacheName ∧
      owner.metadata.namespaceName = some namespaceName ∧ owner.metadata.uid = some uid ∧
      node.metadata.label? "kubernetes.io/hostname" = some hostname ∧
      job = skeleton cacheName namespaceName uid hostname
        (owner.spec.imagePullSecrets.map (·.name)) settings job.pod.toPodBody

theorem Assignment.labels_eq_skeletonLabels (cacheName : String) :
    labels cacheName = skeletonLabels cacheName := by
  have aboveApp : (¬"kubefledged" < "app" ∧ "kubefledged" ≠ "app") ∧
      (¬"imagecache" < "app" ∧ "imagecache" ≠ "app") ∧
      ¬"controller" < "app" ∧ "controller" ≠ "app" := by decide
  have cacheBelow : "imagecache" < "kubefledged" := by decide
  have controllerBelow : "controller" < "imagecache" := by decide
  simp only [labels, skeletonLabels, TextMap.ofList, List.foldl, TextMap.insert,
    TextMap.insertEntry, TextMap.empty, appLabelValue, componentLabel, imageManager,
    imageCacheLabel, controllerAgent, aboveApp, cacheBelow, controllerBelow, ↓reduceIte]

theorem Settings.nonEmpty_eq_filter (value : Option String) :
    nonEmpty value = value.filter (· ≠ "") := by
  unfold nonEmpty
  congr 1
  funext text
  by_cases empty : text = "" <;> simp [empty]

theorem ImageCache.Spec.podSecrets_eq (spec : Spec) :
    spec.podSecrets =
      if spec.imagePullSecrets.map (·.name) = [] then none
      else some (spec.imagePullSecrets.map (·.name)) := by
  simp [podSecrets]

/-- Of the pod nothing is set but its body. -/
def Pod.BodyOnly (pod : Pod) : Prop :=
  pod = { toPodBody := pod.toPodBody }

/-- No strategy sets anything that the frame of the job sets, or that it takes from the settings. -/
theorem Placement.bodyOnly_variant (strategy : Strategy) (image : String) (policy : PullPolicy)
    (settings : Settings) : (variant strategy image policy settings).BodyOnly := by
  cases strategy with
  | wholeImage => rfl
  | directories paths => rfl
  | plainPull => rfl

theorem Removal.bodyOnly_variant (command : RemovalCommand) (settings : Settings) :
    (variant command settings).BodyOnly :=
  rfl

/-- The frame that a job is put in is the skeleton, if the pod has kept nothing of its own there. -/
theorem Assignment.job_eq_skeleton {cache : ImageCache} {node : Node} {assignment : Assignment}
    (accepted : ofCache cache node = .ok assignment) (settings : Settings) {variant : Pod}
    (bare : variant.BodyOnly) :
    assignment.job settings variant =
      skeleton assignment.cacheName assignment.namespaceName assignment.uid assignment.hostname
        (cache.spec.imagePullSecrets.map (·.name)) settings variant.toPodBody := by
  obtain ⟨-, -, -, -, secrets⟩ := ofCache_eq_ok_iff.mp accepted
  rw [ImageCache.Spec.podSecrets_eq] at secrets
  rw [bare]
  simp only [job, pod, applyOverrides, skeleton, ← secrets, labels_eq_skeletonLabels,
    Settings.serviceAccount, Settings.priorityClass, Settings.nonEmpty_eq_filter, Option.or_none]
  rfl

/-- Putting a body in gives the jobs that the inputs frame around that body, and no others. -/
theorem Assignment.map_job_eq_ok_iff {cache : Option ImageCache} {node : Node}
    {settings : Settings} {variant : Pod} (bare : variant.BodyOnly) {job : Job} :
    (ofInputs cache node).value.map (fun assignment => assignment.job settings variant) =
        .ok job ↔
      job.Framed cache node settings ∧ job.pod.toPodBody = variant.toPodBody := by
  constructor
  · intro built
    cases cache with
    | none => cases built
    | some owner =>
      rw [value_ofInputs_some] at built
      cases accepted : ofCache owner node with
      | error refusal => simp [accepted, Except.map] at built
      | ok assignment =>
        have same : assignment.job settings variant = job := by
          simpa [accepted, Except.map] using built
        subst job
        obtain ⟨named, placed, identified, hosted, -⟩ := ofCache_eq_ok_iff.mp accepted
        refine ⟨⟨owner, _, _, _, _, rfl, named, placed, identified, hosted, ?_⟩, rfl⟩
        exact job_eq_skeleton accepted settings bare
  · rintro ⟨⟨owner, cacheName, namespaceName, uid, hostname, rfl, named, placed, identified,
      hosted, same⟩, body⟩
    have accepted : ofCache owner node =
        .ok ⟨cacheName, namespaceName, uid, hostname, owner.spec.podSecrets⟩ :=
      ofCache_eq_ok_iff.mpr ⟨named, placed, identified, hosted, rfl⟩
    rw [value_ofInputs_some, accepted, same, body]
    exact congrArg Except.ok (job_eq_skeleton accepted settings bare)

theorem Placement.body_of_job {placement : Placement} {settings : Settings} {job : Job}
    (built : (placement.job settings).value = .ok job) :
    job.pod.toPodBody =
      (variant (Strategy.choose placement.image placement.copyAll) placement.image
        (PullPolicy.ofRequest placement.policy placement.image).value settings).toPodBody := by
  rw [value_job] at built
  exact ((Assignment.map_job_eq_ok_iff (bodyOnly_variant ..)).mp built).2

theorem Removal.body_of_job {removal : Removal} {settings : Settings} {job : Job}
    (built : (removal.job settings).value = .ok job) :
    job.pod.toPodBody =
      (variant ((Engine.ofVersion removal.engineVersion).removalCommand removal.image
        settings.socketPath) settings).toPodBody := by
  rw [value_job] at built
  exact ((Assignment.map_job_eq_ok_iff (bodyOnly_variant ..)).mp built).2

theorem Json.lookup_nonEmptyList_of_ne {α : Type} {name other : String} (different : other ≠ name)
    (write : α → Json) (values : List α) : (nonEmptyList name write values).lookup other = none := by
  unfold nonEmptyList
  split
  · rfl
  · rw [lookup_cons_ne different, List.lookup_nil]

theorem Pod.member?_restartPolicy (pod : Pod) :
    pod.toJson.member? "restartPolicy" =
      pod.restartPolicy.map fun policy => .string policy.name := by
  simp [toJson, Json.member?, List.lookup_append, Json.lookup_optional,
    Json.lookup_nonEmptyList_of_ne, lookup_cons_ne]

theorem Pod.member?_tolerations (pod : Pod) :
    pod.toJson.member? "tolerations" =
      pod.tolerations.map fun tolerations => .array (tolerations.map Toleration.toJson) := by
  simp [toJson, Json.member?, List.lookup_append, Json.lookup_optional,
    Json.lookup_nonEmptyList_of_ne, lookup_cons_ne]

/-- What a written pod says of its restarts and its taints. -/
theorem Job.Framed.document {job : Job} {cache : Option ImageCache} {node : Node}
    {settings : Settings} (framed : job.Framed cache node settings) :
    job.pod.toJson.member? "restartPolicy" = some (.string "Never") ∧
      job.pod.toJson.member? "tolerations" =
        some (.array [.object [("operator", .string "Exists")]]) := by
  obtain ⟨owner, _, _, _, _, -, -, -, -, -, shape⟩ := framed
  rw [Pod.member?_restartPolicy, Pod.member?_tolerations, shape]
  exact ⟨rfl, rfl⟩

/-- A cache with what its jobs need of it, and nothing else. -/
def ImageCache.ofOwner (name namespaceName uid : String) : ImageCache where
  metadata := { name := some name, namespaceName := some namespaceName, uid := some uid }
  spec := {}

/-- A node of which only the host is known. -/
def Node.ofHost (hostname : String) : Node where
  metadata := { labels := some (.ofList [(hostnameLabel, hostname)]) }

theorem Node.hostname?_ofHost (hostname : String) : (ofHost hostname).hostname? = some hostname := by
  simp [hostname?, ofHost, Meta.label?, TextMap.ofList, TextMap.get?_insert]

theorem Assignment.ofCache_ofOwner (name namespaceName uid hostname : String) :
    ofCache (.ofOwner name namespaceName uid) (.ofHost hostname) =
      .ok ⟨name, namespaceName, uid, hostname, none⟩ :=
  ofCache_eq_ok_iff.mpr ⟨rfl, rfl, rfl, Node.hostname?_ofHost hostname, rfl⟩

section

variable {name namespaceName uid hostname : String}

theorem Placement.exists_job (placement : Placement)
    (owned : placement.cache = some (.ofOwner name namespaceName uid))
    (hosted : placement.node = .ofHost hostname) (settings : Settings) :
    ∃ job, (placement.job settings).value = .ok job := by
  rw [value_job, owned, hosted, Assignment.value_ofInputs_some, Assignment.ofCache_ofOwner]
  exact ⟨_, rfl⟩

theorem Removal.exists_job (removal : Removal)
    (owned : removal.cache = some (.ofOwner name namespaceName uid))
    (hosted : removal.node = .ofHost hostname) (settings : Settings) :
    ∃ job, (removal.job settings).value = .ok job := by
  rw [value_job, owned, hosted, Assignment.value_ofInputs_some, Assignment.ofCache_ofOwner]
  exact ⟨_, rfl⟩

end

end ImageJobs
