import ImageJobs.Proofs.JobSkeleton

namespace ImageJobs

/-- The caches have the same name, place and identity, and the same secrets for their pods. -/
structure ImageCache.SameOwner (cache other : ImageCache) : Prop where
  name : cache.metadata.name = other.metadata.name
  namespaceName : cache.metadata.namespaceName = other.metadata.namespaceName
  uid : cache.metadata.uid = other.metadata.uid
  secrets : cache.spec.imagePullSecrets = other.spec.imagePullSecrets

/-- The nodes have the same value for the label of the host, or both none. -/
def Node.SameHost (node peer : Node) : Prop :=
  node.metadata.label? "kubernetes.io/hostname" = peer.metadata.label? "kubernetes.io/hostname"

namespace Settings

/-- What every job takes from the settings is the same. -/
structure AgreeOnFrame (settings changed : Settings) : Prop where
  serviceAccountName : settings.serviceAccountName = changed.serviceAccountName
  priorityClassName : settings.priorityClassName = changed.priorityClassName

/-- What a job with the strategy takes from the settings is the same: the helper's image for a plain
pull, and the root of the host folders for a copy. -/
structure AgreeOnPlacement (strategy : Strategy) (settings changed : Settings) : Prop
    extends AgreeOnFrame settings changed where
  helper : strategy = .plainPull → settings.busyboxImage = changed.busyboxImage
  root : strategy ≠ .plainPull → settings.cacheRoot = changed.cacheRoot

/-- What a removal takes from the settings is the same. -/
structure AgreeOnRemoval (settings changed : Settings) : Prop
    extends AgreeOnFrame settings changed where
  client : settings.criClientImage = changed.criClientImage
  socket : settings.criSocketPath = changed.criSocketPath
  network : settings.deleteJobHostNetwork = changed.deleteJobHostNetwork

end Settings

theorem Placement.variant_congr {strategy : Strategy} {settings changed : Settings}
    (agree : settings.AgreeOnPlacement strategy changed) (image : String) (policy : PullPolicy) :
    variant strategy image policy settings = variant strategy image policy changed := by
  cases strategy with
  | wholeImage => simp only [variant, agree.root (by decide)]
  | directories paths => simp only [variant, agree.root Strategy.noConfusion]
  | plainPull => simp only [variant, agree.helper rfl]

theorem Removal.variant_congr {settings changed : Settings}
    (agree : settings.AgreeOnRemoval changed) (engine : Engine) (image : String) :
    variant (engine.removalCommand image settings.socketPath) settings =
      variant (engine.removalCommand image changed.socketPath) changed := by
  simp only [variant, Settings.socketPath, agree.client, agree.socket, agree.network]

/-- The skeleton shows all that it takes from the cache and the node. -/
theorem skeleton_inj {cacheName namespaceName uid hostname : String} {secrets : List String}
    {otherName otherNamespace otherUid otherHost : String} {otherSecrets : List String}
    {settings changed : Settings} {body otherBody : PodBody}
    (same : skeleton cacheName namespaceName uid hostname secrets settings body =
      skeleton otherName otherNamespace otherUid otherHost otherSecrets changed otherBody) :
    cacheName = otherName ∧ namespaceName = otherNamespace ∧ uid = otherUid ∧
      hostname = otherHost ∧ secrets = otherSecrets := by
  have owners := congrArg Job.owners same
  have placed := congrArg (·.metadata.namespaceName) same
  have selected := congrArg (·.pod.nodeSelector.map (·.entries)) same
  have opened := congrArg (·.pod.imagePullSecrets) same
  simp only [skeleton, List.cons.injEq, Owner.mk.injEq, Option.some.injEq, Option.map_some,
    Prod.mk.injEq, true_and, and_true] at owners placed selected opened
  refine ⟨owners.1, placed, owners.2, selected, ?_⟩
  by_cases none : secrets = [] <;> by_cases otherNone : otherSecrets = [] <;>
    simp_all

theorem ImageCache.SameOwner.of_names {cache other : ImageCache}
    (name : cache.metadata.name = other.metadata.name)
    (namespaceName : cache.metadata.namespaceName = other.metadata.namespaceName)
    (uid : cache.metadata.uid = other.metadata.uid)
    (secrets : cache.spec.imagePullSecrets.map (·.name) =
      other.spec.imagePullSecrets.map (·.name)) : cache.SameOwner other where
  name := name
  namespaceName := namespaceName
  uid := uid
  secrets := by
    have injective : ∀ secret peer : PullSecret, secret.name = peer.name → secret = peer := by
      rintro ⟨_⟩ ⟨_⟩ same
      exact congrArg PullSecret.mk same
    exact (List.map_inj_right injective).mp secrets

/-- A framed job is framed again exactly for an owner and a node that agree with its own. -/
theorem Job.Framed.again_iff {job : Job} {cache other : ImageCache} {node peer : Node}
    {settings changed : Settings} (framed : job.Framed (some cache) node settings)
    (agree : settings.AgreeOnFrame changed) :
    job.Framed (some other) peer changed ↔ cache.SameOwner other ∧ node.SameHost peer := by
  obtain ⟨_, cacheName, namespaceName, uid, hostname, ⟨rfl⟩, named, placed, identified, hosted,
    shape⟩ := framed
  constructor
  · rintro ⟨_, otherName, otherNamespace, otherUid, otherHost, ⟨rfl⟩, otherNamed, otherPlaced,
      otherIdentified, otherHosted, otherShape⟩
    -- Both shapes are of the one job, which gives back what each of them is made from.
    obtain ⟨rfl, rfl, rfl, rfl, secrets⟩ := skeleton_inj (shape.symm.trans otherShape)
    exact ⟨.of_names (named.trans otherNamed.symm) (placed.trans otherPlaced.symm)
      (identified.trans otherIdentified.symm) secrets, hosted.trans otherHosted.symm⟩
  · rintro ⟨owner, host⟩
    refine ⟨other, cacheName, namespaceName, uid, hostname, rfl, owner.name ▸ named,
      owner.namespaceName ▸ placed, owner.uid ▸ identified, host ▸ hosted, ?_⟩
    rw [← owner.secrets]
    simpa only [skeleton, agree.serviceAccountName, agree.priorityClassName] using shape

/-- A job that was built for one cache and node is built again for other ones exactly if these agree
with the first in the name, namespace, identity and pull secrets of the cache and in the label of the
node's host, whatever else they hold. The settings may change meanwhile in all that the job does not
take from them: a plain pull takes the helper's image, a copy the root of the host folders, a removal
the image, the socket and the network of the client, and each the account and the priority. -/
theorem job_built_again_iff {cache other : ImageCache} {node peer : Node}
    {settings changed : Settings} {image : String} {job : Job} :
    (∀ copyAll policy,
      settings.AgreeOnPlacement (Strategy.choose image copyAll) changed →
      (Placement.job ⟨some cache, image, node, copyAll, policy⟩ settings).value = .ok job →
        ((Placement.job ⟨some other, image, peer, copyAll, policy⟩ changed).value = .ok job ↔
          cache.SameOwner other ∧ node.SameHost peer)) ∧
    (∀ engineVersion,
      settings.AgreeOnRemoval changed →
      (Removal.job ⟨some cache, image, node, engineVersion⟩ settings).value = .ok job →
        ((Removal.job ⟨some other, image, peer, engineVersion⟩ changed).value = .ok job ↔
          cache.SameOwner other ∧ node.SameHost peer)) := by
  constructor
  · intro copyAll policy agree built
    rw [Placement.value_job, Assignment.map_job_eq_ok_iff (Placement.bodyOnly_variant ..)]
      at built ⊢
    obtain ⟨framed, body⟩ := built
    rw [framed.again_iff agree.toAgreeOnFrame, body, Placement.variant_congr agree]
    exact and_iff_left rfl
  · intro engineVersion agree built
    rw [Removal.value_job, Assignment.map_job_eq_ok_iff (Removal.bodyOnly_variant ..)]
      at built ⊢
    obtain ⟨framed, body⟩ := built
    rw [framed.again_iff agree.toAgreeOnFrame, body, Removal.variant_congr agree]
    exact and_iff_left rfl

/-- Other images to keep, other images on the node and settings for other kinds of job change
nothing. -/
theorem job_built_again_for_other_residents :
    let cache : ImageCache := .ofOwner "edge" "ops" "7d0e"
    let other : ImageCache :=
      { cache with
        metadata := { cache.metadata with generateName := some "cache-" }
        spec := { cacheSpec := [{ images := ["redis:7.4"] }] } }
    let node : Node := .ofHost "edge-7"
    let peer : Node :=
      { metadata := { node.metadata with name := some "worker" }
        status := some { images := some [{ names := some ["redis:7.4"] }] } }
    let forRemovals : Settings :=
      { criClientImage := "client:2", criSocketPath := some "/run/cri.sock"
        deleteJobHostNetwork := true, cacheRoot := "/mnt" }
    let forPlacements : Settings := { busyboxImage := "busybox:1", cacheRoot := "/mnt" }
    (∃ job, (Placement.job ⟨some cache, "redis:7.4", node, false, none⟩ {}).value = .ok job ∧
      (Placement.job ⟨some other, "redis:7.4", peer, false, none⟩ forRemovals).value = .ok job) ∧
    (∃ job, (Removal.job ⟨some cache, "redis:7.4", node, "docker://27.3.1"⟩ {}).value = .ok job ∧
      (Removal.job ⟨some other, "redis:7.4", peer, "docker://27.3.1"⟩ forPlacements).value =
        .ok job) := by
  intro cache other node peer forRemovals forPlacements
  have owner : cache.SameOwner other := ⟨rfl, rfl, rfl, rfl⟩
  have host : node.SameHost peer := rfl
  have plain : Strategy.choose "redis:7.4" false = .plainPull := by decide
  have placed : Settings.AgreeOnPlacement (Strategy.choose "redis:7.4" false) {} forRemovals :=
    ⟨⟨rfl, rfl⟩, fun _ => rfl, fun copy => absurd plain copy⟩
  have removed : Settings.AgreeOnRemoval {} forPlacements := ⟨⟨rfl, rfl⟩, rfl, rfl, rfl⟩
  obtain ⟨placedJob, placedBuilt⟩ :=
    Placement.exists_job ⟨some cache, "redis:7.4", node, false, none⟩ rfl rfl {}
  obtain ⟨removedJob, removedBuilt⟩ :=
    Removal.exists_job ⟨some cache, "redis:7.4", node, "docker://27.3.1"⟩ rfl rfl {}
  exact ⟨⟨placedJob, placedBuilt,
      (job_built_again_iff.1 false none placed placedBuilt).mpr ⟨owner, host⟩⟩,
    ⟨removedJob, removedBuilt,
      (job_built_again_iff.2 "docker://27.3.1" removed removedBuilt).mpr ⟨owner, host⟩⟩⟩

end ImageJobs
