import ImageJobs.Proofs.JobSkeleton
import ImageJobs.Proofs.UnheldImages

namespace ImageJobs

/-- The registry is asked whatever a node holds: the request demands it, or it asks for presence of
a reference that can name other content later. -/
inductive AsksRegistry : Option PullPolicy → String → Prop where
  | demanded : AsksRegistry (some .always) image
  | changing (mutable : isMutableImage image = true) : AsksRegistry (some .ifNotPresent) image

theorem not_asksRegistry_none (image : String) : ¬AsksRegistry none image := by
  intro asks
  cases asks

theorem PullPolicy.value_ofRequest_eq_always_iff {requested : Option PullPolicy} {image : String} :
    (ofRequest requested image).value = .always ↔ AsksRegistry requested image := by
  constructor
  · intro raised
    rcases requested with _ | _ | _
    · cases raised
    · exact .demanded
    · by_cases changing : isMutableImage image = true
      · exact .changing changing
      · simp [ofRequest, raisedFor, changing] at raised
  · intro asks
    cases asks with
    | demanded => rfl
    | changing mutable => simp [ofRequest, raisedFor, mutable]

theorem PullPolicy.name_eq_always_iff {policy : PullPolicy} :
    policy.name = "Always" ↔ policy = .always := by
  cases policy <;> decide

theorem PullPolicy.name_eq_ifNotPresent_iff {policy : PullPolicy} :
    policy.name = "IfNotPresent" ↔ policy ≠ .always := by
  cases policy <;> decide

/-- Whatever the strategy, one container runs the image, and it has the policy that is given. -/
theorem Placement.containers_variant (strategy : Strategy) (image : String) (policy : PullPolicy)
    (settings : Settings) :
    ∃ container : Container, (variant strategy image policy settings).containers = [container] ∧
      container.image = image ∧ container.pullPolicy = policy := by
  cases strategy with
  | wholeImage => exact ⟨_, rfl, rfl, rfl⟩
  | directories paths => exact ⟨_, rfl, rfl, rfl⟩
  | plainPull => exact ⟨_, rfl, rfl, rfl⟩

/-- A recognized request needs the pull on all nodes where the registry is asked, and else only
where no node can mention the reference. -/
theorem pullNeeded_everywhere_iff {policy : PullPolicy} {image : String} :
    (∀ node, (pullNeeded (some policy) image node).value = .ok true) ↔
      AsksRegistry (some policy) image ∨ ∀ node : Node, ¬image.toList <:+: node.residentText := by
  -- Of the three reasons for a pull only the search in the node's text looks at the node.
  have onNode (node : Node) : (pullNeeded (some policy) image node).value = .ok true ↔
      AsksRegistry (some policy) image ∨ ¬image.toList <:+: node.residentText := by
    rw [pullNeeded_eq_true_iff, ReferenceKind.ofImage_eq_pinned_iff]
    cases policy with
    | always => simp [AsksRegistry.demanded]
    | ifNotPresent =>
      by_cases changing : isMutableImage image = true
      · simp [changing, AsksRegistry.changing changing]
      · have presence : ¬AsksRegistry (some .ifNotPresent) image := by
          intro asks
          cases asks with
          | changing mutable => exact changing mutable
        simp [changing, presence]
  simp only [onNode, forall_or_left]

theorem pullNeeded_none (image : String) (node : Node) :
    (pullNeeded none image node).value = .ok true :=
  rfl

/-- The one container of a pull runs the image that is asked for, and pulls it each time exactly
where the registry is asked. There every node needs the pull; and a recognized request for a
reference without an escaped character needs it on every node only there. A policy that was not
recognized counts as need on every node but never makes the container ask. -/
theorem container_policy_agrees_with_need :
    (∀ (placement : Placement) (settings : Settings) (job : Job),
      (placement.job settings).value = .ok job →
        ∃ container : Container, job.pod.containers = [container] ∧
          container.image = placement.image ∧
          (container.pullPolicy.name = "Always" ↔
            AsksRegistry placement.policy placement.image) ∧
          (container.pullPolicy.name = "IfNotPresent" ↔
            ¬AsksRegistry placement.policy placement.image)) ∧
    (∀ (policy : PullPolicy) (image : String),
      (AsksRegistry (some policy) image →
        ∀ node, (pullNeeded (some policy) image node).value = .ok true) ∧
      ((∀ char ∈ image.toList, ¬Json.IsEscaped char) →
        (∀ node, (pullNeeded (some policy) image node).value = .ok true) →
          AsksRegistry (some policy) image)) ∧
    (∀ image : String, ¬AsksRegistry none image ∧
      ∀ node, (pullNeeded none image node).value = .ok true) := by
  refine ⟨fun placement settings job built => ?_, fun policy image => ⟨?_, ?_⟩, fun image => ?_⟩
  · obtain ⟨container, one, run, pulled⟩ := Placement.containers_variant
      (Strategy.choose placement.image placement.copyAll) placement.image
      (PullPolicy.ofRequest placement.policy placement.image).value settings
    refine ⟨container, ?_, run, ?_, ?_⟩
    · rw [Placement.body_of_job built, one]
    · rw [PullPolicy.name_eq_always_iff, pulled, PullPolicy.value_ofRequest_eq_always_iff]
    · rw [PullPolicy.name_eq_ifNotPresent_iff, pulled, ne_eq,
        PullPolicy.value_ofRequest_eq_always_iff]
  · intro asks
    exact pullNeeded_everywhere_iff.mpr (.inl asks)
  · intro plain needed
    rcases pullNeeded_everywhere_iff.mp needed with asks | unmentioned
    · exact asks
    · exact absurd (Node.infix_residentText_ofName plain) (unmentioned (Node.ofName image))
  · exact ⟨not_asksRegistry_none image, pullNeeded_none image⟩

/-- An untagged image is asked for each time also where only its directories are copied, and every
node needs it; a pinned one is not needed on every node. -/
theorem untagged_image_asked_and_needed :
    let placement : Placement :=
      { cache := some (.ofOwner "edge" "ops" "7d0e"), image := "ghcr.io/modelzai/llm"
        node := .ofHost "edge-7", policy := some .ifNotPresent }
    (∃ job container, (placement.job .default).value = .ok job ∧
      job.pod.containers = [container] ∧ container.image = "ghcr.io/modelzai/llm" ∧
      container.pullPolicy.name = "Always") ∧
    (∀ node, (pullNeeded (some .ifNotPresent) "ghcr.io/modelzai/llm" node).value = .ok true) ∧
    (∀ char ∈ "nginx:1.27.2".toList, ¬Json.IsEscaped char) ∧
    ¬∀ node, (pullNeeded (some .ifNotPresent) "nginx:1.27.2" node).value = .ok true := by
  intro placement
  have asks : AsksRegistry (some .ifNotPresent) "ghcr.io/modelzai/llm" := .changing (by decide)
  have plain : ∀ char ∈ "nginx:1.27.2".toList, ¬Json.IsEscaped char := by
    simp [Json.IsEscaped]
  obtain ⟨job, built⟩ := placement.exists_job rfl rfl .default
  refine ⟨?_, (container_policy_agrees_with_need.2.1 _ _).1 asks, plain, fun needed => ?_⟩
  · obtain ⟨container, one, run, always, -⟩ :=
      container_policy_agrees_with_need.1 placement .default job built
    exact ⟨job, container, built, one, run, always.mpr asks⟩
  · have asksPinned := (container_policy_agrees_with_need.2.1 _ _).2 plain needed
    cases asksPinned with
    | changing mutable => exact absurd mutable (by decide)

end ImageJobs
