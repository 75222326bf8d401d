import ImageJobs.Synthesis.Placement
import ImageJobs.Synthesis.Removal

namespace ImageJobs

/-- None of the node's labels names its host. -/
def Node.LacksHostname (node : Node) : Prop :=
  ∀ labels, node.metadata.labels = some labels →
    "kubernetes.io/hostname" ∉ labels.entries.map Prod.fst

theorem TextMap.get?_eq_none_iff {map : TextMap} {key : String} :
    map.get? key = none ↔ key ∉ map.entries.map Prod.fst := by
  simp only [get?, List.lookup_eq_none_iff, List.mem_map, not_exists, not_and, bne_iff_ne]
  constructor
  · intro absent entry member same
    exact absent entry member same.symm
  · intro absent entry member same
    exact absent entry member same.symm

theorem Node.hostname?_eq_none_iff {node : Node} : node.hostname? = none ↔ node.LacksHostname := by
  simp only [hostname?, Meta.label?, Option.bind_eq_none_iff, TextMap.get?_eq_none_iff,
    LacksHostname, hostnameLabel]

/-- The name under which a problem shows an object. -/
def Meta.shownName (data : Meta) : String :=
  match data.name, data.generateName with
  | some name, _ => name
  | none, some start => start
  | none, none => ""

theorem Meta.anyName_eq_shownName (data : Meta) : data.anyName = data.shownName := by
  unfold anyName shownName
  cases data.name <;> cases data.generateName <;> rfl

/-- The first missing input of the cache and the node, and the problem that reports it. -/
inductive FirstMissing : Option ImageCache → Node → Problem → Prop where
  | cache : FirstMissing none node (.invalidInput "unknown" "image cache is missing" none)
  | name (unnamed : cache.metadata.name = none) :
      FirstMissing (some cache) node
        (.invalidInput "unknown" "ImageCache has no name" (some "metadata.name"))
  | namespaceName (named : cache.metadata.name = some name)
      (unplaced : cache.metadata.namespaceName = none) :
      FirstMissing (some cache) node
        (.invalidInput name "ImageCache must be namespaced" (some "metadata.namespace"))
  | uid (named : cache.metadata.name = some name)
      (placed : cache.metadata.namespaceName = some namespaceName)
      (unidentified : cache.metadata.uid = none) :
      FirstMissing (some cache) node
        (.invalidInput name "ImageCache has no UID" (some "metadata.uid"))
  | hostname (named : cache.metadata.name = some name)
      (placed : cache.metadata.namespaceName = some namespaceName)
      (identified : cache.metadata.uid = some uid) (nowhere : node.LacksHostname) :
      FirstMissing (some cache) node
        (.invalidInput name
          ("node " ++ node.metadata.shownName ++ " has no kubernetes.io/hostname label")
          (some "metadata.labels"))

/-- The name of the cache, its namespace, its identifier or the node's host is not known. -/
def SomeMissing (cache : Option ImageCache) (node : Node) : Prop :=
  cache = none ∨
    (∃ owner, cache = some owner ∧ (owner.metadata.name = none ∨
      owner.metadata.namespaceName = none ∨ owner.metadata.uid = none)) ∨
    node.LacksHostname

theorem exists_firstMissing_iff {cache : Option ImageCache} {node : Node} :
    (∃ problem, FirstMissing cache node problem) ↔ SomeMissing cache node := by
  constructor
  · rintro ⟨problem, missing⟩
    cases missing with
    | cache => exact .inl rfl
    | name unnamed => exact .inr (.inl ⟨_, rfl, .inl unnamed⟩)
    | namespaceName named unplaced => exact .inr (.inl ⟨_, rfl, .inr (.inl unplaced)⟩)
    | uid named placed unidentified => exact .inr (.inl ⟨_, rfl, .inr (.inr unidentified)⟩)
    | hostname named placed identified nowhere => exact .inr (.inr nowhere)
  · intro missing
    cases cache with
    | none => exact ⟨_, .cache⟩
    | some owner =>
      cases named : owner.metadata.name with
      | none => exact ⟨_, .name named⟩
      | some name =>
        cases placed : owner.metadata.namespaceName with
        | none => exact ⟨_, .namespaceName named placed⟩
        | some namespaceName =>
          cases identified : owner.metadata.uid with
          | none => exact ⟨_, .uid named placed identified⟩
          | some uid =>
            refine ⟨_, .hostname named placed identified ?_⟩
            simpa [SomeMissing, named, placed, identified] using missing

private theorem problem_nodeWithoutHostname (cache node : String) :
    (Refusal.nodeWithoutHostname cache node).problem =
      .invalidInput cache ("node " ++ node ++ " has no kubernetes.io/hostname label")
        (some "metadata.labels") := by
  have label : " has no " ++ (Node.hostnameLabel ++ " label") =
      " has no kubernetes.io/hostname label" := by decide
  simp only [Refusal.problem, Problem.ofField, String.append_assoc, label]

/-- The inputs of a job are turned down with the problem of the first one that is missing. -/
theorem Assignment.ofInputs_error_iff {cache : Option ImageCache} {node : Node}
    {problem : Problem} :
    (ofInputs cache node).value.mapError Refusal.problem = .error problem ↔
      FirstMissing cache node problem := by
  constructor
  · intro refused
    cases cache with
    | none =>
      cases refused
      exact .cache
    | some owner =>
      simp only [value_ofInputs_some, ofCache] at refused
      cases named : owner.metadata.name with
      | none =>
        simp only [named] at refused
        cases refused
        exact .name named
      | some name =>
        cases placed : owner.metadata.namespaceName with
        | none =>
          simp only [named, placed] at refused
          cases refused
          exact .namespaceName named placed
        | some namespaceName =>
          cases identified : owner.metadata.uid with
          | none =>
            simp only [named, placed, identified] at refused
            cases refused
            exact .uid named placed identified
          | some uid =>
            cases nowhere : node.hostname? with
            | none =>
              simp only [named, placed, identified, nowhere] at refused
              cases refused
              rw [problem_nodeWithoutHostname, Meta.anyName_eq_shownName]
              exact .hostname named placed identified (Node.hostname?_eq_none_iff.mp nowhere)
            | some hostname =>
              simp only [named, placed, identified, nowhere] at refused
              cases refused
  · intro missing
    cases missing with
    | cache => rfl
    | name unnamed => simp only [value_ofInputs_some, ofCache, unnamed]; rfl
    | namespaceName named unplaced => simp only [value_ofInputs_some, ofCache, named, unplaced]; rfl
    | uid named placed unidentified =>
      simp only [value_ofInputs_some, ofCache, named, placed, unidentified]
      rfl
    | hostname named placed identified nowhere =>
      rw [← Meta.anyName_eq_shownName, ← problem_nodeWithoutHostname]
      simp only [value_ofInputs_some, ofCache, named, placed, identified,
        Node.hostname?_eq_none_iff.mpr nowhere]
      rfl

private theorem mapError_map_eq_error_iff {result : Except Refusal Assignment}
    (finish : Assignment → Job) {problem : Problem} :
    (result.map finish).mapError Refusal.problem = .error problem ↔
      result.mapError Refusal.problem = .error problem := by
  constructor
  · intro refused
    cases result with
    | error refusal =>
      cases refused
      rfl
    | ok assignment => cases refused
  · intro refused
    cases result with
    | error refusal =>
      cases refused
      rfl
    | ok assignment => cases refused

/-- Of the same cache and node, a job that brings an image and one that removes an image are turned
down together and with the same problem, whatever the images, the policy, the version of the engine
and the settings: that of the first missing input. They are turned down only if one is missing. -/
theorem both_jobs_refused_alike (cache : Option ImageCache) (node : Node)
    (placedImage removedImage engineVersion : String) (copyAll : Bool)
    (policy : Option PullPolicy) (placedUnder removedUnder : Settings) :
    let placement : Placement := { cache, image := placedImage, node, copyAll, policy }
    let removal : Removal := { cache, image := removedImage, node, engineVersion }
    (∀ problem, (placement.job placedUnder).value.mapError Refusal.problem = .error problem ↔
      (removal.job removedUnder).value.mapError Refusal.problem = .error problem) ∧
    (∀ problem, (placement.job placedUnder).value.mapError Refusal.problem = .error problem ↔
      FirstMissing cache node problem) ∧
    ((∃ problem, (placement.job placedUnder).value.mapError Refusal.problem = .error problem) ↔
      SomeMissing cache node) := by
  intro placement removal
  have placed (problem : Problem) :
      (placement.job placedUnder).value.mapError Refusal.problem = .error problem ↔
        FirstMissing cache node problem := by
    rw [Placement.value_job, mapError_map_eq_error_iff, Assignment.ofInputs_error_iff]
  have removed (problem : Problem) :
      (removal.job removedUnder).value.mapError Refusal.problem = .error problem ↔
        FirstMissing cache node problem := by
    rw [Removal.value_job, mapError_map_eq_error_iff, Assignment.ofInputs_error_iff]
  refine ⟨fun problem => (placed problem).trans (removed problem).symm, placed, ?_⟩
  rw [← exists_firstMissing_iff]
  exact exists_congr placed

end ImageJobs
