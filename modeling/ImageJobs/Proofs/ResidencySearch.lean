import ImageJobs.Image.PullDecision
import ImageJobs.Proofs.WrittenTokens

namespace ImageJobs

theorem ReferenceKind.ofImage_eq_pinned_iff {image : String} :
    ofImage image = .pinned ↔ isMutableImage image = false := by
  unfold isMutableImage
  cases ofImage image <;> simp [isMutable]

/-- A pinned reference has a tag or a digest, and so a mark of one. -/
theorem ReferenceKind.anchor_of_pinned {image : String} (pinned : ofImage image = .pinned) :
    ':' ∈ image.toList ∨ '@' ∈ image.toList := by
  unfold ofImage at pinned
  by_cases colon : Text.mentions image ":" = true
  · exact .inl ((Text.mentions_iff.mp colon).subset (by simp))
  · by_cases digest : Text.mentions image "@sha" = true
    · exact .inr ((Text.mentions_iff.mp digest).subset (by simp))
    · split at pinned <;> simp_all

namespace Node

/-- The names that the node's resident images go by. -/
def residentNames (node : Node) : List String :=
  node.residents.flatMap fun image => image.names.getD []

/-- A resident name is one that stands in the node's status. -/
theorem mem_residentNames_iff {node : Node} {name : String} :
    name ∈ node.residentNames ↔
      ∃ status images image names, node.status = some status ∧ status.images = some images ∧
        image ∈ images ∧ image.names = some names ∧ name ∈ names := by
  unfold residentNames residents
  rw [List.mem_flatMap]
  constructor
  · rintro ⟨image, resident, named⟩
    cases reported : node.status.bind (·.images) with
    | none => simp [reported] at resident
    | some images =>
      obtain ⟨status, known, listed⟩ := Option.bind_eq_some_iff.mp reported
      cases names : image.names with
      | none => simp [names] at named
      | some texts =>
        rw [reported, Option.getD_some] at resident
        rw [names, Option.getD_some] at named
        exact ⟨status, images, image, texts, known, listed, resident, names, named⟩
  · rintro ⟨status, images, image, names, known, listed, resident, given, named⟩
    exact ⟨image, by simpa [known, listed] using resident, by simpa [given] using named⟩

/-- The written list of the node's resident images. -/
def residentText (node : Node) : List Char :=
  node.residentList.write

theorem obstacle?_residentList (node : Node) : node.residentList.obstacle? = none := by
  have each (image : ResidentImage) : image.toJson.obstacle? = none := by
    obtain ⟨names, sizeBytes⟩ := image
    cases names <;> cases sizeBytes <;>
      simp [ResidentImage.toJson, Json.optional, Json.texts, Json.int]
  simp [residentList, each]

/-- The list can be written whatever the names on the node are. -/
theorem shows_eq_ok (node : Node) (image : String) :
    node.shows image = .ok (Text.occurs image.toList node.residentText) := by
  rw [shows, Json.tryWrite_eq_ok node.obstacle?_residentList]
  rfl

end Node

/-- Whether a pull is needed is always answered. -/
theorem exists_pullNeeded_eq_ok (policy : Option PullPolicy) (image : String) (node : Node) :
    ∃ needed, (pullNeeded policy image node).value = .ok needed := by
  unfold pullNeeded
  split
  · exact ⟨true, rfl⟩
  split
  · exact ⟨true, rfl⟩
  · rw [Node.shows_eq_ok]
    exact ⟨_, rfl⟩

/-- A pull is spared for a pinned reference that the text of the resident images mentions, where
presence is enough, and for nothing else. -/
theorem pullNeeded_eq_false_iff {policy : Option PullPolicy} {image : String} {node : Node} :
    (pullNeeded policy image node).value = .ok false ↔
      policy = some .ifNotPresent ∧ ReferenceKind.ofImage image = .pinned ∧
        image.toList <:+: node.residentText := by
  rw [ReferenceKind.ofImage_eq_pinned_iff]
  unfold pullNeeded
  by_cases presence : policy = some .ifNotPresent
  · by_cases changing : isMutableImage image = true
    · simp [presence, changing]
    · simp [presence, changing, Node.shows_eq_ok, Text.occurs_iff]
  · simp [presence]

theorem pullNeeded_eq_true_iff {policy : Option PullPolicy} {image : String} {node : Node} :
    (pullNeeded policy image node).value = .ok true ↔
      ¬(policy = some .ifNotPresent ∧ ReferenceKind.ofImage image = .pinned ∧
        image.toList <:+: node.residentText) := by
  rw [← pullNeeded_eq_false_iff]
  obtain ⟨needed, answered⟩ := exists_pullNeeded_eq_ok policy image node
  cases needed <;> simp [answered]

theorem ResidentImage.mem_quotedTexts_iff {image : ResidentImage} {quoted : String} :
    quoted ∈ image.toJson.quotedTexts ↔
      quoted = "names" ∧ image.names.isSome ∨ quoted ∈ image.names.getD [] ∨
        quoted = "sizeBytes" ∧ image.sizeBytes.isSome := by
  obtain ⟨names, sizeBytes⟩ := image
  cases names <;> cases sizeBytes <;>
    simp [toJson, Json.optional, Json.texts, Json.int, List.flatMap_map]

private theorem found_in_resident_iff {run : List Char} (anchored : Json.Anchored run)
    (image : ResidentImage) :
    (∃ quoted ∈ image.toJson.quotedTexts, run <:+: Json.escape quoted.toList) ↔
      ∃ name ∈ image.names.getD [], run <:+: Json.escape name.toList := by
  constructor
  · rintro ⟨quoted, member, found⟩
    rcases ResidentImage.mem_quotedTexts_iff.mp member with ⟨rfl, _⟩ | named | ⟨rfl, _⟩
    · exact absurd found (anchored.not_infix (by decide))
    · exact ⟨quoted, named, found⟩
    · exact absurd found (anchored.not_infix (by decide))
  · rintro ⟨name, named, found⟩
    exact ⟨name, ResidentImage.mem_quotedTexts_iff.mpr (.inr (.inl named)), found⟩

/-- An anchored run is found in the text of the resident images exactly when a name shows it. -/
theorem Node.infix_residentText_iff {run : List Char} (anchored : Json.Anchored run) (node : Node) :
    run <:+: node.residentText ↔
      ∃ name ∈ node.residentNames, run <:+: Json.escape name.toList := by
  rw [residentText, residentList, Json.infix_write_iff anchored]
  simp only [Json.quotedTexts_array, List.flatMap_map, residentNames, List.mem_flatMap]
  constructor
  · rintro ⟨quoted, ⟨image, resident, member⟩, found⟩
    obtain ⟨name, named, shown⟩ := (found_in_resident_iff anchored image).mp ⟨quoted, member, found⟩
    exact ⟨name, ⟨image, resident, named⟩, shown⟩
  · rintro ⟨name, ⟨image, resident, named⟩, shown⟩
    obtain ⟨quoted, member, found⟩ :=
      (found_in_resident_iff anchored image).mpr ⟨name, named, shown⟩
    exact ⟨quoted, ⟨image, resident, member⟩, found⟩

theorem anchored_of_pinned {image : String}
    (initial : image.toList.head?.any Char.isAlphanum = true) (unquoted : '"' ∉ image.toList)
    (pinned : ReferenceKind.ofImage image = .pinned) : Json.Anchored image.toList where
  start := fun colon => by simp [colon] at initial
  unquoted := unquoted
  anchor := ReferenceKind.anchor_of_pinned pinned

/-- For a pinned reference that starts with a letter or a digit and holds no quote, a pull is spared
exactly when the reference stands inside a name of a resident image as that name is written. Where
the names hold nothing that is escaped, it stands inside the name itself. There is always an
answer. -/
theorem pull_spared_iff_name_shows {image : String} {node : Node}
    (initial : image.toList.head?.any Char.isAlphanum = true) (unquoted : '"' ∉ image.toList)
    (pinned : ReferenceKind.ofImage image = .pinned) :
    ((pullNeeded (some .ifNotPresent) image node).value = .ok false ↔
      ∃ name ∈ node.residentNames, image.toList <:+: Json.escape name.toList) ∧
    ((∀ name ∈ node.residentNames, ∀ char ∈ name.toList, ¬Json.IsEscaped char) →
      ((pullNeeded (some .ifNotPresent) image node).value = .ok false ↔
        ∃ name ∈ node.residentNames, image.toList <:+: name.toList)) ∧
    ∃ needed, (pullNeeded (some .ifNotPresent) image node).value = .ok needed := by
  have anchored := anchored_of_pinned initial unquoted pinned
  have spared : (pullNeeded (some .ifNotPresent) image node).value = .ok false ↔
      ∃ name ∈ node.residentNames, image.toList <:+: Json.escape name.toList := by
    rw [pullNeeded_eq_false_iff, ← Node.infix_residentText_iff anchored]
    simp [pinned]
  refine ⟨spared, fun plain => spared.trans ?_, exists_pullNeeded_eq_ok ..⟩
  have same : ∀ name ∈ node.residentNames, Json.escape name.toList = name.toList :=
    fun name named => Json.escape_eq_self (plain name named)
  constructor
  · rintro ⟨name, named, shown⟩
    exact ⟨name, named, same name named ▸ shown⟩
  · rintro ⟨name, named, shown⟩
    exact ⟨name, named, (same name named).symm ▸ shown⟩

/-- The reference stands inside the first name of the first image, and again behind an image without
names and a name that is escaped. -/
theorem pull_spared_for_shown_name :
    let shown : ResidentImage := { names := some ["docker.io/library/nginx:1.27.2"] }
    let escaped : ResidentImage := { names := some ["a\"b", "docker.io/library/nginx:1.27.2"] }
    let first : Node := { status := some { images := some [shown, { sizeBytes := some 67000000 }] } }
    let last : Node := { status := some { images := some [{ sizeBytes := some 67000000 }, escaped] } }
    "nginx:1.27.2".toList.head?.any Char.isAlphanum = true ∧ '"' ∉ "nginx:1.27.2".toList ∧
      ReferenceKind.ofImage "nginx:1.27.2" = .pinned ∧
      (pullNeeded (some .ifNotPresent) "nginx:1.27.2" first).value = .ok false ∧
      (pullNeeded (some .ifNotPresent) "nginx:1.27.2" last).value = .ok false := by
  intro shown escaped first last
  have initial : "nginx:1.27.2".toList.head?.any Char.isAlphanum = true := by decide
  have unquoted : '"' ∉ "nginx:1.27.2".toList := by decide
  have pinned : ReferenceKind.ofImage "nginx:1.27.2" = .pinned := by decide
  have named : "docker.io/library/nginx:1.27.2" ∈ first.residentNames :=
    Node.mem_residentNames_iff.mpr
      ⟨_, _, shown, _, rfl, rfl, List.mem_cons_self, rfl, List.mem_cons_self⟩
  have namedLast : "docker.io/library/nginx:1.27.2" ∈ last.residentNames :=
    Node.mem_residentNames_iff.mpr ⟨_, _, escaped, _, rfl, rfl,
      List.mem_cons_of_mem _ List.mem_cons_self, rfl, List.mem_cons_of_mem _ List.mem_cons_self⟩
  have inside : "nginx:1.27.2".toList <:+:
      Json.escape "docker.io/library/nginx:1.27.2".toList := by decide +kernel
  exact ⟨initial, unquoted, pinned,
    (pull_spared_iff_name_shows initial unquoted pinned).1.mpr ⟨_, named, inside⟩,
    (pull_spared_iff_name_shows initial unquoted pinned).1.mpr ⟨_, namedLast, inside⟩⟩

end ImageJobs
