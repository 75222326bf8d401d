import ImageJobs.Proofs.ResidencySearch

/-! Whether the image of a spared pull is really resident. A name that only has the reference
somewhere in it spares the pull as well. So the promise that no needed pull is spared holds of an
image only where no pull of it is ever spared: from a node whose text mentions the image, another
one is made that mentions it too and has no name that ends with it. -/

namespace ImageJobs

open Occurrence

namespace Node

/-- The image is resident under the reference itself, or under one with a registry or a path in
front of it. -/
def Holds (node : Node) (image : String) : Prop :=
  ∃ name ∈ node.residentNames, name = image ∨ '/' :: image.toList <:+ name.toList

instance (node : Node) (image : String) : Decidable (node.Holds image) :=
  inferInstanceAs (Decidable
    (∃ name ∈ node.residentNames, name = image ∨ '/' :: image.toList <:+ name.toList))

theorem Holds.ends {node : Node} {image : String} (held : node.Holds image) :
    ∃ name ∈ node.residentNames, image.toList <:+ name.toList := by
  obtain ⟨name, named, same | qualified⟩ := held
  · exact ⟨name, named, by simp [same]⟩
  · exact ⟨name, named, (List.suffix_cons '/' _).trans qualified⟩

end Node

/-- The image with each of its names changed. -/
def ResidentImage.rename (change : String → String) (image : ResidentImage) : ResidentImage :=
  { image with names := image.names.map (·.map change) }

namespace Node

def rename (change : String → String) (node : Node) : Node :=
  { node with
    status := node.status.map fun status =>
      { status with images := status.images.map (·.map (ResidentImage.rename change)) } }

theorem residents_rename (change : String → String) (node : Node) :
    (node.rename change).residents = node.residents.map (ResidentImage.rename change) := by
  obtain ⟨_, status⟩ := node
  rcases status with none | ⟨none | images⟩ <;> simp [rename, residents]

theorem residentNames_rename (change : String → String) (node : Node) :
    (node.rename change).residentNames = node.residentNames.map change := by
  have each (image : ResidentImage) :
      (image.rename change).names.getD [] = (image.names.getD []).map change := by
    cases names : image.names <;> simp [ResidentImage.rename, names]
  simp [residentNames, residents_rename, List.flatMap_map, List.map_flatMap, each]

end Node

open Json in
theorem ResidentImage.tokens_rename (change : String → String) (image : ResidentImage) :
    (image.rename change).toJson.tokens = image.toJson.tokens.map (Token.rewrite change) := by
  have named (names : List String) : (texts (names.map change)).tokens =
      (texts names).tokens.map (Token.rewrite change) := by
    have each := itemTokens_rewrite (fun name => .string (change name)) .string change names
      (by simp [tokens, Token.rewrite])
    simpa [texts, tokens, Token.rewrite, Function.comp_def] using each
  obtain ⟨names, sizeBytes⟩ := image
  cases names <;> cases sizeBytes <;>
    simp [rename, toJson, Json.optional, tokens, memberTokens, Json.int, Token.rewrite, named]

namespace Node

open Json in
theorem infix_rename {run : List Char} {change : String → String} {node : Node}
    (replaced : ∀ name, Replaces run (writeText (change name)) (writeText name))
    (found : run <:+: node.residentText) : run <:+: (node.rename change).residentText := by
  have row : (node.rename change).residentList.tokens =
      node.residentList.tokens.map (Token.rewrite change) := by
    have each := itemTokens_rewrite (fun image => (image.rename change).toJson)
      ResidentImage.toJson change node.residents fun image _ => image.tokens_rename change
    simpa [residentList, residents_rename, tokens, Token.rewrite, Function.comp_def] using each
  rw [residentText, write_eq_spell] at found ⊢
  rw [row, List.flatMap_map]
  refine infix_flatMap (fun token _ => ?_) found
  cases token with
  | mark chars => exact .refl run chars
  | key name => exact .refl run _
  | text value => exact replaced value

end Node

/-- A character that the run does not start with. -/
def otherStart (run : List Char) : Char :=
  if run.head? = some 'x' then 'y' else 'x'

theorem head?_ne_otherStart (run : List Char) : run.head? ≠ some (otherStart run) := by
  unfold otherStart
  split <;> simp_all

/-- The end of the name, by one character too short for the run. -/
def nearEnd (run name : List Char) : List Char :=
  name.drop (name.length - (run.length - 1))

/-- A name too short to end with the run is kept. To any other an end is added that the run does
not have, but for its first character the same as before. -/
def stretch (run name : List Char) : List Char :=
  if name.length < run.length then name else name ++ otherStart run :: nearEnd run name

theorem not_suffix_stretch {run : List Char} (notEmpty : run ≠ []) (name : List Char) :
    ¬run <:+ stretch run name := by
  intro ends
  have positive := List.length_pos_iff.mpr notEmpty
  unfold stretch at ends
  split at ends
  · have bound := ends.length_le
    omega
  · rename_i long
    have added := List.suffix_append name (otherStart run :: nearEnd run name)
    have sameLength : run.length = (otherStart run :: nearEnd run name).length := by
      simp only [nearEnd, List.length_cons, List.length_drop]
      omega
    have same := (List.suffix_of_suffix_length_le ends added (by omega)).eq_of_length sameLength
    exact head?_ne_otherStart run (congrArg List.head? same)

open Json in
/-- The written name shows at its two ends what it showed before. -/
theorem replaces_stretch (run name : List Char) :
    Replaces run ('"' :: escape (stretch run name) ++ ['"']) ('"' :: escape name ++ ['"']) := by
  unfold stretch
  split
  · exact .refl run _
  · rename_i long
    have whole : escape name = escape (name.take (name.length - (run.length - 1))) ++
        escape (nearEnd run name) := by
      rw [← escape_append, nearEnd, List.take_append_drop]
    have opens : '"' :: escape name <+:
        '"' :: escape (name ++ otherStart run :: nearEnd run name) ++ ['"'] :=
      ⟨escape (otherStart run :: nearEnd run name) ++ ['"'], by simp [escape_append]⟩
    have closes : escape (nearEnd run name) ++ ['"'] <:+
        '"' :: escape (name ++ otherStart run :: nearEnd run name) ++ ['"'] :=
      ⟨'"' :: escape (name ++ [otherStart run]), by simp [escape]⟩
    have closed : escape (nearEnd run name) ++ ['"'] <:+ '"' :: escape name ++ ['"'] :=
      ⟨'"' :: escape (name.take (name.length - (run.length - 1))), by rw [whole]; simp⟩
    have openingLong : run.length ≤ ('"' :: escape name).length := by
      have bound := length_le_escape name
      simp only [List.length_cons]
      omega
    have closingLong : run.length ≤ (escape (nearEnd run name) ++ ['"']).length := by
      have bound := length_le_escape (nearEnd run name)
      simp only [nearEnd, List.length_drop] at bound
      simp only [nearEnd, List.length_append, List.length_singleton]
      omega
    exact .of_ends opens closes closed openingLong closingLong

namespace Node

/-- A node whose text mentions the image has another beside it whose text does so too, though none
of its names ends with the image. -/
theorem exists_unheld {node : Node} {image : String} (notEmpty : image.toList ≠ [])
    (found : image.toList <:+: node.residentText) :
    ∃ other : Node, image.toList <:+: other.residentText ∧ ¬other.Holds image := by
  let change (name : String) := String.ofList (stretch image.toList name.toList)
  refine ⟨node.rename change, infix_rename (fun name => ?_) found, fun held => ?_⟩
  · simpa [Json.writeText, change] using replaces_stretch image.toList name.toList
  · obtain ⟨name, named, ends⟩ := held.ends
    rw [residentNames_rename] at named
    obtain ⟨before, _, rfl⟩ := List.mem_map.mp named
    exact not_suffix_stretch notEmpty before.toList (by simpa [change] using ends)

/-- A node with a single image of a single name. -/
def ofName (name : String) : Node :=
  { status := some { images := some [{ names := some [name] }] } }

theorem infix_residentText_ofName {image : String}
    (plain : ∀ char ∈ image.toList, ¬Json.IsEscaped char) :
    image.toList <:+: (ofName image).residentText := by
  have field : Json.writeText "names" = "\"names\"".toList := by decide
  have quoted : Json.writeText image = '"' :: image.toList ++ ['"'] := by
    rw [Json.writeText, Json.escape_eq_self plain]
  have written : (ofName image).residentText =
      "[\x7b\"names\":[\"".toList ++ image.toList ++ "\"]\x7d]".toList := by
    simp [residentText, residentList, ofName, residents, ResidentImage.toJson, Json.optional,
      Json.texts, Json.write, Json.writeItems, Json.writeMembers, field, quoted]
  rw [written]
  exact List.infix_append ..

end Node

/-- On one node, a spared pull was not needed unless presence is enough for a pinned reference that
the text of the resident images mentions without any of them being the image. Over all nodes, an
image has only such spared pulls where it has no spared pulls at all: presence is never enough, or
the reference can change, or no node ever mentions it, which takes a character that is escaped. -/
theorem spares_only_held_iff (policy : Option PullPolicy) (image : String) :
    (∀ node : Node, ((pullNeeded policy image node).value = .ok false → node.Holds image) ↔
      policy ≠ some .ifNotPresent ∨ isMutableImage image = true ∨
        ¬image.toList <:+: node.residentText ∨ node.Holds image) ∧
    ((∀ node : Node, (pullNeeded policy image node).value = .ok false → node.Holds image) ↔
      policy ≠ some .ifNotPresent ∨ isMutableImage image = true ∨
        ∀ node : Node, ¬image.toList <:+: node.residentText) ∧
    ((∀ node : Node, ¬image.toList <:+: node.residentText) →
      ∃ char ∈ image.toList, Json.IsEscaped char) := by
  have onNode (node : Node) : ((pullNeeded policy image node).value = .ok false → node.Holds image) ↔
      policy ≠ some .ifNotPresent ∨ isMutableImage image = true ∨
        ¬image.toList <:+: node.residentText ∨ node.Holds image := by
    rw [pullNeeded_eq_false_iff, ReferenceKind.ofImage_eq_pinned_iff]
    by_cases changing : isMutableImage image = true
    · simp [changing]
    · simp only [Bool.not_eq_true] at changing
      simp only [changing]
      tauto
  refine ⟨onNode, ⟨fun sound => ?_, fun none node => ?_⟩, fun unmentioned => ?_⟩
  · by_contra spared
    simp only [not_or, not_forall, not_not, Bool.not_eq_true] at spared
    obtain ⟨presence, fixed, node, found⟩ := spared
    have pinned := ReferenceKind.ofImage_eq_pinned_iff.mpr fixed
    have notEmpty : image.toList ≠ [] := by
      intro empty
      simpa [empty] using ReferenceKind.anchor_of_pinned pinned
    obtain ⟨other, mentioned, unheld⟩ := Node.exists_unheld notEmpty found
    exact unheld (sound other (pullNeeded_eq_false_iff.mpr ⟨presence, pinned, mentioned⟩))
  · refine (onNode node).mpr ?_
    rcases none with never | changing | unmentioned
    · exact .inl never
    · exact .inr (.inl changing)
    · exact .inr (.inr (.inl (unmentioned node)))
  · by_contra plain
    simp only [not_exists, not_and] at plain
    exact unmentioned (Node.ofName image) (Node.infix_residentText_ofName plain)

/-- A reference whose tag is the start of a resident one's is taken for resident. -/
theorem unheld_prefix_tag_spared :
    ¬∀ (policy : Option PullPolicy) (image : String) (node : Node),
      (pullNeeded policy image node).value = .ok false → node.Holds image := by
  intro sound
  have spared : (pullNeeded (some .ifNotPresent) "nginx:1.2"
      (Node.ofName "docker.io/library/nginx:1.27.2")).value = .ok false := by decide +kernel
  have unheld : ¬(Node.ofName "docker.io/library/nginx:1.27.2").Holds "nginx:1.2" := by
    decide +kernel
  exact unheld (sound _ _ _ spared)

end ImageJobs
