import ImageJobs.Proofs.PolicyAgreement
import ImageJobs.Proofs.ReferenceGrammar

namespace ImageJobs

/-- A registry by its host, a text of letters, digits, dots and hyphens or any other without a mark,
and maybe the number of a port. -/
structure Registry where
  host : String
  port : Option String := none
  unmarkedHost : Unmarked host
  numericPort : ∀ number, port = some number → ∀ char ∈ number.toList, char.isDigit = true

namespace Registry

def portText : Option String → String
  | none => ""
  | some number => ":" ++ number

/-- The image as the registry's. -/
def qualify (registry : Registry) (image : String) : String :=
  registry.host ++ portText registry.port ++ "/" ++ image

/-- The port is what all marks of the reference come to with the registry in front. -/
def MarksAlone (registry : Registry) (reference : Reference) : Prop :=
  registry.port ≠ none ∧ reference.Bare

theorem ofImage_qualify_of_no_port {registry : Registry} (absent : registry.port = none)
    (image : String) :
    ReferenceKind.ofImage (registry.qualify image) = ReferenceKind.ofImage image := by
  have front : Unmarked (registry.host ++ "/") :=
    ⟨by simp [registry.unmarkedHost.noColon], by simp [registry.unmarkedHost.noAt]⟩
  have line : registry.qualify image = registry.host ++ "/" ++ image := by
    rw [qualify, absent, portText, String.append_empty]
  rw [line, ReferenceKind.ofImage_append front]

/-- A port's number and the slash behind it hold no colon, and do not begin like the latest tag. -/
theorem latest_infix_port_iff {number : String}
    (numeric : ∀ char ∈ number.toList, char.isDigit = true) (image : String) :
    ":latest".toList <:+: ':' :: (number.toList ++ '/' :: image.toList) ↔
      ":latest".toList <:+: image.toList := by
  have noColon : ':' ∉ number.toList ++ ['/'] := by
    intro member
    have digit : ':' ∈ number.toList := by simpa using member
    exact absurd (numeric ':' digit) (by decide)
  have otherStart : ¬"latest".toList <+: number.toList ++ '/' :: image.toList := by
    rw [Occurrence.prefix_across_iff (by simp)]
    intro starts
    exact absurd (numeric 'l' (starts.subset (by simp))) (by decide)
  rw [ReferenceKind.latest_infix_colon_iff, or_iff_right otherStart, List.append_cons]
  exact Occurrence.cons_infix_append_iff noColon

/-- With a port in front a reference is the latest one or pinned, and never the implied latest
one. -/
theorem ofImage_qualify_of_port {registry : Registry} {number : String}
    (given : registry.port = some number) (image : String) :
    ReferenceKind.ofImage (registry.qualify image) =
      if ReferenceKind.ofImage image = .latest then .latest else .pinned := by
  have line : (registry.qualify image).toList =
      registry.host.toList ++ ':' :: (number.toList ++ '/' :: image.toList) := by
    simp [qualify, given, portText]
  have latest : ReferenceKind.ofImage (registry.qualify image) = .latest ↔
      ReferenceKind.ofImage image = .latest := by
    rw [ReferenceKind.ofImage_eq_latest_iff, ReferenceKind.ofImage_eq_latest_iff, line,
      ← latest_infix_port_iff (registry.numericPort number given)]
    exact Occurrence.cons_infix_append_iff registry.unmarkedHost.noColon
  have notImplied : ReferenceKind.ofImage (registry.qualify image) ≠ .implicitLatest :=
    ReferenceKind.ofImage_ne_implicitLatest (by simp [line])
  split
  · rename_i same
    exact latest.mpr same
  · rename_i other
    have notLatest := latest.not.mpr other
    cases kind : ReferenceKind.ofImage (registry.qualify image) with
    | implicitLatest => exact absurd kind notImplied
    | latest => exact absurd kind notLatest
    | pinned => rfl

/-- A port takes away the mutability that a reference has for want of a mark, and no other. -/
theorem isMutableImage_qualify_eq_iff {registry : Registry} {image : String} :
    isMutableImage (registry.qualify image) = isMutableImage image ↔
      ¬(registry.port ≠ none ∧ ReferenceKind.ofImage image = .implicitLatest) := by
  unfold isMutableImage
  cases given : registry.port with
  | none => simp [ofImage_qualify_of_no_port given]
  | some number =>
    rw [ofImage_qualify_of_port given]
    cases ReferenceKind.ofImage image <;> simp [ReferenceKind.isMutable]

end Registry

theorem PullPolicy.raisedFor_ifNotPresent_eq_iff {image other : String} :
    raisedFor .ifNotPresent image = raisedFor .ifNotPresent other ↔
      isMutableImage image = isMutableImage other := by
  unfold raisedFor
  cases isMutableImage image <;> cases isMutableImage other <;> decide

theorem pullNeeded_ifNotPresent_iff {image : String} {node : Node} :
    (pullNeeded (some .ifNotPresent) image node).value = .ok true ↔
      isMutableImage image = true ∨ ¬image.toList <:+: node.residentText := by
  rw [pullNeeded_eq_true_iff, ReferenceKind.ofImage_eq_pinned_iff]
  cases isMutableImage image <;> simp

/-- A registry in front leaves a reference as able to change as it is, and the policy of its
container as it is, but for one case: a port before a reference that has neither a tag nor a digest.
There the reference can change, and the one with the registry is pinned. So every node needs the
pull of such a reference from a registry without a port, and with a port only those do whose text
does not mention it. -/
theorem registry_keeps_mutability_iff (registry : Registry) (reference : Reference) :
    let image := registry.qualify reference.text
    (isMutableImage image = isMutableImage reference.text ↔ ¬registry.MarksAlone reference) ∧
    (PullPolicy.raisedFor .ifNotPresent image =
        PullPolicy.raisedFor .ifNotPresent reference.text ↔ ¬registry.MarksAlone reference) ∧
    (registry.MarksAlone reference →
      ReferenceKind.ofImage reference.text = .implicitLatest ∧
        ReferenceKind.ofImage image = .pinned) ∧
    (reference.Bare → ∀ node, (pullNeeded (some .ifNotPresent) image node).value = .ok true ↔
      registry.port = none ∨ ¬image.toList <:+: node.residentText) := by
  intro image
  have implied := Reference.ofImage_text_eq_implicitLatest_iff reference
  have kept : isMutableImage image = isMutableImage reference.text ↔
      ¬registry.MarksAlone reference := by
    rw [Registry.isMutableImage_qualify_eq_iff, implied, Registry.MarksAlone]
  refine ⟨kept, PullPolicy.raisedFor_ifNotPresent_eq_iff.trans kept, ?_, ?_⟩
  · rintro ⟨ported, bare⟩
    obtain ⟨number, given⟩ := Option.ne_none_iff_exists'.mp ported
    have kind := implied.mpr bare
    exact ⟨kind, by simp [image, Registry.ofImage_qualify_of_port given, kind]⟩
  · intro bare node
    have changing : isMutableImage reference.text = true :=
      ReferenceKind.isMutableImage_iff.mpr (.inr (implied.mpr bare))
    have unported : isMutableImage image = true ↔ registry.port = none := by
      rw [← changing, kept]
      simp [Registry.MarksAlone, bare]
    rw [pullNeeded_ifNotPresent_iff, unported]

/-- A registry without a port leaves an untagged reference needed on every node, and one with a port
leaves a tagged reference what it is. -/
theorem untagged_needed_and_tagged_kept :
    let registry : Registry :=
      { host := "ghcr.io", unmarkedHost := ⟨by simp, by simp⟩, numericPort := by simp }
    let ported : Registry := { registry with port := some "5000", numericPort := by simp }
    let untagged : Reference :=
      { path := "org/app", unmarkedPath := ⟨by simp, by simp⟩, unmarkedTag := by simp }
    let tagged : Reference :=
      { untagged with tag := some "1.2", unmarkedTag := by rintro _ ⟨⟩; exact ⟨by simp, by simp⟩ }
    (untagged.Bare ∧ ∀ node,
      (pullNeeded (some .ifNotPresent) (registry.qualify untagged.text) node).value = .ok true) ∧
    (ported.MarksAlone untagged ∧
      ReferenceKind.ofImage (ported.qualify untagged.text) = .pinned) ∧
    isMutableImage (ported.qualify tagged.text) = isMutableImage tagged.text := by
  intro registry ported untagged tagged
  have bare : untagged.Bare := ⟨rfl, rfl⟩
  have alone : ported.MarksAlone untagged := ⟨Option.some_ne_none _, bare⟩
  have notAlone : ¬ported.MarksAlone tagged := fun marks => nomatch marks.2.1
  obtain ⟨-, -, -, needed⟩ := registry_keeps_mutability_iff registry untagged
  obtain ⟨-, -, kinds, -⟩ := registry_keeps_mutability_iff ported untagged
  obtain ⟨kept, -⟩ := registry_keeps_mutability_iff ported tagged
  exact ⟨⟨bare, fun node => (needed bare node).mpr (.inl rfl)⟩, ⟨alone, (kinds alone).2⟩,
    kept.mpr notAlone⟩

/-- The colon of a port stands in for a tag that is not there. -/
theorem port_passes_for_tag :
    let registry : Registry :=
      { host := "registry.local", port := some "5000", unmarkedHost := ⟨by simp, by simp⟩
        numericPort := by simp }
    let reference : Reference :=
      { path := "app", unmarkedPath := ⟨by simp, by simp⟩, unmarkedTag := by simp }
    let image := registry.qualify reference.text
    image = "registry.local:5000/app" ∧
      ¬(isMutableImage image = true ↔ isMutableImage reference.text = true) ∧
      PullPolicy.raisedFor .ifNotPresent image ≠
        PullPolicy.raisedFor .ifNotPresent reference.text ∧
      ¬∀ node, (pullNeeded (some .ifNotPresent) image node).value = .ok true := by
  intro registry reference image
  have written : image = "registry.local:5000/app" := by decide +kernel
  have fixed : isMutableImage image = false := by decide +kernel
  have changing : isMutableImage reference.text = true := by decide +kernel
  have spared : (pullNeeded (some .ifNotPresent) image (Node.ofName image)).value = .ok false := by
    decide +kernel
  refine ⟨written, by simp [fixed, changing], ?_, fun needed => ?_⟩
  · rw [ne_eq, PullPolicy.raisedFor_ifNotPresent_eq_iff, fixed, changing]
    decide
  · have same := spared.symm.trans (needed (Node.ofName image))
    exact Bool.false_ne_true (Except.ok.inj same)

end ImageJobs
