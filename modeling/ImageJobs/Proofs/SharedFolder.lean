import Mathlib.Data.List.Forall2
import ImageJobs.Proofs.HostFolder

namespace ImageJobs

namespace Folder

/-- The characters that a name shows as they are, and that no other character is shown as. -/
def Sharp (char : Char) : Prop :=
  char.isAlphanum ∨ char = '.' ∨ char = '-'

/-- The texts have the same sharp characters at the same places, and others at all other places. -/
def Alike (image other : String) : Prop :=
  List.Forall₂ (fun char peer => char = peer ∨ ¬Sharp char ∧ ¬Sharp peer) image.toList other.toList

theorem nameChar_of_sharp {char : Char} (sharp : Sharp char) : nameChar char = char := by
  have kept : isKept char = true := by
    rcases sharp with alphanumeric | dot | hyphen
    · simp [isKept, alphanumeric]
    · simp [isKept, dot]
    · simp [isKept, hyphen]
  rw [nameChar, if_pos kept]

theorem nameChar_of_not_sharp {char : Char} (blurred : ¬Sharp char) : nameChar char = '_' := by
  simp only [Sharp, not_or] at blurred
  obtain ⟨notAlphanumeric, notDot, notHyphen⟩ := blurred
  unfold nameChar
  split
  · rename_i kept
    simpa [isKept, notAlphanumeric, notDot, notHyphen] using kept
  · rfl

/-- A name shows the one character for the other. -/
inductive Shown : Char → Char → Prop where
  | sharp (sharp : Sharp char) : Shown char char
  | blurred (blurred : ¬Sharp char) : Shown char '_'

theorem shown_nameChar (char : Char) : Shown char (nameChar char) := by
  by_cases sharp : Sharp char
  · rw [nameChar_of_sharp sharp]
    exact .sharp sharp
  · rw [nameChar_of_not_sharp sharp]
    exact .blurred sharp

theorem shown_name (image : String) : List.Forall₂ Shown image.toList (name image).toList := by
  rw [toList_name, List.forall₂_map_right_iff]
  exact List.forall₂_same.mpr fun char _ => shown_nameChar char

theorem sharp_nameChar_iff {char : Char} : Sharp (nameChar char) ↔ Sharp char := by
  by_cases sharp : Sharp char
  · rw [nameChar_of_sharp sharp]
  · rw [nameChar_of_not_sharp sharp]
    exact iff_of_false (by simp [Sharp]) sharp

theorem nameChar_eq_iff {char peer : Char} :
    nameChar char = nameChar peer ↔ char = peer ∨ ¬Sharp char ∧ ¬Sharp peer := by
  constructor
  · intro same
    have both : Sharp char ↔ Sharp peer := by
      rw [← sharp_nameChar_iff, same, sharp_nameChar_iff]
    by_cases sharp : Sharp char
    · rw [nameChar_of_sharp sharp, nameChar_of_sharp (both.mp sharp)] at same
      exact .inl same
    · exact .inr ⟨sharp, both.not.mp sharp⟩
  · rintro (rfl | ⟨blurred, blurredPeer⟩)
    · rfl
    · rw [nameChar_of_not_sharp blurred, nameChar_of_not_sharp blurredPeer]

theorem name_eq_iff {image other : String} : name image = name other ↔ Alike image other := by
  rw [← String.toList_inj, toList_name, toList_name, ← List.forall₂_eq_eq_eq,
    List.forall₂_map_left_iff, List.forall₂_map_right_iff]
  simp only [nameChar_eq_iff, Alike]

theorem path_eq_iff {root image other : String} :
    path root image = path root other ↔ Alike image other := by
  rw [path_eq, path_eq, ← name_eq_iff]
  exact String.append_right_inj _

theorem Alike.stray_iff {image other : String} (alike : Alike image other) :
    Stray image ↔ Stray other := by
  rw [← stray_name_iff, name_eq_iff.mpr alike, stray_name_iff]

/-- A folder of its own is no folder that a stray text leads to. -/
theorem place_path_ne_of_stray (root : String) {image other : String} (plain : ¬Stray image)
    (stray : Stray other) : place (path root image) ≠ place (path root other) := by
  intro same
  have child := (liesAt_path root image).child_iff.mpr plain
  rw [same] at child
  exact (liesAt_path root other).child_iff.mp child stray

private theorem ite_dropLast_eq_iff {place : List String} {first second : Prop} [Decidable first]
    [Decidable second] :
    (if first then place.dropLast else place) = (if second then place.dropLast else place) ↔
      (first ↔ second) ∨ place = [] := by
  have kept : place.dropLast = place ↔ place = [] := by
    refine ⟨fun same => ?_, fun empty => by simp [empty]⟩
    have lengths := congrArg List.length same
    rw [List.length_dropLast] at lengths
    exact List.eq_nil_of_length_eq_zero (by omega)
  by_cases above : first <;> by_cases aboveOther : second
  · simp [above, aboveOther]
  · simp [above, aboveOther, kept]
  · simpa [above, aboveOther] using eq_comm.trans kept
  · simp [above, aboveOther]

/-- Paths that differ lead to one place only from texts that name no entry. -/
theorem place_path_eq_iff {root image other : String} :
    place (path root image) = place (path root other) ↔
      Alike image other ∨
        Stray image ∧ Stray other ∧ ((image = ".." ↔ other = "..") ∨ place root = []) := by
  by_cases stray : Stray image <;> by_cases strayOther : Stray other
  · rw [place_path_of_stray stray, place_path_of_stray strayOther, ite_dropLast_eq_iff]
    constructor
    · intro met
      exact .inr ⟨stray, strayOther, met⟩
    · rintro (alike | ⟨-, -, met⟩)
      · have same : image = other := by
          rw [← name_of_stray stray, ← name_of_stray strayOther, name_eq_iff.mpr alike]
        exact .inl (same ▸ Iff.rfl)
      · exact met
  · have apart := (place_path_ne_of_stray root strayOther stray).symm
    refine iff_of_false apart ?_
    rintro (alike | ⟨-, both, -⟩)
    · exact strayOther (alike.stray_iff.mp stray)
    · exact strayOther both
  · refine iff_of_false (place_path_ne_of_stray root stray strayOther) ?_
    rintro (alike | ⟨both, -, -⟩)
    · exact stray (alike.stray_iff.mpr strayOther)
    · exact stray both
  · rw [place_path_of_plain stray, place_path_of_plain strayOther, List.append_right_inj,
      List.singleton_inj, name_eq_iff]
    simp [stray]

end Folder

open Folder in
/-- Two jobs under the same settings that copy images have the same host path exactly if the images
are alike: character for character the same, but for characters other than letters, digits, dots and
hyphens, which all pass for one another. Different paths lead to one folder only for texts that name
no entry of the root: the empty one and the single dot, or also the two dots where nothing is above
the root. -/
theorem folder_shared_iff_alike {placement other : Placement} {settings : Settings}
    {job otherJob : Job} (built : (placement.job settings).value = .ok job)
    (otherBuilt : (other.job settings).value = .ok otherJob)
    (copied : Strategy.choose placement.image placement.copyAll ≠ .plainPull)
    (otherCopied : Strategy.choose other.image other.copyAll ≠ .plainPull) :
    ∃ volume path otherVolume otherPath,
      job.pod.volumes = [{ name := volume, hostPath := some ⟨path, .directoryOrCreate⟩ }] ∧
      otherJob.pod.volumes =
        [{ name := otherVolume, hostPath := some ⟨otherPath, .directoryOrCreate⟩ }] ∧
      (path = otherPath ↔ Alike placement.image other.image) ∧
      (place path = place otherPath ↔ Alike placement.image other.image ∨
        Stray placement.image ∧ Stray other.image ∧
          ((placement.image = ".." ↔ other.image = "..") ∨ place settings.cacheRoot = [])) :=
  ⟨_, _, _, _, Placement.volumes_of_copy built copied,
    Placement.volumes_of_copy otherBuilt otherCopied, path_eq_iff, place_path_eq_iff⟩

/-- Two versions of a model, one copied whole and one in part, have folders of their own. -/
theorem versions_of_model_kept_apart :
    let whole : Placement :=
      { cache := some (.ofOwner "edge" "ops" "7d0e"), image := "ghcr.io/modelzai/llm:v0.4.1"
        node := .ofHost "edge-7", copyAll := true }
    let part : Placement := { whole with image := "ghcr.io/modelzai/llm:v0.4.2", copyAll := false }
    ∃ job otherJob volume path otherVolume otherPath,
      (whole.job .default).value = .ok job ∧ (part.job .default).value = .ok otherJob ∧
      job.pod.volumes = [{ name := volume, hostPath := some ⟨path, .directoryOrCreate⟩ }] ∧
      otherJob.pod.volumes =
        [{ name := otherVolume, hostPath := some ⟨otherPath, .directoryOrCreate⟩ }] ∧
      path ≠ otherPath := by
  intro whole part
  obtain ⟨job, built⟩ := whole.exists_job rfl rfl .default
  obtain ⟨otherJob, otherBuilt⟩ := part.exists_job rfl rfl .default
  have unlike : ¬Folder.Alike whole.image part.image := by
    rw [← Folder.name_eq_iff]
    decide +kernel
  obtain ⟨volume, path, otherVolume, otherPath, volumes, otherVolumes, shared, -⟩ :=
    folder_shared_iff_alike built otherBuilt Strategy.noConfusion (by decide)
  exact ⟨job, otherJob, volume, path, otherVolume, otherPath, built, otherBuilt, volumes,
    otherVolumes, fun same => unlike (shared.mp same)⟩

/-- A colon and an underscore in one place of two references give them one folder. -/
theorem colon_and_underscore_share_folder :
    ¬∀ (settings : Settings) (placement other : Placement) (job otherJob : Job),
      (placement.job settings).value = .ok job → (other.job settings).value = .ok otherJob →
      Strategy.choose placement.image placement.copyAll ≠ .plainPull →
      Strategy.choose other.image other.copyAll ≠ .plainPull →
      placement.image ≠ other.image → job.pod.volumes ≠ otherJob.pod.volumes := by
  intro apart
  let tagged : Placement :=
    { cache := some (.ofOwner "edge" "ops" "7d0e"), image := "ghcr.io/modelzai/llm:1"
      node := .ofHost "edge-7" }
  let untagged : Placement := { tagged with image := "ghcr.io/modelzai/llm_1" }
  obtain ⟨job, built⟩ := tagged.exists_job rfl rfl .default
  obtain ⟨otherJob, otherBuilt⟩ := untagged.exists_job rfl rfl .default
  have copied : Strategy.choose tagged.image tagged.copyAll ≠ .plainPull := by decide
  have otherCopied : Strategy.choose untagged.image untagged.copyAll ≠ .plainPull := by decide
  refine apart .default tagged untagged job otherJob built otherBuilt copied otherCopied
    (by decide) ?_
  have paths : Folder.path Settings.default.cacheRoot tagged.image =
      Folder.path Settings.default.cacheRoot untagged.image := by decide +kernel
  rw [Placement.volumes_of_copy built copied, Placement.volumes_of_copy otherBuilt otherCopied,
    paths]

end ImageJobs
