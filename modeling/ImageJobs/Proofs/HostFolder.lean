import Mathlib.Data.List.DropRight
import ImageJobs.Proofs.JobSkeleton

/-! Where the folder of an image lies on the host. A path is followed entry by entry, and the name
that an image text gives is one entry; but three texts stand for no entry of their own and lead to
the root of the folders, or to what is above it. -/

namespace ImageJobs

namespace Folder

/-- The root less the slashes at its end. -/
structure IsBase (root base : String) : Prop where
  rest : ∃ slashes, root.toList = base.toList ++ List.replicate slashes '/'
  bare : base.toList.getLast? ≠ some '/'

def base (root : String) : String :=
  String.ofList (root.toList.rdropWhile (· == '/'))

theorem path_eq (root image : String) : path root image = base root ++ "/" ++ name image :=
  rfl

theorem isBase_base (root : String) : IsBase root (base root) where
  rest := by
    have slashes : ∀ char ∈ root.toList.rtakeWhile (· == '/'), char = '/' := by
      intro char member
      exact beq_iff_eq.mp (List.mem_rtakeWhile_imp (p := (· == '/')) member)
    refine ⟨(root.toList.rtakeWhile (· == '/')).length, ?_⟩
    rw [base, String.toList_ofList, ← List.eq_replicate_of_mem slashes]
    exact (List.rdropWhile_append_rtakeWhile ..).symm
  bare := by
    intro ends
    rw [base, String.toList_ofList] at ends
    obtain ⟨notEmpty, last⟩ := List.mem_getLast?_eq_getLast ends
    exact List.rdropWhile_last_not _ _ notEmpty (beq_iff_eq.mpr last.symm)

/-- The text names one entry of a folder, and neither the folder itself nor the one above it. -/
structure NamesEntry (text : String) : Prop where
  notEmpty : text ≠ ""
  whole : '/' ∉ text.toList
  notSelf : text ≠ "."
  notParent : text ≠ ".."

/-- The image texts that are left as they are and name no entry. -/
def Stray (image : String) : Prop :=
  image = "" ∨ image = "." ∨ image = ".."

theorem nameChar_ne_slash (char : Char) : nameChar char ≠ '/' := by
  unfold nameChar
  split
  · rename_i kept
    rintro rfl
    exact absurd kept (by decide)
  · decide

theorem whole_name (image : String) : '/' ∉ (name image).toList := by
  rw [toList_name]
  intro member
  obtain ⟨char, _, same⟩ := List.mem_map.mp member
  exact nameChar_ne_slash char same

theorem nameChar_eq_self {char : Char} (clear : nameChar char ≠ '_') : nameChar char = char := by
  unfold nameChar at clear ⊢
  split
  · rfl
  · simp_all

/-- A name without an underscore is that of no other text than itself. -/
theorem eq_of_name_eq {image text : String} (clear : '_' ∉ text.toList)
    (same : name image = text) : image = text := by
  subst same
  rw [toList_name] at clear
  have kept : ∀ char ∈ image.toList, nameChar char = char := by
    intro char member
    refine nameChar_eq_self fun blurred => clear ?_
    exact blurred ▸ List.mem_map_of_mem member
  apply String.toList_inj.mp
  rw [toList_name, List.map_congr_left kept, List.map_id']

theorem name_of_stray {image : String} (stray : Stray image) : name image = image := by
  rcases stray with rfl | rfl | rfl <;> decide

theorem stray_name_iff {image : String} : Stray (name image) ↔ Stray image := by
  constructor
  · rintro (empty | self | parent)
    · exact .inl (eq_of_name_eq (by decide) empty)
    · exact .inr (.inl (eq_of_name_eq (by decide) self))
    · exact .inr (.inr (eq_of_name_eq (by decide) parent))
  · intro stray
    rwa [name_of_stray stray]

theorem namesEntry_iff {text : String} : NamesEntry text ↔ '/' ∉ text.toList ∧ ¬Stray text := by
  simp only [Stray, not_or]
  constructor
  · rintro ⟨notEmpty, whole, notSelf, notParent⟩
    exact ⟨whole, notEmpty, notSelf, notParent⟩
  · rintro ⟨whole, notEmpty, notSelf, notParent⟩
    exact ⟨notEmpty, whole, notSelf, notParent⟩

theorem namesEntry_name_iff {image : String} : NamesEntry (name image) ↔ ¬Stray image := by
  rw [namesEntry_iff, stray_name_iff]
  exact and_iff_right (whole_name image)

/-- Where an entry leads from a place. -/
def step (place : List String) (entry : String) : List String :=
  if entry = "" ∨ entry = "." then place
  else if entry = ".." then place.dropLast
  else place ++ [entry]

/-- Where a path leads: the folders down from the root of the host. -/
def place (path : String) : List String :=
  ((path.toList.splitOnP (· == '/')).map String.ofList).foldl step []

theorem step_of_namesEntry {entry : String} (named : NamesEntry entry) (place : List String) :
    step place entry = place ++ [entry] := by
  simp only [step, named.notEmpty, named.notSelf, named.notParent, or_self, ↓reduceIte]

theorem place_append_entry (start : String) {entry : String} (whole : '/' ∉ entry.toList) :
    place (start ++ "/" ++ entry) = step (place start) entry := by
  have cut : (start.toList ++ '/' :: entry.toList).splitOnP (· == '/') =
      start.toList.splitOnP (· == '/') ++ entry.toList.splitOnP (· == '/') :=
    List.splitOnP_append_cons start.toList entry.toList rfl
  have one : entry.toList.splitOnP (· == '/') = [entry.toList] := by
    apply List.splitOnP_eq_singleton
    intro char member
    rw [beq_eq_false_iff_ne]
    exact fun slash => whole (slash ▸ member)
  simp [place, cut, one]

theorem IsBase.place_eq {root base : String} (based : IsBase root base) :
    place root = place base := by
  obtain ⟨slashes, rest⟩ := based.rest
  clear based
  induction slashes generalizing root with
  | zero =>
    have same : root = base := String.toList_inj.mp (by simpa using rest)
    rw [same]
  | succ slashes ih =>
    -- The last slash opens an empty entry, which leads nowhere.
    have split : root =
        String.ofList (base.toList ++ List.replicate slashes '/') ++ "/" ++ "" := by
      apply String.toList_inj.mp
      simp [rest, List.replicate_succ']
    rw [split, place_append_entry _ (by decide), ih (by simp)]
    rfl

theorem place_path (root image : String) :
    place (path root image) = step (place root) (name image) := by
  rw [path_eq, place_append_entry _ (whole_name image), (isBase_base root).place_eq]

theorem place_path_of_plain {root image : String} (plain : ¬Stray image) :
    place (path root image) = place root ++ [name image] := by
  rw [place_path, step_of_namesEntry (namesEntry_name_iff.mpr plain)]

theorem place_path_of_stray {root image : String} (stray : Stray image) :
    place (path root image) = if image = ".." then (place root).dropLast else place root := by
  rw [place_path, name_of_stray stray]
  rcases stray with rfl | rfl | rfl <;> rfl

/-- Where the folder of an image lies, seen from the place of the root of all such folders. -/
inductive LiesAt (root : List String) : String → List String → Prop where
  | below (plain : ¬Stray image) : LiesAt root image (root ++ [name image])
  | same (own : image = "" ∨ image = ".") : LiesAt root image root
  | above : LiesAt root ".." root.dropLast

theorem liesAt_path (root image : String) :
    LiesAt (place root) image (place (path root image)) := by
  by_cases stray : Stray image
  · rw [place_path_of_stray stray]
    rcases stray with rfl | rfl | rfl
    · exact .same (.inl rfl)
    · exact .same (.inr rfl)
    · exact .above
  · rw [place_path_of_plain stray]
    exact .below stray

/-- Only a folder with an entry of its own lies below the root. -/
theorem LiesAt.child_iff {root found : List String} {image : String}
    (lies : LiesAt root image found) : (∃ entry, found = root ++ [entry]) ↔ ¬Stray image := by
  cases lies with
  | below plain => exact iff_of_true ⟨_, rfl⟩ plain
  | same own =>
    refine iff_of_false ?_ (not_not.mpr (own.imp_right .inl))
    rintro ⟨entry, longer⟩
    simp at longer
  | above =>
    refine iff_of_false ?_ (not_not.mpr (.inr (.inr rfl)))
    rintro ⟨entry, longer⟩
    have lengths := congrArg List.length longer
    simp only [List.length_dropLast, List.length_append, List.length_singleton] at lengths
    omega

end Folder

theorem Placement.volumes_of_copy {placement : Placement} {settings : Settings} {job : Job}
    (built : (placement.job settings).value = .ok job)
    (copied : Strategy.choose placement.image placement.copyAll ≠ .plainPull) :
    job.pod.volumes =
      [{ name := "image-cache"
         hostPath := some ⟨Folder.path settings.cacheRoot placement.image, .directoryOrCreate⟩ }] := by
  rw [body_of_job built]
  generalize Strategy.choose placement.image placement.copyAll = strategy at copied
  cases strategy with
  | wholeImage => rfl
  | directories paths => rfl
  | plainPull => exact absurd rfl copied

/-- An image that is copied for its name has one that names an entry. -/
theorem Strategy.copyAll_of_stray {image : String} {copyAll : Bool} (stray : Folder.Stray image)
    (copied : choose image copyAll ≠ .plainPull) : copyAll = true := by
  cases copyAll with
  | true => rfl
  | false => rcases stray with rfl | rfl | rfl <;> exact absurd (by decide) copied

open Folder in
/-- The name of an image text is one entry of a folder, but for three texts. A job that copies an
image takes for its folder the root, less the slashes at its end, with that name below it. So the
folder is a child of the root exactly if the image is none of the three texts; of these the empty
one and the single dot lead to the root itself and the two dots to the folder above it. They get
that far only where a full copy is demanded. -/
theorem folder_below_root_iff (placement : Placement) (settings : Settings) :
    (NamesEntry (name placement.image) ↔ ¬Stray placement.image) ∧
    ∀ job, (placement.job settings).value = .ok job →
      Strategy.choose placement.image placement.copyAll ≠ .plainPull →
        ∃ volume base path, IsBase settings.cacheRoot base ∧
          path = base ++ "/" ++ name placement.image ∧
          job.pod.volumes = [{ name := volume, hostPath := some ⟨path, .directoryOrCreate⟩ }] ∧
          LiesAt (place settings.cacheRoot) placement.image (place path) ∧
          ((∃ entry, place path = place settings.cacheRoot ++ [entry]) ↔
            ¬Stray placement.image) ∧
          (Stray placement.image → placement.copyAll = true) := by
  refine ⟨namesEntry_name_iff, fun job built copied => ?_⟩
  have lies := liesAt_path settings.cacheRoot placement.image
  exact ⟨"image-cache", base settings.cacheRoot, _, isBase_base _, path_eq ..,
    Placement.volumes_of_copy built copied, lies, lies.child_iff,
    fun stray => Strategy.copyAll_of_stray stray copied⟩

/-- The folder of a model's image is a child of the root, whose slashes at the end do not count. -/
theorem folder_of_model_below_root :
    let settings : Settings := { cacheRoot := "/mnt/images//" }
    let placement : Placement :=
      { cache := some (.ofOwner "edge" "ops" "7d0e"), image := "ghcr.io/modelzai/llm:v0.4.1"
        node := .ofHost "edge-7" }
    ∃ job volume path, (placement.job settings).value = .ok job ∧
      job.pod.volumes = [{ name := volume, hostPath := some ⟨path, .directoryOrCreate⟩ }] ∧
      ∃ entry, Folder.place path = ["mnt", "images"] ++ [entry] := by
  intro settings placement
  obtain ⟨job, built⟩ := placement.exists_job rfl rfl settings
  have copied : Strategy.choose placement.image placement.copyAll ≠ .plainPull := by decide
  have plain : ¬Folder.Stray placement.image := by simp [Folder.Stray, placement]
  have root : Folder.place settings.cacheRoot = ["mnt", "images"] := by decide +kernel
  obtain ⟨volume, base, path, -, -, volumes, -, child, -⟩ :=
    (folder_below_root_iff placement settings).2 job built copied
  exact ⟨job, volume, path, built, volumes, root ▸ child.mpr plain⟩

/-- The image text of two dots is its own name, and a full copy of such an image goes to the folder
above the root. -/
theorem two_dots_leave_root :
    let settings : Settings := .default
    let placement : Placement :=
      { cache := some (.ofOwner "edge" "ops" "7d0e"), image := "..", node := .ofHost "edge-7"
        copyAll := true }
    ¬Folder.NamesEntry (Folder.name placement.image) ∧
      ∃ job volume, (placement.job settings).value = .ok job ∧
        job.pod.volumes =
          [{ name := volume
             hostPath := some ⟨"/var/lib/kubefledged/cache/..", .directoryOrCreate⟩ }] ∧
        Folder.place settings.cacheRoot = ["var", "lib", "kubefledged", "cache"] ∧
        Folder.place "/var/lib/kubefledged/cache/.." = ["var", "lib", "kubefledged"] := by
  intro settings placement
  obtain ⟨job, built⟩ := placement.exists_job rfl rfl settings
  have path : Folder.path settings.cacheRoot placement.image =
      "/var/lib/kubefledged/cache/.." := by decide +kernel
  refine ⟨fun entry => entry.notParent (by decide), job, "image-cache", built, ?_, ?_, ?_⟩
  · rw [Placement.volumes_of_copy built Strategy.noConfusion, path]
  · decide +kernel
  · decide +kernel

end ImageJobs
