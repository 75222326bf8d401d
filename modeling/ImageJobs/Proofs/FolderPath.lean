import ImageJobs.Proofs.SharedFolder

namespace ImageJobs

namespace Folder

theorem base_append_slashes (text : String) (slashes : Nat) :
    base (String.ofList (text.toList ++ List.replicate slashes '/')) = base text := by
  induction slashes with
  | zero => simp
  | succ slashes ih =>
    rw [← ih]
    simp only [base, String.toList_ofList, List.replicate_succ', ← List.append_assoc]
    rw [List.rdropWhile_concat_pos (· == '/') _ '/' rfl]

theorem base_eq_self {text : String} (bare : text.toList.getLast? ≠ some '/') :
    base text = text := by
  have ends : ∀ notEmpty : text.toList ≠ [], ¬(text.toList.getLast notEmpty == '/') = true := by
    intro notEmpty slash
    apply bare
    rw [List.getLast?_eq_getLast_of_ne_nil notEmpty, beq_iff_eq.mp slash]
  rw [base, List.rdropWhile_eq_self_iff.mpr ends, String.ofList_toList]

/-- The slashes at the end of a root can be taken off in one way only. -/
theorem isBase_iff {root text : String} : IsBase root text ↔ base root = text := by
  constructor
  · rintro ⟨⟨slashes, rest⟩, bare⟩
    have split : root = String.ofList (text.toList ++ List.replicate slashes '/') :=
      String.toList_inj.mp (by rw [rest, String.toList_ofList])
    rw [split, base_append_slashes, base_eq_self bare]
  · rintro rfl
    exact isBase_base root

/-- The path in two parts, of which the second is what follows its last slash. -/
structure CutAtLastSlash (path front segment : String) : Prop where
  joined : path = front ++ "/" ++ segment
  whole : '/' ∉ segment.toList

private theorem eq_nil_of_slash_cons_eq {segment extra rest : List Char} (whole : '/' ∉ segment)
    (same : '/' :: segment = extra ++ '/' :: rest) : extra = [] := by
  cases extra with
  | nil => rfl
  | cons head extra =>
    have longer : segment = extra ++ '/' :: rest := (List.cons.inj same).2
    simp [longer] at whole

theorem CutAtLastSlash.unique {path front segment otherFront otherSegment : String}
    (cut : CutAtLastSlash path front segment)
    (otherCut : CutAtLastSlash path otherFront otherSegment) :
    front = otherFront ∧ segment = otherSegment := by
  have same : front.toList ++ '/' :: segment.toList =
      otherFront.toList ++ '/' :: otherSegment.toList := by
    simpa using congrArg String.toList (cut.joined.symm.trans otherCut.joined)
  -- If one front were longer, the other one's segment would hold the slash behind it.
  have fronts : front.toList = otherFront.toList := by
    rcases List.append_eq_append_iff.mp same with ⟨extra, longer, rest⟩ | ⟨extra, longer, rest⟩
    · simpa [eq_nil_of_slash_cons_eq cut.whole rest] using longer.symm
    · simpa [eq_nil_of_slash_cons_eq otherCut.whole rest] using longer
  rw [fronts] at same
  have segments := (List.cons.inj (List.append_cancel_left same)).2
  exact ⟨String.toList_inj.mp fronts, String.toList_inj.mp segments⟩

theorem cut_path (root image : String) :
    CutAtLastSlash (path root image) (base root) (name image) where
  joined := path_eq root image
  whole := whole_name image

theorem cutAtLastSlash_path_iff {root image front segment : String} :
    CutAtLastSlash (path root image) front segment ↔
      IsBase root front ∧ name image = segment := by
  rw [isBase_iff]
  constructor
  · exact (cut_path root image).unique
  · rintro ⟨rfl, rfl⟩
    exact cut_path root image

theorem path_eq_path_iff {root otherRoot image other : String} :
    path root image = path otherRoot other ↔
      (∃ base, IsBase root base ∧ IsBase otherRoot base) ∧ Alike image other := by
  simp only [isBase_iff, exists_eq_left', ← name_eq_iff]
  constructor
  · intro same
    obtain ⟨bases, names⟩ := (cut_path otherRoot other).unique (same ▸ cut_path root image)
    exact ⟨bases, names.symm⟩
  · rintro ⟨bases, names⟩
    rw [path_eq, path_eq, bases, names]

end Folder

open Folder in
/-- Two copies, each with a root of its own, have the same path on the host exactly if their roots
are the same but for slashes at the end and their images are alike: as long as each other, with the
same character at each place or with two that are neither letters nor digits, dots or hyphens. What
stands before the last slash of a path is always the root less its slashes, and what follows is the
name of the image, so that no image has a path under a root that is not its own. The name has an
underscore in place of each character that is not a letter, digit, dot or hyphen. -/
theorem copies_share_path_iff (root otherRoot image other : String)
    (policy otherPolicy : PullPolicy) (script otherScript : String) :
    ∃ volume path otherVolume otherPath,
      (Placement.copyPod image policy root script).volumes =
        [{ name := volume, hostPath := some ⟨path, .directoryOrCreate⟩ }] ∧
      (Placement.copyPod other otherPolicy otherRoot otherScript).volumes =
        [{ name := otherVolume, hostPath := some ⟨otherPath, .directoryOrCreate⟩ }] ∧
      (path = otherPath ↔
        (∃ base, IsBase root base ∧ IsBase otherRoot base) ∧ Alike image other) ∧
      (∀ front segment, CutAtLastSlash path front segment ↔
        IsBase root front ∧ name image = segment) ∧
      List.Forall₂ Shown image.toList (name image).toList :=
  ⟨_, _, _, _, rfl, rfl, path_eq_path_iff, fun _ _ => cutAtLastSlash_path_iff, shown_name image⟩

/-- A slash of the image text is not taken for one of the root. -/
example : Folder.path "/mnt" "images/llm" ≠ Folder.path "/mnt/images" "llm" := by
  decide +kernel

end ImageJobs
