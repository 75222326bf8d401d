import Mathlib.Data.List.Infix

/-! Runs inside a row of pieces. A run without a separator lies on one side of it, and a run stays
inside a row when each piece that is as long as the run is exchanged with care for its two ends. -/

namespace ImageJobs.Occurrence

variable {α τ : Type}

/-- A run that avoids the separator cannot reach across it. -/
theorem infix_across_iff {run left right : List α} {separator : α} (avoided : separator ∉ run) :
    run <:+: left ++ separator :: right ↔ run <:+: left ∨ run <:+: right := by
  constructor
  · intro found
    rcases List.infix_append_iff.mp found with inLeft | inRight | ⟨back, front, same, ends, starts⟩
    · exact .inl inLeft
    · rcases List.infix_cons_iff.mp inRight with starts | later
      · cases run with
        | nil => exact .inl List.nil_infix
        | cons head tail =>
          have clash := (List.cons_prefix_cons.mp starts).1
          simp [clash] at avoided
      · exact .inr later
    · cases front with
      | nil => exact .inl (by simpa [same] using ends.isInfix)
      | cons head tail =>
        have clash := (List.cons_prefix_cons.mp starts).1
        simp [same, clash] at avoided
  · rintro (inLeft | inRight)
    · exact List.infix_append_of_infix_left inLeft
    · exact List.infix_append_of_infix_right (List.infix_cons inRight)

/-- A run is found behind a front part that does not hold what the run starts with. -/
theorem cons_infix_append_iff {start : α} {run front rest : List α} (absent : start ∉ front) :
    start :: run <:+: front ++ rest ↔ start :: run <:+: rest := by
  induction front with
  | nil => rfl
  | cons head tail ih =>
    obtain ⟨other, absentLater⟩ := List.ne_and_not_mem_of_not_mem_cons absent
    rw [List.cons_append, List.infix_cons_iff, List.cons_prefix_cons, ih absentLater]
    exact or_iff_right fun starts => other starts.1

/-- A run that avoids the separator starts nothing that reaches across it. -/
theorem prefix_across_iff {run left right : List α} {separator : α} (avoided : separator ∉ run) :
    run <+: left ++ separator :: right ↔ run <+: left := by
  refine ⟨fun starts => ?_, fun starts => List.prefix_append_of_prefix starts⟩
  rcases Nat.le_total run.length left.length with within | beyond
  · exact List.prefix_of_prefix_length_le starts (List.prefix_append ..) within
  · obtain ⟨rest, rfl⟩ := List.prefix_of_prefix_length_le (List.prefix_append ..) starts beyond
    cases rest with
    | nil => simp
    | cons head tail =>
      have clash := (List.cons_prefix_cons.mp ((List.prefix_append_right_inj left).mp starts)).1
      simp [clash] at avoided

/-- One piece may stand for another where a run of the given length is looked for: it shows at its
ends what the other shows, and a piece too short to hold the run is unchanged. -/
structure Replaces (run new old : List α) : Prop where
  inside : run <:+: old → run <:+: new
  front : ∀ part : List α, part.length ≤ run.length → part <+: old → part <+: new
  back : ∀ part : List α, part.length ≤ run.length → part <:+ old → part <:+ new
  short : old.length < run.length → new = old

theorem Replaces.refl (run piece : List α) : Replaces run piece piece where
  inside := id
  front := fun _ _ starts => starts
  back := fun _ _ ends => ends
  short := fun _ => rfl

/-- A piece may stand for another one that is no shorter than the run where it has an end of the
other one's and all but its last character in front. -/
theorem Replaces.of_ends {run new opening closing : List α} {last : α} (opens : opening <+: new)
    (closes : closing <:+ new) (closed : closing <:+ opening ++ [last])
    (openingLong : run.length ≤ opening.length) (closingLong : run.length ≤ closing.length) :
    Replaces run new (opening ++ [last]) := by
  have back : ∀ part : List α, part.length ≤ run.length → part <:+ opening ++ [last] →
      part <:+ new := by
    intro part bound ends
    have inClosing := List.suffix_of_suffix_length_le ends closed (by omega)
    exact inClosing.trans closes
  refine ⟨fun found => ?_, fun part bound starts => ?_, back, fun short => ?_⟩
  · rcases List.infix_concat_iff.mp found with ends | inside
    · exact (back run (Nat.le_refl _) ends).isInfix
    · exact inside.trans opens.isInfix
  · have inOpening := List.prefix_of_prefix_length_le starts (List.prefix_append ..) (by omega)
    exact inOpening.trans opens
  · simp only [List.length_append] at short
    omega

variable {run : List α} {new old : τ → List α} {pieces : List τ}

private theorem prefix_flatMap (replaced : ∀ piece ∈ pieces, Replaces run (new piece) (old piece))
    {part : List α} (shorter : part.length < run.length) (starts : part <+: pieces.flatMap old) :
    part <+: pieces.flatMap new := by
  induction pieces generalizing part with
  | nil => simpa using starts
  | cons piece rest ih =>
    have here := replaced piece (by simp)
    simp only [List.flatMap_cons] at starts ⊢
    rcases Nat.le_total part.length (old piece).length with within | beyond
    · have inPiece := List.prefix_of_prefix_length_le starts (List.prefix_append ..) within
      exact List.prefix_append_of_prefix (here.front part (by omega) inPiece)
    · obtain ⟨later, rfl⟩ := List.prefix_of_prefix_length_le (List.prefix_append ..) starts beyond
      have bound : (old piece).length < run.length := by simp at shorter; omega
      rw [here.short bound]
      rw [List.prefix_append_right_inj] at starts ⊢
      exact ih (fun other member => replaced other (by simp [member]))
        (by simp at shorter; omega) starts

theorem infix_flatMap (replaced : ∀ piece ∈ pieces, Replaces run (new piece) (old piece))
    (found : run <:+: pieces.flatMap old) : run <:+: pieces.flatMap new := by
  induction pieces with
  | nil => simpa using found
  | cons piece rest ih =>
    have here := replaced piece (by simp)
    have later : ∀ other ∈ rest, Replaces run (new other) (old other) :=
      fun other member => replaced other (by simp [member])
    simp only [List.flatMap_cons] at found ⊢
    rcases List.infix_append_iff_ne_nil.mp found with
      inPiece | inRest | ⟨back, front, notEmpty, _, same, ends, starts⟩
    · exact List.infix_append_of_infix_left (here.inside inPiece)
    · exact List.infix_append_of_infix_right (ih later inRest)
    · have total : run.length = back.length + front.length := by simp [same]
      have positive := List.length_pos_iff.mpr notEmpty
      exact List.infix_append_iff.mpr (.inr (.inr ⟨back, front, same,
        here.back back (by omega) ends, prefix_flatMap later (by omega) starts⟩))

end ImageJobs.Occurrence
