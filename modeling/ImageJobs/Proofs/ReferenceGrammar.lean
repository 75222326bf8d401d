import ImageJobs.Image.Reference
import ImageJobs.Proofs.Occurrence

/-! References by their grammar: a path, then a tag behind a colon, then a digest behind an at sign.
The judgement by runs of characters agrees with the parts. Where the path holds neither mark, the
first colon is that of the tag or of the digest, and no digest can be taken for the latest tag. -/

namespace ImageJobs

/-- The text holds neither the mark of a tag nor that of a digest. -/
structure Unmarked (text : String) : Prop where
  noColon : ':' ∉ text.toList
  noAt : '@' ∉ text.toList

theorem Text.mentions_append {front text : String} (needle : String) {start : Char}
    {run : List Char} (starts : needle.toList = start :: run) (absent : start ∉ front.toList) :
    mentions (front ++ text) needle = mentions text needle := by
  rw [Bool.eq_iff_iff, mentions_iff, mentions_iff, starts, String.toList_append,
    Occurrence.cons_infix_append_iff absent]

namespace ReferenceKind

theorem ofImage_eq_latest_iff {image : String} :
    ofImage image = .latest ↔ ":latest".toList <:+: image.toList := by
  rw [← Text.mentions_iff]
  unfold ofImage
  split
  · rename_i found
    exact iff_of_true rfl found
  · rename_i absent
    refine iff_of_false ?_ absent
    split <;> exact ReferenceKind.noConfusion

/-- At a colon the latest tag either begins there or is to be found further on. -/
theorem latest_infix_colon_iff {rest : List Char} :
    ":latest".toList <:+: ':' :: rest ↔
      "latest".toList <+: rest ∨ ":latest".toList <:+: rest := by
  have split : ":latest".toList = ':' :: "latest".toList := rfl
  rw [split, List.infix_cons_iff, List.cons_prefix_cons]
  simp

theorem ofImage_eq_implicitLatest_iff {image : String} :
    ofImage image = .implicitLatest ↔ ':' ∉ image.toList ∧ ¬"@sha".toList <:+: image.toList := by
  have colon : ':' ∈ image.toList ↔ Text.mentions image ":" = true := by
    rw [Text.mentions_iff]
    exact (List.singleton_infix_iff ':' image.toList).symm
  rw [colon, ← Text.mentions_iff]
  unfold ofImage
  split
  · rename_i found
    have marked := colon.mp ((Text.mentions_iff.mp found).subset (by simp))
    simp [marked]
  · simp

theorem isMutableImage_iff {image : String} :
    isMutableImage image = true ↔ ofImage image = .latest ∨ ofImage image = .implicitLatest := by
  unfold isMutableImage
  cases ofImage image <;> decide

/-- What stands in front of a reference does not matter as long as it holds no mark. -/
theorem ofImage_append {front : String} (plain : Unmarked front) (image : String) :
    ofImage (front ++ image) = ofImage image := by
  simp only [ofImage, Text.mentions_append ":latest" rfl plain.noColon,
    Text.mentions_append ":" rfl plain.noColon,
    Text.mentions_append "@sha" rfl plain.noAt]

/-- A colon makes a reference one with a tag, whatever the colon is for. -/
theorem ofImage_ne_implicitLatest {image : String} (marked : ':' ∈ image.toList) :
    ofImage image ≠ .implicitLatest :=
  fun bare => (ofImage_eq_implicitLatest_iff.mp bare).1 marked

end ReferenceKind

/-- A digest by an algorithm of the `sha` family. -/
structure Digest where
  /-- The name of the algorithm but for its first three letters. -/
  variant : String
  value : String
  noColon : ':' ∉ variant.toList
  hexadecimal : ∀ char ∈ value.toList, char.isHexDigit = true

def Digest.text (digest : Digest) : String :=
  "@sha" ++ digest.variant ++ ":" ++ digest.value

/-- A reference without a registry's port. -/
structure Reference where
  path : String
  tag : Option String := none
  digest : Option Digest := none
  unmarkedPath : Unmarked path
  unmarkedTag : ∀ text, tag = some text → Unmarked text

namespace Reference

def tagText : Option String → String
  | none => ""
  | some tag => ":" ++ tag

def digestText : Option Digest → String
  | none => ""
  | some digest => digest.text

def text (reference : Reference) : String :=
  reference.path ++ tagText reference.tag ++ digestText reference.digest

/-- There is neither a tag nor a digest. -/
def Bare (reference : Reference) : Prop :=
  reference.tag = none ∧ reference.digest = none

/-- There is a tag that begins like the latest one. -/
def TaggedLatest (reference : Reference) : Prop :=
  ∃ tag, reference.tag = some tag ∧ "latest".toList <+: tag.toList

def withDigest (reference : Reference) (digest : Digest) : Reference :=
  { reference with digest := some digest }

end Reference

/-- The one colon of a digest stands in front of hexadecimal digits. -/
theorem Digest.not_latest_infix (digest : Digest) :
    ¬":latest".toList <:+: digest.text.toList := by
  have front : ':' ∉ ("@sha" ++ digest.variant).toList := by
    simp [digest.noColon]
  have line : digest.text.toList =
      ("@sha" ++ digest.variant).toList ++ ':' :: digest.value.toList := by
    simp [Digest.text]
  rw [line]
  intro found
  have atColon := (Occurrence.cons_infix_append_iff front).mp found
  rcases ReferenceKind.latest_infix_colon_iff.mp atColon with starts | inside
  · exact absurd (digest.hexadecimal 'l' (starts.subset (by simp))) (by decide)
  · exact absurd (digest.hexadecimal ':' (inside.subset (by simp))) (by decide)

namespace Reference

theorem not_latest_infix_digestText (digest : Option Digest) :
    ¬":latest".toList <:+: (digestText digest).toList := by
  cases digest with
  | none => decide
  | some digest => exact digest.not_latest_infix

/-- The digest behind a tag adds nothing to what the tag begins with. -/
theorem latest_starts_iff (tag : String) (digest : Option Digest) :
    "latest".toList <+: tag.toList ++ (digestText digest).toList ↔
      "latest".toList <+: tag.toList := by
  cases digest with
  | none => simp [digestText]
  | some digest =>
    have line : (digestText (some digest)).toList =
        '@' :: ("sha" ++ digest.variant ++ ":" ++ digest.value).toList := by
      simp [digestText, Digest.text]
    rw [line]
    exact Occurrence.prefix_across_iff (by simp)

theorem ofImage_text_eq (reference : Reference) :
    ReferenceKind.ofImage reference.text =
      ReferenceKind.ofImage (tagText reference.tag ++ digestText reference.digest) := by
  rw [text, String.append_assoc, ReferenceKind.ofImage_append reference.unmarkedPath]

theorem ofImage_text_eq_latest_iff (reference : Reference) :
    ReferenceKind.ofImage reference.text = .latest ↔ reference.TaggedLatest := by
  rw [ofImage_text_eq, ReferenceKind.ofImage_eq_latest_iff, String.toList_append]
  unfold TaggedLatest
  cases tagged : reference.tag with
  | none => simpa [tagText] using not_latest_infix_digestText reference.digest
  | some tag =>
    have noColon := (reference.unmarkedTag tag tagged).noColon
    have line : (tagText (some tag)).toList = ':' :: tag.toList := by
      simp [tagText]
    have behind : ¬":latest".toList <:+: tag.toList ++ (digestText reference.digest).toList :=
      fun found => not_latest_infix_digestText reference.digest
        ((Occurrence.cons_infix_append_iff noColon).mp found)
    rw [line, List.cons_append, ReferenceKind.latest_infix_colon_iff, latest_starts_iff,
      or_iff_left behind]
    simp

theorem ofImage_text_eq_implicitLatest_iff (reference : Reference) :
    ReferenceKind.ofImage reference.text = .implicitLatest ↔ reference.Bare := by
  rw [ofImage_text_eq]
  unfold Bare
  cases reference.tag with
  | none =>
    cases reference.digest with
    | none => decide
    | some digest =>
      have marked : ':' ∈ (tagText none ++ digestText (some digest)).toList := by
        simp [tagText, digestText, Digest.text]
      exact iff_of_false (ReferenceKind.ofImage_ne_implicitLatest marked) (by simp)
  | some tag =>
    have marked : ':' ∈ (tagText (some tag) ++ digestText reference.digest).toList := by
      simp [tagText]
    exact iff_of_false (ReferenceKind.ofImage_ne_implicitLatest marked) (by simp)

end Reference

/-- The kind of a reference without a registry's port is that of its parts: the implied latest one
without a tag and a digest, the latest one with a tag that begins like it, and pinned in all other
cases. A digest never hides such a tag, and where a reference with a digest can change it is the tag
that makes it change. -/
theorem kind_follows_parts (reference : Reference) :
    (ReferenceKind.ofImage reference.text = .implicitLatest ↔ reference.Bare) ∧
    (ReferenceKind.ofImage reference.text = .latest ↔ reference.TaggedLatest) ∧
    (ReferenceKind.ofImage reference.text = .pinned ↔
      ¬reference.Bare ∧ ¬reference.TaggedLatest) ∧
    (∀ digest, ReferenceKind.ofImage (reference.withDigest digest).text = .latest ↔
      ReferenceKind.ofImage reference.text = .latest) ∧
    (∀ digest, isMutableImage (reference.withDigest digest).text = true ↔
      reference.TaggedLatest) := by
  have implied := Reference.ofImage_text_eq_implicitLatest_iff reference
  have latest := Reference.ofImage_text_eq_latest_iff reference
  have pinned : ReferenceKind.ofImage reference.text = .pinned ↔
      ¬reference.Bare ∧ ¬reference.TaggedLatest := by
    rw [← implied, ← latest]
    cases ReferenceKind.ofImage reference.text <;> decide
  have sealed (digest : Digest) :
      ReferenceKind.ofImage (reference.withDigest digest).text = .latest ↔
        reference.TaggedLatest :=
    Reference.ofImage_text_eq_latest_iff (reference.withDigest digest)
  refine ⟨implied, latest, pinned, fun digest => (sealed digest).trans latest.symm,
    fun digest => ?_⟩
  have notBare : ¬(reference.withDigest digest).Bare := fun bare => nomatch bare.2
  rw [ReferenceKind.isMutableImage_iff, sealed, Reference.ofImage_text_eq_implicitLatest_iff,
    or_iff_left notBare]

/-- A digest leaves a tag that begins like the latest one what it is, and pins a reference that has
no tag. -/
theorem digest_pins_untagged_alone :
    let digest : Digest :=
      { variant := "256", value := "0d17", noColon := by simp
        hexadecimal := by simp [Char.isHexDigit] }
    let untagged : Reference :=
      { path := "ghcr.io/org/app", unmarkedPath := ⟨by simp, by simp⟩, unmarkedTag := by simp }
    let tagged : Reference :=
      { untagged with
        tag := some "latest-rc1", unmarkedTag := by rintro _ ⟨⟩; exact ⟨by simp, by simp⟩ }
    (tagged.withDigest digest).text = "ghcr.io/org/app:latest-rc1@sha256:0d17" ∧
      ReferenceKind.ofImage (tagged.withDigest digest).text = .latest ∧
      ReferenceKind.ofImage (untagged.withDigest digest).text = .pinned ∧
      ReferenceKind.ofImage untagged.text = .implicitLatest := by
  intro digest untagged tagged
  have latest : tagged.TaggedLatest := ⟨"latest-rc1", rfl, by decide⟩
  have notBare : ¬(untagged.withDigest digest).Bare := by
    rintro ⟨-, given⟩
    cases given
  have notLatest : ¬(untagged.withDigest digest).TaggedLatest := by
    rintro ⟨tag, given, -⟩
    cases given
  obtain ⟨implied, -⟩ := kind_follows_parts untagged
  obtain ⟨-, -, pinned, -⟩ := kind_follows_parts (untagged.withDigest digest)
  obtain ⟨-, ofTag, -, sealed, -⟩ := kind_follows_parts tagged
  exact ⟨by decide +kernel, (sealed digest).mpr (ofTag.mpr latest),
    pinned.mpr ⟨notBare, notLatest⟩, implied.mpr ⟨rfl, rfl⟩⟩

end ImageJobs
