import ImageJobs.Proofs.RecordShapes
import ImageJobs.Settings

namespace ImageJobs.Settings

open Reading (Answers NamesOnce known spread)

/-- What the fields hold without a document, in their declared order. -/
def standing : List (String × Json) :=
  [("busyboxImage", .string "busybox:1.36.1"),
    ("criClientImage", .string "docker.io/senthilrch/kubefledged-cri-client:v0.10.0"),
    ("serviceAccountName", .null), ("priorityClassName", .null),
    ("deleteJobHostNetwork", .bool false), ("criSocketPath", .null),
    ("cacheRoot", .string "/var/lib/kubefledged/cache")]

def names : List String :=
  standing.map (·.1)

def textOrNull (text : Option String) : Json :=
  text.elim .null .string

/-- The settings as a document that gives every field. -/
def written (settings : Settings) : List (String × Json) :=
  [("busyboxImage", .string settings.busyboxImage),
    ("criClientImage", .string settings.criClientImage),
    ("serviceAccountName", textOrNull settings.serviceAccountName),
    ("priorityClassName", textOrNull settings.priorityClassName),
    ("deleteJobHostNetwork", .bool settings.deleteJobHostNetwork),
    ("criSocketPath", textOrNull settings.criSocketPath),
    ("cacheRoot", .string settings.cacheRoot)]

/-- The members with the name of a field. -/
def given (members : List (String × Json)) : List (String × Json) :=
  members.filter fun member => names.contains member.1

/-- Each member with the name of a field has a value that the field has in some settings. -/
def WellTyped (members : List (String × Json)) : Prop :=
  ∀ member ∈ given members, ∃ settings : Settings, member ∈ settings.written

/-- Each field has the value that the members give it, and without one what it holds anyway. -/
def LaidOver (settings : Settings) (members : List (String × Json)) : Prop :=
  settings.written =
    standing.map fun entry => (entry.1, (members.lookup entry.1).getD entry.2)

/-- The first field that is given again has that name. -/
inductive GivenAgain (members : List (String × Json)) (name : String) : Prop where
  | intro {before after : List (String × Json)} {value : Json}
      (split : members = before ++ (name, value) :: after) (again : name ∈ (given before).map (·.1))
      (once : ((given before).map (·.1)).Nodup) : GivenAgain members name

/-- No two settings are written alike. -/
theorem written_injective {settings other : Settings} (same : settings.written = other.written) :
    settings = other := by
  have texts {text peer : Option String} (alike : textOrNull text = textOrNull peer) :
      text = peer := by
    cases text <;> cases peer <;> simp_all [textOrNull]
  simp only [written, List.cons.injEq, Prod.mk.injEq, Json.string.injEq, Json.bool.injEq, true_and,
    and_true] at same
  obtain ⟨busybox, client, account, priority, network, socket, root⟩ := same
  obtain ⟨_, _, _, _, _, _, _⟩ := settings
  obtain rfl := texts account
  obtain rfl := texts priority
  obtain rfl := texts socket
  subst busybox client network root
  rfl

namespace Field

instance : NamedApart Field where
  fieldNamed?_name field := by cases field <;> decide

/-- The value in a document that gives the field this value. -/
def toJson : (field : Field) → field.Value → Json
  | .busyboxImage | .criClientImage | .cacheRoot => .string
  | .serviceAccountName | .priorityClassName | .criSocketPath => textOrNull
  | .deleteJobHostNetwork => .bool

theorem read_toJson (field : Field) (held : field.Value) :
    Fields.read field (field.toJson held) = .ok held := by
  cases field with
  | busyboxImage | criClientImage | cacheRoot | deleteJobHostNetwork => rfl
  | serviceAccountName | priorityClassName | criSocketPath => cases held <;> rfl

end Field

/-- What the settings hold of each field. -/
def value (settings : Settings) : (field : Field) → field.Value
  | .busyboxImage => settings.busyboxImage
  | .criClientImage => settings.criClientImage
  | .serviceAccountName => settings.serviceAccountName
  | .priorityClassName => settings.priorityClassName
  | .deleteJobHostNetwork => settings.deleteJobHostNetwork
  | .criSocketPath => settings.criSocketPath
  | .cacheRoot => settings.cacheRoot

theorem value_ofSlots (slots : Slots Field) (field : Field) :
    (ofSlots slots).value field = (slots field).getD (default.value field) := by
  cases field <;> rfl

theorem written_eq_map (settings : Settings) :
    settings.written = (Fields.all (F := Field)).map fun field =>
      (Fields.name field, field.toJson (settings.value field)) :=
  rfl

theorem written_default : default.written = standing :=
  rfl

theorem mem_written_iff {settings : Settings} {field : Field} {held : Json} :
    (Fields.name field, held) ∈ settings.written ↔ held = field.toJson (settings.value field) := by
  rw [written_eq_map, List.mem_map]
  constructor
  · rintro ⟨other, -, same⟩
    obtain ⟨named, holds⟩ := Prod.mk.inj same
    obtain rfl := Reading.name_injective named
    exact holds.symm
  · rintro rfl
    exact ⟨field, by cases field <;> decide, rfl⟩

theorem contains_names_iff {name : String} :
    names.contains name = true ↔ ∃ field : Field, Fields.name field = name := by
  have all : names = (Fields.all (F := Field)).map Fields.name := rfl
  rw [List.contains_iff_mem, all, List.mem_map]
  constructor
  · rintro ⟨field, -, named⟩
    exact ⟨field, named⟩
  · rintro ⟨field, named⟩
    exact ⟨field, by cases field <;> decide, named⟩

variable {members : List (String × Json)}

theorem given_eq_known : given members = known Field members := by
  refine List.filter_congr fun member _ => ?_
  rw [Bool.eq_iff_iff, contains_names_iff, Reading.isSome_fieldNamed?_iff]

theorem nodup_given_iff : ((given members).map (·.1)).Nodup ↔ NamesOnce Field members := by
  rw [given_eq_known, Reading.nodup_known_iff]

theorem WellTyped.exists_held (typed : WellTyped members) {field : Field} {held : Json}
    (found : members.lookup (Fields.name field) = some held) :
    ∃ value, held = field.toJson value := by
  obtain ⟨front, rest, split⟩ := List.lookup_eq_some_iff.mp found
  have present : (Fields.name field, held) ∈ given members :=
    List.mem_filter.mpr ⟨by simp [split], contains_names_iff.mpr ⟨field, rfl⟩⟩
  obtain ⟨settings, listed⟩ := typed _ present
  exact ⟨_, mem_written_iff.mp listed⟩

/-- Every field that is given can be read. -/
theorem WellTyped.exists_filled (typed : WellTyped members) :
    ∃ slots : Slots Field, ∀ field,
      Filled field none (members.lookup (Fields.name field)) (slots field) := by
  have each : ∀ field : Field, ∃ slot,
      Filled field none (members.lookup (Fields.name field)) slot := by
    intro field
    cases found : members.lookup (Fields.name field) with
    | none => exact ⟨none, .absent⟩
    | some held =>
      obtain ⟨value, rfl⟩ := typed.exists_held found
      exact ⟨some value, .given (field.read_toJson value)⟩
  exact Classical.skolem.mp each

theorem laidOver_ofSlots (typed : WellTyped members) {slots : Slots Field}
    (filled : ∀ field, Filled field none (members.lookup (Fields.name field)) (slots field)) :
    (ofSlots slots).LaidOver members := by
  rw [LaidOver, ← written_default, written_eq_map, written_eq_map, List.map_map]
  refine List.map_congr_left fun field _ => Prod.ext rfl ?_
  have own := filled field
  simp only [Function.comp_apply, value_ofSlots]
  cases found : members.lookup (Fields.name field) with
  | none =>
    rw [found, Filled.absent_iff] at own
    rw [own, Option.getD_none, Option.getD_none]
  | some held =>
    obtain ⟨value, rfl⟩ := typed.exists_held found
    rw [found, Filled.given_iff] at own
    obtain ⟨again, read, reached⟩ := own
    rw [field.read_toJson, Except.ok.injEq] at read
    rw [reached, ← read, Option.getD_some, Option.getD_some]

theorem exists_read_object (typed : WellTyped members) (once : NamesOnce Field members) :
    ∃ settings, read (.object members) = .ok settings ∧ settings.LaidOver members := by
  obtain ⟨slots, filled⟩ := typed.exists_filled
  exact ⟨ofSlots slots,
    (Reading.record_object_reads_iff rfl).mpr ⟨once, slots, filled, rfl⟩,
    laidOver_ofSlots typed filled⟩

/-- The fields that the list has no value for keep their defaults. -/
theorem read_array_eq {items : List Json} (fits : items.length ≤ 7) :
    read (.array items) = read (.object (names.zip items)) :=
  Reading.record_array_eq_object rfl (by decide) fits fun _ _ => rfl

theorem read_again {name : String} (typed : WellTyped members) (again : GivenAgain members name) :
    read (.object members) = .error (.repeatedField name) := by
  obtain ⟨split, named, once⟩ := again
  subst split
  obtain ⟨member, kept, rfl⟩ := List.mem_map.mp named
  obtain ⟨present, field⟩ := List.mem_filter.mp kept
  obtain ⟨field, named⟩ := contains_names_iff.mp field
  rw [← named]
  have earlier : WellTyped _ := fun other listed => typed other (by
    rw [given, List.filter_append]
    exact List.mem_append_left _ listed)
  obtain ⟨slots, filled⟩ := earlier.exists_filled
  exact Reading.record_again rfl
    ((Reading.members_reads_iff rfl).mpr ⟨nodup_given_iff.mp once, filled⟩)
    (named ▸ List.mem_map_of_mem present) _

theorem exists_givenAgain (twice : ¬((given members).map (·.1)).Nodup) :
    ∃ name, GivenAgain members name := by
  obtain ⟨field, split, named, once⟩ :=
    Reading.exists_namedAgain (mt nodup_given_iff.mpr twice)
  refine ⟨Fields.name field, .intro split ?_ (nodup_given_iff.mpr once)⟩
  obtain ⟨member, present, same⟩ := List.mem_map.mp named
  exact List.mem_map.mpr
    ⟨member, List.mem_filter.mpr ⟨present, contains_names_iff.mpr ⟨field, same.symm⟩⟩, same⟩

/-- An object whose fields have values of their types is laid over what the fields hold anyway,
whatever the order of its members and whatever the other members are, and a list of the first values
is read as the object of these fields. If a field is given twice, the fault names the first that is.
What the fields hold anyway is what they hold in the default settings. -/
theorem document_laid_over_defaults :
    (∀ members, WellTyped members → ((given members).map (·.1)).Nodup →
      ∃ settings, settings.LaidOver members ∧
        ∀ others, (given others).Perm (given members) →
          Answers read (.object others) (.ok settings)) ∧
    (∀ items, items.length ≤ 7 → WellTyped (names.zip items) →
      ∃ settings, settings.LaidOver (names.zip items) ∧
        Answers read (.array items) (.ok settings) ∧
        Answers read (.object (names.zip items)) (.ok settings)) ∧
    (∀ members, WellTyped members → ¬((given members).map (·.1)).Nodup →
      (∃ name, GivenAgain members name) ∧
        ∀ name, GivenAgain members name →
          Answers read (.object members) (.error (.repeatedField name))) ∧
    default.written = standing := by
  refine ⟨fun members typed once => ?_, fun items fits typed => ?_, fun members typed twice => ?_,
    written_default⟩
  · obtain ⟨settings, reads, laid⟩ := exists_read_object typed (nodup_given_iff.mp once)
    refine ⟨settings, laid, fun others same => Reading.answers_ok ?_⟩
    rw [given_eq_known, given_eq_known] at same
    exact (Reading.record_object_congr rfl same).mpr reads
  · have once : NamesOnce Field (spread (Fields.all (F := Field)) items) :=
      Reading.namesOnce_spread (by decide) items
    obtain ⟨settings, reads, laid⟩ := exists_read_object typed once
    exact ⟨settings, laid, Reading.answers_ok ((read_array_eq fits).trans reads),
      Reading.answers_ok reads⟩
  · refine ⟨exists_givenAgain twice, fun name again => ?_⟩
    exact Reading.answers_error (read_again typed again) rfl

theorem wellTyped_of_subset {settings : Settings} (listed : given members ⊆ settings.written) :
    WellTyped members :=
  fun _ present => ⟨settings, listed present⟩

/-- Three fields, one of them empty and one null, among members of no meaning. -/
def mixedMembers : List (String × Json) :=
  [("note", .brokenObject [("busyboxImage", .null)]), ("deleteJobHostNetwork", .bool true),
    ("criSocketPath", .null), ("note", .array [.unreadable]), ("busyboxImage", .string "")]

/-- Members in an order of their own, a list of all fields, and a field that is given twice. -/
theorem mixed_members_laid_over :
    let mixed : Settings := { busyboxImage := "", deleteJobHostNetwork := true }
    let full : Settings :=
      { busyboxImage := "busybox:1", criClientImage := "client:2", serviceAccountName := some ""
        deleteJobHostNetwork := true, criSocketPath := some "/run/cri.sock", cacheRoot := "/mnt" }
    WellTyped mixedMembers ∧ ((given mixedMembers).map (·.1)).Nodup ∧
      Answers read (.object mixedMembers.reverse) (.ok mixed) ∧
      Answers read
        (.array [.string "busybox:1", .string "client:2", .string "", .null, .bool true,
          .string "/run/cri.sock", .string "/mnt"]) (.ok full) ∧
      Answers read (.object (mixedMembers ++ mixedMembers))
        (.error (.repeatedField "deleteJobHostNetwork")) := by
  intro mixed full
  obtain ⟨object, list, again, -⟩ := document_laid_over_defaults
  have typed : WellTyped mixedMembers := by
    apply @wellTyped_of_subset _ mixed
    simp [given, mixedMembers, names, standing, written, textOrNull, mixed]
  have once : ((given mixedMembers).map (·.1)).Nodup := by decide
  refine ⟨typed, once, ?_, ?_, ?_⟩
  · obtain ⟨settings, laid, answers⟩ := object mixedMembers typed once
    obtain rfl : settings = mixed := written_injective laid
    exact answers _ ((List.reverse_perm _).filter _)
  · obtain ⟨settings, laid, answers, -⟩ := list
      [.string "busybox:1", .string "client:2", .string "", .null, .bool true,
        .string "/run/cri.sock", .string "/mnt"]
      (by decide) (@wellTyped_of_subset _ full (List.Subset.refl full.written))
    obtain rfl : settings = full := written_injective laid
    exact answers
  · have typedTwice : WellTyped (mixedMembers ++ mixedMembers) := by
      intro member listed
      rw [given, List.filter_append] at listed
      exact typed member ((List.mem_append.mp listed).elim id id)
    have twice : ¬((given (mixedMembers ++ mixedMembers)).map (·.1)).Nodup := by decide
    have split : mixedMembers ++ mixedMembers =
        (mixedMembers ++ mixedMembers.take 1) ++
          ("deleteJobHostNetwork", .bool true) :: mixedMembers.drop 2 := rfl
    exact (again _ typedTwice twice).2 _ (.intro split (by decide) (by decide))

end ImageJobs.Settings
