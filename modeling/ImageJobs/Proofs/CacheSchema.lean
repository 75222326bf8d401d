import ImageJobs.ImageCache.Definition
import ImageJobs.Json.Pointer
import ImageJobs.Proofs.CacheDocument
import ImageJobs.Proofs.SchemaReading

namespace ImageJobs

namespace ImageCache

namespace Group

theorem completes : Completes ofSlots [.images] :=
  .of_require

theorem Field.forall_iff {holds : Field → Prop} :
    (∀ field, holds field) ↔ holds .images ∧ holds .nodeSelector := by
  refine ⟨fun all => ⟨all _, all _⟩, fun both field => ?_⟩
  cases field with
  | images => exact both.1
  | nodeSelector => exact both.2

theorem agree {value : Json} (unrepeated : value.Unrepeated) (notArray : value.isArray = false) :
    Agree groupSchema read value := by
  refine .record completes (fun _ => rfl) notArray unrepeated ?_ ?_
  · intro members _
    rw [List.forall_mem_singleton, List.forall_mem_singleton]
    exact Iff.rfl
  · intro members _
    simp only [List.forall_mem_cons, List.not_mem_nil, false_implies, implies_true, and_true,
      Field.forall_iff]
    refine and_congr (forall₂_congr fun images _ => ?_) (forall₂_congr fun selector _ => ?_)
    · exact Agree.list (fun _ => rfl) fun _ _ _ _ => .string none fun _ => rfl
    · exact Agree.textMap {} (fun _ => rfl) rfl

end Group

namespace PullSecret

theorem completes : Completes ofSlots [.name] :=
  .of_require

theorem Field.forall_iff {holds : Field → Prop} : (∀ field, holds field) ↔ holds .name := by
  refine ⟨fun all => all _, fun only field => ?_⟩
  cases field with
  | name => exact only

theorem agree {value : Json} (unrepeated : value.Unrepeated) (notArray : value.isArray = false) :
    Agree secretSchema read value := by
  refine .record completes (fun _ => rfl) notArray unrepeated ?_ ?_
  · intro members _
    rw [List.forall_mem_singleton, List.forall_mem_singleton]
    exact Iff.rfl
  · intro members _
    simp only [List.forall_mem_cons, List.not_mem_nil, false_implies, implies_true, and_true,
      Field.forall_iff]
    exact forall₂_congr fun name _ => Agree.string none fun _ => rfl

end PullSecret

namespace Spec

/-- No record of the specification is written as a list of its fields. -/
structure WellWritten (value : Json) : Prop where
  spec : value.isArray = false
  groups : ∀ groups, value.member? "cacheSpec" = some (.array groups) →
    ∀ group ∈ groups, group.isArray = false
  secrets : ∀ secrets, value.member? "imagePullSecrets" = some (.array secrets) →
    ∀ secret ∈ secrets, secret.isArray = false

theorem completes : Completes ofSlots [.cacheSpec] :=
  .of_require

theorem Field.forall_iff {holds : Field → Prop} :
    (∀ field, holds field) ↔ holds .cacheSpec ∧ holds .imagePullSecrets := by
  refine ⟨fun all => ⟨all _, all _⟩, fun both field => ?_⟩
  cases field with
  | cacheSpec => exact both.1
  | imagePullSecrets => exact both.2

theorem agree {value : Json} (unrepeated : value.Unrepeated) (written : WellWritten value) :
    Agree specSchema read value := by
  refine .record completes (fun _ => rfl) written.spec unrepeated ?_ ?_
  · intro members _
    rw [List.forall_mem_singleton, List.forall_mem_singleton]
    exact Iff.rfl
  · rintro members rfl
    simp only [List.forall_mem_cons, List.not_mem_nil, false_implies, implies_true, and_true,
      Field.forall_iff]
    refine and_congr (forall₂_congr fun held given => ?_) (forall₂_congr fun held given => ?_)
    · refine Agree.list (fun _ => rfl) ?_
      rintro groups rfl group member
      exact Group.agree ((unrepeated.of_lookup given).of_mem member)
        (written.groups groups given group member)
    · refine Agree.list (fun _ => rfl) ?_
      rintro secrets rfl secret member
      exact PullSecret.agree ((unrepeated.of_lookup given).of_mem member)
        (written.secrets secrets given secret member)

end Spec

namespace Status

/-- The status is not written as a list of its fields nor its phase as an object, and its times are
times. -/
structure WellWritten (value : Json) : Prop where
  status : value.isArray = false
  phase : ∀ phase, value.member? "phase" = some phase → ∀ members, phase ≠ .object members
  times : ∀ field text, field = Field.startTime ∨ field = Field.completionTime →
    value.member? field.name = some (.string text) →
      ∃ reading offset, Rfc3339 text.toList reading offset

theorem completes : Completes ofSlots [.phase] :=
  .of_require

/-- In the order of the names. -/
theorem Field.forall_iff {holds : Field → Prop} :
    (∀ field, holds field) ↔ holds .completionTime ∧ holds .message ∧ holds .phase ∧
      holds .reason ∧ holds .startTime := by
  refine ⟨fun all => ⟨all _, all _, all _, all _, all _⟩, fun each field => ?_⟩
  obtain ⟨completionHolds, messageHolds, phaseHolds, reasonHolds, startHolds⟩ := each
  cases field with
  | phase => exact phaseHolds
  | reason => exact reasonHolds
  | message => exact messageHolds
  | startTime => exact startHolds
  | completionTime => exact completionHolds

theorem agree_text (description : String) (value : Json) :
    Agree (optionalTextSchema description) (Reading.option Reading.string) value :=
  .option rfl fun notNull => .string none fun isNull => absurd isNull notNull

theorem agree_time (description : String) {value : Json}
    (valid : ∀ text, value = .string text → ∃ reading offset, Rfc3339 text.toList reading offset) :
    Agree (optionalTimeSchema description) (Reading.option Reading.instant) value :=
  .option rfl fun notNull => .instant (some "date-time") (fun isNull => absurd isNull notNull) valid

theorem agree {value : Json} (unrepeated : value.Unrepeated) (written : WellWritten value)
    (notNull : value ≠ .null) : Agree statusSchema read value := by
  refine .record completes (fun isNull => absurd isNull notNull) written.status unrepeated ?_ ?_
  · intro members _
    rw [List.forall_mem_singleton, List.forall_mem_singleton]
    exact Iff.rfl
  · rintro members rfl
    simp only [List.forall_mem_cons, List.not_mem_nil, false_implies, implies_true, and_true,
      Field.forall_iff]
    refine and_congr (forall₂_congr fun held given => ?_)
      (and_congr (forall₂_congr fun held _ => ?_) (and_congr (forall₂_congr fun held given => ?_)
        (and_congr (forall₂_congr fun held _ => ?_) (forall₂_congr fun held given => ?_))))
    · refine agree_time _ ?_
      rintro text rfl
      exact written.times .completionTime text (.inr rfl) given
    · exact agree_text _ held
    · have choices : Phase.all.map Phase.name =
          (Phase.all.map fun phase => (phase.name, phase)).map (·.1) := rfl
      rw [choices]
      exact Agree.choice (fun _ => rfl) (by simp [Phase.all]) (written.phase held given)
    · exact agree_text _ held
    · refine agree_time _ ?_
      rintro text rfl
      exact written.times .startTime text (.inl rfl) given

end Status

/-- The value names no member twice, writes no record as a list of its fields and no phase as an
object, and has proper metadata and times. -/
structure WellWritten (value : Json) : Prop where
  unrepeated : value.Unrepeated
  cache : value.isArray = false
  metadata : ∀ members, value = .object members →
    ∃ metadata data, members.lookup "metadata" = some metadata ∧ Meta.read metadata = .ok data
  spec : ∀ spec, value.member? "spec" = some spec → Spec.WellWritten spec
  status : ∀ status, value.member? "status" = some status → Status.WellWritten status

theorem completes : Completes ofSlots [.metadata, .spec] := by
  intro slots
  cases metadata : slots .metadata with
  | none => simp [ofSlots, Slots.require, metadata, bind, Except.bind]
  | some data =>
    cases given : slots .spec with
    | none => simp [ofSlots, Slots.require, metadata, given, bind, Except.bind]
    | some spec =>
      simp [ofSlots, Slots.require, metadata, given, bind, Except.bind, pure, Except.pure]

theorem Field.forall_iff {holds : Field → Prop} :
    (∀ field, holds field) ↔ holds .metadata ∧ holds .spec ∧ holds .status := by
  refine ⟨fun all => ⟨all _, all _, all _⟩, fun each field => ?_⟩
  cases field with
  | metadata => exact each.1
  | spec => exact each.2.1
  | status => exact each.2.2

theorem agree {value : Json} (written : WellWritten value) : Agree schema read value := by
  refine .record completes (fun _ => rfl) written.cache written.unrepeated ?_ ?_
  · intro members same
    obtain ⟨metadata, data, given, -⟩ := written.metadata members same
    have present : (members.lookup (Fields.name Field.metadata)).isSome :=
      Option.isSome_iff_exists.mpr ⟨metadata, given⟩
    rw [List.forall_mem_singleton, List.forall_mem_cons, List.forall_mem_singleton]
    exact (and_iff_right present).symm
  · rintro members rfl
    obtain ⟨metadata, data, given, read⟩ := written.metadata members rfl
    have valid : ∀ held, members.lookup (Fields.name Field.metadata) = some held →
        ∃ result, Fields.read Field.metadata held = .ok result := by
      intro held also
      obtain rfl := Option.some.inj (given.symm.trans also)
      exact ⟨data, read⟩
    simp only [List.forall_mem_cons, List.not_mem_nil, false_implies, implies_true, and_true,
      Field.forall_iff, iff_true_intro valid, true_and]
    refine and_congr (forall₂_congr fun held given => ?_) (forall₂_congr fun held given => ?_)
    · exact Spec.agree (written.unrepeated.of_lookup given) (written.spec held given)
    · exact Agree.option rfl
        (Status.agree (written.unrepeated.of_lookup given) (written.status held given))

theorem Group.admits_toJson (group : Group) : groupSchema.admits group.toJson = true := by
  unfold toJson
  split <;>
    simp [groupSchema, Schema.admits, Schema.admitsProperties, Json.texts, TextMap.toJson]

theorem PullSecret.admits_toJson (secret : PullSecret) :
    secretSchema.admits secret.toJson = true := by
  simp [secretSchema, textSchema, toJson, Schema.admits, Schema.admitsProperties]

theorem Spec.admits_toJson (spec : Spec) : specSchema.admits spec.toJson = true := by
  unfold toJson
  split <;>
    simp [specSchema, Schema.admits, Schema.admitsProperties, Group.admits_toJson,
      PullSecret.admits_toJson]

theorem Phase.admits_toJson (note : SchemaNote) (phase : Phase) :
    (Schema.string note none (all.map name)).admits phase.toJson = true := by
  cases phase <;> simp [Schema.admits, all, name, toJson]

theorem Status.admits_toJson (status : Status) : statusSchema.admits status.toJson = true := by
  simp [statusSchema, optionalTextSchema, optionalTimeSchema, toJson, Schema.admits,
    Schema.admitsProperties, Json.all_optional, Phase.admits_toJson]

theorem admits_toJson (cache : ImageCache) : schema.admits cache.toJson = true := by
  simp [schema, toJson, Schema.admits, Schema.admitsProperties, Json.all_optional,
    Spec.admits_toJson, Status.admits_toJson]

theorem definition_schema :
    definition.at? "/spec/versions/0/schema/openAPIV3Schema" = some schema.toJson := by
  rfl

/-- The schema in the definition of the type lets through just the documents that are read as
caches, and every document that is written from one. -/
theorem conforms_iff_reads {value : Json} (written : WellWritten value) :
    ∃ document, definition.at? "/spec/versions/0/schema/openAPIV3Schema" = some document ∧
      (document.Conforms value ↔ ∃ cache, read value = .ok cache) ∧
      ∀ cache : ImageCache, document.Conforms cache.toJson := by
  refine ⟨schema.toJson, definition_schema, ?_, fun cache => ?_⟩
  · rw [Schema.conforms_toJson_iff]
    exact agree written
  · rw [Schema.conforms_toJson_iff]
    exact admits_toJson cache

/-- A document with a member of no meaning, and with a time. -/
def failedDocument : Json :=
  .object [("metadata", .object []), ("note", .null),
    ("spec", .object [("cacheSpec", .array [.object [("images", .array [])]])]),
    ("status", .object [("phase", .string "Failed"),
      ("startTime", .string "1970-01-01T00:00:00Z")])]

theorem failedDocument_wellWritten : WellWritten failedDocument where
  unrepeated := by
    have images : (Json.object [("images", .array [])]).Unrepeated :=
      .object (by decide) (by simpa using .array (by simp))
    have spec : (Json.object
        [("cacheSpec", .array [.object [("images", .array [])]])]).Unrepeated :=
      .object (by decide) (by simpa using .array (by simpa using images))
    have status : (Json.object [("phase", .string "Failed"),
        ("startTime", .string "1970-01-01T00:00:00Z")]).Unrepeated :=
      .object (by decide) (by simpa using ⟨.string _, .string _⟩)
    refine .object (by decide) ?_
    simp only [List.forall_mem_cons, List.not_mem_nil, false_implies, implies_true, and_true]
    exact ⟨.object (by decide) (by simp), .null, spec, status⟩
  cache := rfl
  metadata := by
    rintro members ⟨rfl⟩
    exact ⟨.object [], {}, rfl, rfl⟩
  spec := by
    rintro spec ⟨rfl⟩
    refine ⟨rfl, ?_, ?_⟩
    · rintro groups ⟨rfl⟩ group member
      obtain rfl := List.mem_singleton.mp member
      rfl
    · rintro secrets ⟨⟩
  status := by
    rintro status ⟨rfl⟩
    refine ⟨rfl, ?_, ?_⟩
    · rintro phase ⟨rfl⟩ members
      simp
    · rintro field text (rfl | rfl) ⟨rfl⟩
      exact ⟨_, _, @rfc3339_write ⟨0, 0⟩ ⟨by decide, by decide, by decide⟩⟩

theorem failedDocument_conforms : WellWritten failedDocument ∧
    (∃ cache, read failedDocument = .ok cache) ∧
      ∃ document, definition.at? "/spec/versions/0/schema/openAPIV3Schema" = some document ∧
        document.Conforms failedDocument := by
  have reads : ∃ cache, read failedDocument = .ok cache := ⟨_, rfl⟩
  obtain ⟨document, found, agreed, -⟩ := conforms_iff_reads failedDocument_wellWritten
  exact ⟨failedDocument_wellWritten, reads, document, found, agreed.mpr reads⟩

end ImageCache

end ImageJobs
