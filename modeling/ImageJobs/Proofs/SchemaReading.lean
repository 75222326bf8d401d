import ImageJobs.Proofs.OpenApiSchema
import ImageJobs.Proofs.TimeTexts

/-! Readers and schemas that agree: the schema admits a value just when the reader reads it. There
is one lemma a reader, for texts, times, choices, lists and maps, and `Agree.record` puts records
together from the schemas of their fields. -/

namespace ImageJobs

def Json.isArray : Json → Bool
  | .array _ => true
  | _ => false

/-- The schema admits the value just when it can be read. -/
def Agree {α : Type} (schema : Schema) (read : Reading α) (value : Json) : Prop :=
  schema.admits value = true ↔ ∃ result, read value = .ok result

theorem exists_ok_both {α β γ : Type} {first : Except Fault α} {second : Except Fault β}
    {join : α → β → γ} :
    (∃ result, (do return join (← first) (← second)) = Except.ok (ε := Fault) result) ↔
      (∃ held, first = .ok held) ∧ ∃ other, second = .ok other := by
  cases first with
  | error fault => simp [bind, Except.bind]
  | ok held =>
    cases second with
    | error fault => simp [bind, Except.bind]
    | ok other => simp [bind, Except.bind, pure, Except.pure]

theorem not_ok_of_then_error {α β : Type} (first : Except Fault α) (fault : Fault) :
    ¬∃ result : β, (do let _ ← first; .error fault) = Except.ok (ε := Fault) result := by
  cases first with
  | error earlier => simp [bind, Except.bind]
  | ok held => simp [bind, Except.bind]

namespace Agree

variable {α : Type} {schema : Schema} {read : Reading α} {note : SchemaNote} {value : Json}

theorem iff (agree : Agree schema read value) :
    schema.admits value = true ↔ ∃ result, read value = .ok result :=
  agree

theorem refused (unadmitted : schema.admits value = false) {fault : Fault}
    (unread : read value = .error fault) : Agree schema read value := by
  refine iff_of_false (Bool.eq_false_iff.mp unadmitted) ?_
  rintro ⟨result, success⟩
  rw [unread] at success
  cases success

theorem null (notNull : schema.note.nullable = false) {fault : Fault}
    (unread : read .null = .error fault) : Agree schema read .null :=
  .refused (by rw [Schema.admits_null, notNull]) unread

theorem string (format : Option String) (notNull : value = .null → note.nullable = false) :
    Agree (.string note format []) Reading.string value := by
  cases value with
  | string text => exact iff_of_true (by simp [Schema.admits]) ⟨text, rfl⟩
  | null => exact .null (notNull rfl) rfl
  | _ => exact .refused (by simp [Schema.admits]) rfl

theorem option (nullable : schema.note.nullable = true)
    (other : value ≠ .null → Agree schema read value) :
    Agree schema (Reading.option read) value := by
  by_cases isNull : value = .null
  · subst isNull
    exact iff_of_true (by rw [Schema.admits_null, nullable]) ⟨none, rfl⟩
  · unfold Agree
    rw [Reading.option_eq isNull, (other isNull).iff]
    constructor
    · rintro ⟨result, success⟩
      exact ⟨some result, by rw [success]; rfl⟩
    · rintro ⟨result, success⟩
      cases reached : read value with
      | error fault =>
        rw [reached] at success
        cases success
      | ok held => exact ⟨held, rfl⟩

/-- A time has to be one of RFC 3339, which the schema leaves to the format. -/
theorem instant (format : Option String) (notNull : value = .null → note.nullable = false)
    (valid : ∀ text, value = .string text → ∃ reading offset, Rfc3339 text.toList reading offset) :
    Agree (.string note format []) Reading.instant value := by
  cases value with
  | string text =>
    obtain ⟨reading, offset, time⟩ := valid text rfl
    refine iff_of_true (by simp [Schema.admits]) ⟨reading.instant offset, ?_⟩
    simp only [Reading.instant, Instant.parse, ofChars_of_rfc3339 time]
  | null => exact .null (notNull rfl) rfl
  | _ => exact .refused (by simp [Schema.admits]) rfl

theorem items {values : List Json} (each : ∀ value ∈ values, Agree schema read value) :
    values.all schema.admits = true ↔ ∃ results, Reading.items read values = .ok results := by
  induction values with
  | nil => exact iff_of_true rfl ⟨[], rfl⟩
  | cons first rest ih =>
    obtain ⟨here, later⟩ := List.forall_mem_cons.mp each
    rw [List.all_cons, Bool.and_eq_true, here.iff, ih later]
    exact exists_ok_both.symm

theorem list (notNull : value = .null → note.nullable = false)
    (each : ∀ values, value = .array values → ∀ item ∈ values, Agree schema read item) :
    Agree (.array note schema) (Reading.list read) value := by
  cases value with
  | array values =>
    unfold Agree
    rw [Schema.admits]
    exact items (each values rfl)
  | null => exact .null (notNull rfl) rfl
  | _ => exact .refused (by simp [Schema.admits]) rfl

theorem entries (inner : SchemaNote) (notNull : inner.nullable = false)
    (members : List (String × Json)) :
    (members.all fun member => (Schema.string inner none []).admits member.2) = true ↔
      ∃ results, Reading.entries members = .ok results := by
  induction members with
  | nil => exact iff_of_true rfl ⟨[], rfl⟩
  | cons first rest ih =>
    have here : Agree (.string inner none []) Reading.string first.2 :=
      .string none fun _ => notNull
    rw [List.all_cons, Bool.and_eq_true, here.iff, ih]
    exact exists_ok_both.symm

theorem textMap (inner : SchemaNote) (notNull : value = .null → note.nullable = false)
    (textNotNull : inner.nullable = false) :
    Agree (.map note (.string inner none [])) Reading.textMap value := by
  cases value with
  | object members =>
    unfold Agree
    rw [Schema.admits, entries inner textNotNull]
    simp only [Reading.textMap]
    cases Reading.entries members with
    | error fault => simp [Except.map]
    | ok results => simp [Except.map]
  | brokenObject members =>
    exact iff_of_false (by simp [Schema.admits]) (not_ok_of_then_error (Reading.entries members) _)
  | null => exact .null (notNull rfl) rfl
  | _ => exact .refused (by simp [Schema.admits]) rfl

/-- The reader takes an object with the name of a choice too, which the schema does not admit. -/
theorem choice {choices : List (String × α)} (notNull : value = .null → note.nullable = false)
    (nonempty : choices ≠ []) (noObject : ∀ members, value ≠ .object members) :
    Agree (.string note none (choices.map (·.1))) (Reading.choice choices) value := by
  cases value with
  | string name =>
    have listed : (Schema.string note none (choices.map (·.1))).admits (.string name) = true ↔
        name ∈ choices.map (·.1) := by
      simp [Schema.admits, nonempty]
    unfold Agree
    rw [listed]
    simp only [Reading.choice, Reading.chosen]
    cases found : choices.lookup name with
    | none =>
      refine iff_of_false (fun member => ?_) (by simp)
      obtain ⟨choice, present, rfl⟩ := List.mem_map.mp member
      exact absurd rfl (bne_iff_ne.mp (List.lookup_eq_none_iff.mp found choice present))
    | some chosen =>
      refine iff_of_true ?_ ⟨chosen, rfl⟩
      by_contra unlisted
      rw [lookup_eq_none_of_not_mem unlisted] at found
      cases found
  | object members => exact absurd rfl (noObject members)
  | null => exact .null (notNull rfl) rfl
  | number numeral =>
    refine iff_of_false (by simp [Schema.admits]) ?_
    rintro ⟨result, success⟩
    simp only [Reading.choice, Json.found?] at success
    cases reached : numeral.number?.map Found.number <;> simp [reached] at success
  | _ => exact .refused (by simp [Schema.admits]) rfl

end Agree

theorem Schema.admitsProperties_iff {properties : List (String × Schema)}
    {members : List (String × Json)} : admitsProperties properties members = true ↔
      ∀ property ∈ properties, ∀ member ∈ members, member.1 = property.1 →
        property.2.admits member.2 = true := by
  induction properties with
  | nil => simp [admitsProperties]
  | cons first rest ih =>
    obtain ⟨name, schema⟩ := first
    rw [admitsProperties, Bool.and_eq_true, ih, List.forall_mem_cons, List.all_eq_true]
    refine and_congr_left fun _ => forall₂_congr fun member _ => ?_
    by_cases same : member.1 = name <;> simp [same]

/-- A record admits an object by its members, wherever they stand. -/
theorem Schema.admits_record_iff {note : SchemaNote} {properties : List (String × Schema)}
    {required : List String} {members : List (String × Json)} (once : (members.map (·.1)).Nodup) :
    (Schema.record note properties required).admits (.object members) = true ↔
      (∀ name ∈ required, (members.lookup name).isSome) ∧
        ∀ property ∈ properties, ∀ value, members.lookup property.1 = some value →
          property.2.admits value = true := by
  rw [admits, Bool.and_eq_true, admitsProperties_iff, List.all_eq_true]
  refine and_congr (forall₂_congr fun name _ => ?_) (forall₂_congr fun property _ => ?_)
  · rw [isSome_lookup_iff, List.any_eq_true]
    simp
  · simp only [lookup_eq_some_iff_mem once]
    constructor
    · intro each value present
      exact each (property.1, value) present rfl
    · rintro each ⟨name, value⟩ present rfl
      exact each value present

variable {F : Type} [Fields F]

/-- The record is complete just when it has the fields that are needed. -/
def Completes {α : Type} (finish : Slots F → Except Fault α) (needed : List F) : Prop :=
  ∀ slots : Slots F, (∃ result, finish slots = .ok result) ↔ ∀ field ∈ needed, (slots field).isSome

theorem Completes.of_require {α : Type} {field : F} {build : Fields.Value field → Slots F → α} :
    Completes (fun slots => do return build (← slots.require field) slots) [field] := by
  intro slots
  rw [List.forall_mem_singleton]
  cases given : slots field with
  | none => simp [Slots.require, given, bind, Except.bind]
  | some held => simp [Slots.require, given, bind, Except.bind, pure, Except.pure]

variable [DecidableEq F] [NamedApart F]

/-- An object is read as a record by its members, wherever they stand. -/
theorem Reading.record_succeeds_iff {α : Type} {form : RecordForm}
    {finish : Slots F → Except Fault α} {needed : List F} {members : List (String × Json)}
    (once : (members.map (·.1)).Nodup) (completes : Completes finish needed) :
    (∃ result, record form finish (.object members) = .ok result) ↔
      (∀ field ∈ needed, (members.lookup (Fields.name field)).isSome) ∧
        ∀ (field : F) value, members.lookup (Fields.name field) = some value →
          ∃ held, Fields.read field value = .ok held := by
  constructor
  · rintro ⟨result, success⟩
    obtain ⟨slots, filled, finished⟩ := (record_object_ok_iff once).mp success
    refine ⟨fun field member => ?_, fun field value given => ?_⟩
    · have present := (completes slots).mp ⟨result, finished⟩ field member
      exact (filled field).isSome_iff.mp present
    · have holds := filled field
      rw [given, Filled.given_iff] at holds
      obtain ⟨held, read, -⟩ := holds
      exact ⟨held, read⟩
  · rintro ⟨present, reads⟩
    have each : ∀ field : F, ∃ slot,
        Filled field none (members.lookup (Fields.name field)) slot := by
      intro field
      cases given : members.lookup (Fields.name field) with
      | none => exact ⟨none, .absent⟩
      | some value =>
        obtain ⟨held, read⟩ := reads field value given
        exact ⟨some held, .given read⟩
    obtain ⟨slots, filled⟩ := Classical.skolem.mp each
    have complete : ∀ field ∈ needed, (slots field).isSome :=
      fun field member => (filled field).isSome_iff.mpr (present field member)
    obtain ⟨result, finished⟩ := (completes slots).mpr complete
    exact ⟨result, (record_object_ok_iff once).mpr ⟨slots, filled, finished⟩⟩

/-- A record agrees with its schema if they ask for the same members and agree on each of those that
the value has. -/
theorem Agree.record {α : Type} {form : RecordForm} {finish : Slots F → Except Fault α}
    {needed : List F} {note : SchemaNote} {properties : List (String × Schema)}
    {required : List String} {value : Json} (completes : Completes finish needed)
    (notNull : value = .null → note.nullable = false) (notArray : value.isArray = false)
    (unrepeated : value.Unrepeated)
    (requires : ∀ members, value = .object members →
      ((∀ name ∈ required, (members.lookup name).isSome) ↔
        ∀ field ∈ needed, (members.lookup (Fields.name field)).isSome))
    (fields : ∀ members, value = .object members →
      ((∀ property ∈ properties, ∀ held, members.lookup property.1 = some held →
          property.2.admits held = true) ↔
        ∀ (field : F) held, members.lookup (Fields.name field) = some held →
          ∃ result, Fields.read field held = .ok result)) :
    Agree (.record note properties required) (Reading.record form finish) value := by
  cases value with
  | object members =>
    have once := unrepeated.names_nodup
    unfold Agree
    rw [Schema.admits_record_iff once, requires members rfl, fields members rfl,
      Reading.record_succeeds_iff once completes]
  | array values => cases notArray
  | null => exact .null (notNull rfl) rfl
  | brokenObject members =>
    exact iff_of_false (by simp [Schema.admits])
      (not_ok_of_then_error (Reading.members (F := F) form members .empty) _)
  | _ => exact .refused (by simp [Schema.admits]) rfl

end ImageJobs
