import ImageJobs.ImageCache.Schema
import ImageJobs.Proofs.RecordMembers

/-! What the written document of a schema says of a value, keyword by keyword, as OpenAPI defines
the keywords. `conforms_toJson_iff` says that it is what the schema admits, so that the document
that the cluster is given and the schema that the program keeps can stand for each other. -/

namespace ImageJobs

namespace Json

/-- The name that OpenAPI has for the type of the value, as far as a schema asks for it here. -/
def typeName? : Json → Option String
  | .string _ => some "string"
  | .array _ => some "array"
  | .object _ => some "object"
  | _ => none

/-- The value conforms to the schema that the document states. A member that the schema does not
name is free, unless the schema states what additional members are. -/
inductive Conforms : Json → Json → Prop where
  | null {schema : Json} (nullable : schema.member? "nullable" = some (.bool true)) :
      Conforms schema .null
  | string {schema : Json} {text : String} (type : schema.member? "type" = some (.string "string"))
      (enum : ∀ choices, schema.member? "enum" = some (.array choices) → .string text ∈ choices) :
      Conforms schema (.string text)
  | array {schema : Json} {values : List Json}
      (type : schema.member? "type" = some (.string "array"))
      (items : ∀ each, schema.member? "items" = some each → ∀ value ∈ values, Conforms each value) :
      Conforms schema (.array values)
  | object {schema : Json} {members : List (String × Json)}
      (type : schema.member? "type" = some (.string "object"))
      (required : ∀ names, schema.member? "required" = some (.array names) →
        ∀ name, .string name ∈ names → ∃ member ∈ members, member.1 = name)
      (properties : ∀ known, schema.member? "properties" = some (.object known) →
        ∀ property ∈ known, ∀ member ∈ members, member.1 = property.1 →
          Conforms property.2 member.2)
      (additional : ∀ each, schema.member? "additionalProperties" = some each →
        ∀ member ∈ members,
          (∀ known, schema.member? "properties" = some (.object known) →
            member.1 ∉ known.map (·.1)) → Conforms each member.2) :
      Conforms schema (.object members)

end Json

theorem SchemaNote.lookup_members (note : SchemaNote) (name : String) :
    note.members.lookup name =
      if name = "description" then note.description.map .string
      else if name = "title" then note.title.map .string
      else if name = "nullable" ∧ note.nullable = true then some (.bool true) else none := by
  simp only [members, List.lookup_append, Json.lookup_optional]
  by_cases description : name = "description"
  · subst description
    cases note.description <;> cases note.nullable <;> simp [List.lookup_cons]
  by_cases title : name = "title"
  · subst title
    cases note.title <;> cases note.nullable <;> simp [List.lookup_cons]
  by_cases nullable : name = "nullable"
  · subst nullable
    cases note.nullable <;> simp
  · cases note.nullable <;> simp [description, title, nullable, lookup_cons_ne nullable]

namespace Schema

open Json (Conforms)

def typeName : Schema → String
  | .string .. => "string"
  | .array .. => "array"
  | .map .. | .record .. => "object"

theorem member?_type (schema : Schema) :
    schema.toJson.member? "type" = some (.string schema.typeName) := by
  cases schema with
  | string note format choices =>
    cases choices <;>
      simp [toJson, Json.member?, typeName, SchemaNote.lookup_members, List.lookup_append,
        Json.lookup_optional, List.lookup_cons]
  | array | map | record =>
    simp [toJson, Json.member?, typeName, SchemaNote.lookup_members, List.lookup_append,
      List.lookup_cons]

theorem member?_nullable (schema : Schema) :
    schema.toJson.member? "nullable" =
      if schema.note.nullable then some (.bool true) else none := by
  cases schema with
  | string note format choices =>
    cases choices <;> cases nullable : note.nullable <;>
      simp [toJson, Json.member?, Schema.note, SchemaNote.lookup_members, List.lookup_append,
        Json.lookup_optional, List.lookup_cons, nullable]
  | array note | map note | record note =>
    cases nullable : note.nullable <;>
      simp [toJson, Json.member?, Schema.note, SchemaNote.lookup_members, List.lookup_append,
        List.lookup_cons, nullable]

theorem member?_enum (note : SchemaNote) (format : Option String) (choices : List String) :
    (Schema.string note format choices).toJson.member? "enum" =
      if choices.isEmpty then none else some (Json.texts choices) := by
  cases choices <;>
    simp [toJson, Json.member?, SchemaNote.lookup_members, List.lookup_append, Json.lookup_optional,
      List.lookup_cons]

theorem member?_items (note : SchemaNote) (items : Schema) :
    (Schema.array note items).toJson.member? "items" = some items.toJson := by
  simp [toJson, Json.member?, SchemaNote.lookup_members, List.lookup_append]

theorem member?_map (note : SchemaNote) (values : Schema) :
    (Schema.map note values).toJson.member? "additionalProperties" = some values.toJson ∧
      (Schema.map note values).toJson.member? "properties" = none ∧
      (Schema.map note values).toJson.member? "required" = none := by
  simp [toJson, Json.member?, SchemaNote.lookup_members, List.lookup_append, List.lookup_cons]

theorem member?_record (note : SchemaNote) (properties : List (String × Schema))
    (required : List String) :
    (Schema.record note properties required).toJson.member? "additionalProperties" = none ∧
      (Schema.record note properties required).toJson.member? "properties" =
        some (.object (propertiesToJson properties)) ∧
      (Schema.record note properties required).toJson.member? "required" =
        some (Json.texts required) := by
  simp [toJson, Json.member?, SchemaNote.lookup_members, List.lookup_append, List.lookup_cons]

theorem admits_null (schema : Schema) : schema.admits .null = schema.note.nullable := by
  cases schema <;> simp [admits]

theorem conforms_null_iff (schema : Schema) :
    Conforms schema.toJson .null ↔ schema.admits .null = true := by
  rw [admits_null]
  constructor
  · intro conforms
    cases conforms with
    | null nullable => simpa [member?_nullable] using nullable
  · intro nullable
    exact .null (by rw [member?_nullable, nullable]; rfl)

theorem typeName?_of_conforms {schema : Schema} {value : Json}
    (conforms : Conforms schema.toJson value) (notNull : value ≠ .null) :
    value.typeName? = some schema.typeName := by
  cases conforms with
  | null => exact absurd rfl notNull
  | string type | array type | object type =>
    rw [member?_type, Option.some.injEq, Json.string.injEq] at type
    exact congrArg some type.symm

/-- A value of another type conforms no more than it is admitted. -/
theorem conforms_iff_of_mismatch {schema : Schema} {value : Json} (notNull : value ≠ .null)
    (mismatch : value.typeName? ≠ some schema.typeName) (refused : schema.admits value = false) :
    Conforms schema.toJson value ↔ schema.admits value = true :=
  iff_of_false (fun conforms => mismatch (typeName?_of_conforms conforms notNull))
    (Bool.eq_false_iff.mp refused)

theorem conforms_string_iff (note : SchemaNote) (format : Option String) (choices : List String)
    (text : String) : Conforms (Schema.string note format choices).toJson (.string text) ↔
      choices = [] ∨ text ∈ choices := by
  constructor
  · intro conforms
    cases conforms with
    | string type enum =>
      rw [member?_enum] at enum
      cases choices with
      | nil => exact .inl rfl
      | cons first rest =>
        obtain ⟨choice, member, same⟩ := List.mem_map.mp (enum _ rfl)
        exact .inr (Json.string.inj same ▸ member)
  · intro listed
    refine .string (member?_type _) ?_
    rw [member?_enum]
    intro named given
    rcases listed with rfl | member
    · cases given
    · cases choices with
      | nil => cases member
      | cons first rest =>
        obtain rfl := Json.array.inj (Option.some.inj given)
        exact List.mem_map_of_mem member

theorem conforms_array_iff (note : SchemaNote) (items : Schema) (values : List Json) :
    Conforms (Schema.array note items).toJson (.array values) ↔
      ∀ value ∈ values, Conforms items.toJson value := by
  constructor
  · intro conforms
    cases conforms with
    | array type each => exact each _ (member?_items note items)
  · intro each
    refine .array (member?_type _) ?_
    rw [member?_items]
    rintro _ ⟨rfl⟩
    exact each

theorem conforms_map_iff (note : SchemaNote) (values : Schema) (members : List (String × Json)) :
    Conforms (Schema.map note values).toJson (.object members) ↔
      ∀ member ∈ members, Conforms values.toJson member.2 := by
  obtain ⟨additional, properties, required⟩ := member?_map note values
  constructor
  · intro conforms member present
    cases conforms with
    | object type _ _ each =>
      refine each _ additional member present ?_
      rw [properties]
      intro known impossible
      cases impossible
  · intro each
    refine .object (member?_type _) ?_ ?_ ?_
    · rw [required]
      intro names impossible
      cases impossible
    · rw [properties]
      intro known impossible
      cases impossible
    · rw [additional]
      rintro _ ⟨rfl⟩ member present -
      exact each member present

theorem conforms_record_iff (note : SchemaNote) (properties : List (String × Schema))
    (required : List String) (members : List (String × Json)) :
    Conforms (Schema.record note properties required).toJson (.object members) ↔
      (∀ name ∈ required, ∃ member ∈ members, member.1 = name) ∧
        ∀ property ∈ propertiesToJson properties, ∀ member ∈ members, member.1 = property.1 →
          Conforms property.2 member.2 := by
  obtain ⟨noOther, known, needed⟩ := member?_record note properties required
  constructor
  · intro conforms
    cases conforms with
    | object type names each _ =>
      exact ⟨fun name member => names _ needed name (List.mem_map_of_mem member), each _ known⟩
  · rintro ⟨names, each⟩
    refine .object (member?_type _) ?_ ?_ ?_
    · rw [needed]
      rintro _ ⟨rfl⟩ name member
      obtain ⟨text, present, same⟩ := List.mem_map.mp member
      exact names name (Json.string.inj same ▸ present)
    · rw [known]
      rintro _ ⟨rfl⟩
      exact each
    · rw [noOther]
      intro each impossible
      cases impossible

mutual

/-- The written document of a schema and the schema itself admit the same values. The induction is
on the schema. -/
theorem conforms_toJson_iff : (schema : Schema) → (value : Json) →
    (Conforms schema.toJson value ↔ schema.admits value = true)
  | .string note format choices, value => by
    cases value with
    | null => exact conforms_null_iff _
    | string text =>
      rw [conforms_string_iff]
      simp [admits]
    | bool | number | unreadable | array | object | brokenObject =>
      exact conforms_iff_of_mismatch (by simp) (by simp [Json.typeName?, typeName])
        (by simp [admits])
  | .array note items, value => by
    cases value with
    | null => exact conforms_null_iff _
    | array values =>
      rw [conforms_array_iff]
      simp only [admits, List.all_eq_true]
      exact forall₂_congr fun value _ => conforms_toJson_iff items value
    | bool | number | string | unreadable | object | brokenObject =>
      exact conforms_iff_of_mismatch (by simp) (by simp [Json.typeName?, typeName])
        (by simp [admits])
  | .map note values, value => by
    cases value with
    | null => exact conforms_null_iff _
    | object members =>
      rw [conforms_map_iff]
      simp only [admits, List.all_eq_true]
      exact forall₂_congr fun member _ => conforms_toJson_iff values member.2
    | bool | number | string | unreadable | array | brokenObject =>
      exact conforms_iff_of_mismatch (by simp) (by simp [Json.typeName?, typeName])
        (by simp [admits])
  | .record note properties required, value => by
    cases value with
    | null => exact conforms_null_iff _
    | object members =>
      rw [conforms_record_iff, propertiesToJson_conform_iff properties members]
      simp [admits]
    | bool | number | string | unreadable | array | brokenObject =>
      exact conforms_iff_of_mismatch (by simp) (by simp [Json.typeName?, typeName])
        (by simp [admits])

theorem propertiesToJson_conform_iff : (properties : List (String × Schema)) →
    (members : List (String × Json)) →
    ((∀ property ∈ propertiesToJson properties, ∀ member ∈ members, member.1 = property.1 →
      Conforms property.2 member.2) ↔ admitsProperties properties members = true)
  | [], members => by simp [propertiesToJson, admitsProperties]
  | (name, schema) :: rest, members => by
    simp only [propertiesToJson, List.forall_mem_cons, admitsProperties, Bool.and_eq_true,
      List.all_eq_true]
    refine and_congr (forall₂_congr fun member _ => ?_) (propertiesToJson_conform_iff rest members)
    rw [conforms_toJson_iff schema member.2]
    by_cases same : member.1 = name <;> simp [same]

end

end Schema

end ImageJobs
