import Mathlib.Data.List.Nodup
import ImageJobs.Document.Record

/-! What an object is read as when it is read as a record, if it names no member twice: every field
holds what its own member says, wherever that member stands, and members of other names say nothing
(`record_object_ok_iff`). -/

namespace ImageJobs

theorem lookup_cons_ne {α : Type} {name other : String} (different : name ≠ other) (value : α)
    (rest : List (String × α)) : List.lookup name ((other, value) :: rest) = rest.lookup name := by
  rw [List.lookup_cons, beq_false_of_ne different]

theorem lookup_eq_none_of_not_mem {α : Type} {name : String} {members : List (String × α)}
    (unnamed : name ∉ members.map (·.1)) : members.lookup name = none := by
  rw [List.lookup_eq_none_iff]
  intro member present
  exact bne_iff_ne.mpr fun same => unnamed (same ▸ List.mem_map_of_mem present)

theorem lookup_eq_some_iff_mem {α : Type} {members : List (String × α)} {name : String} {value : α}
    (once : (members.map (·.1)).Nodup) :
    members.lookup name = some value ↔ (name, value) ∈ members := by
  induction members with
  | nil => simp
  | cons first rest ih =>
    obtain ⟨unrepeated, later⟩ := List.nodup_cons.mp once
    obtain ⟨other, held⟩ := first
    by_cases same : name = other
    · subst same
      rw [List.lookup_cons_self, List.mem_cons, Option.some.injEq, Prod.mk.injEq]
      constructor
      · rintro rfl
        exact .inl ⟨rfl, rfl⟩
      · rintro (⟨-, rfl⟩ | elsewhere)
        · rfl
        · exact absurd (List.mem_map_of_mem elsewhere) unrepeated
    · rw [lookup_cons_ne same, ih later, List.mem_cons, Prod.mk.injEq]
      exact ⟨.inr, fun either => either.resolve_left fun both => same both.1⟩

theorem isSome_lookup_iff {α : Type} {members : List (String × α)} {name : String} :
    (members.lookup name).isSome ↔ ∃ member ∈ members, member.1 = name := by
  rw [Option.isSome_iff_ne_none, ne_eq, List.lookup_eq_none_iff]
  simp only [bne_iff_ne, ne_eq, not_forall, not_not, exists_prop]
  exact exists_congr fun member => and_congr_right fun _ => eq_comm

namespace Json

/-- The first member of that name, if the value is an object and has one. -/
def member? (value : Json) (name : String) : Option Json :=
  match value with
  | .object members => members.lookup name
  | _ => none

variable {α : Type} {name : String} {write : α → Json} {given : Option α}

theorem lookup_optional (other : String) :
    (optional name write given).lookup other = if other = name then given.map write else none := by
  cases given with
  | none => simp [optional]
  | some value =>
    by_cases same : other = name
    · simp [optional, same]
    · simp [optional, same, lookup_cons_ne same]

theorem all_optional (holds : String × Json → Bool) :
    (optional name write given).all holds = given.all fun value => holds (name, write value) := by
  cases given with
  | none => rfl
  | some value => exact Bool.and_true _

theorem names_optional_sublist (name : String) (write : α → Json) (given : Option α) :
    ((optional name write given).map (·.1)).Sublist [name] := by
  cases given with
  | none => exact List.nil_sublist _
  | some value => exact List.Sublist.refl _

/-- No object in the value names a member twice. -/
inductive Unrepeated : Json → Prop where
  | null : Unrepeated .null
  | bool (value : Bool) : Unrepeated (.bool value)
  | number (numeral : Numeral) : Unrepeated (.number numeral)
  | string (value : String) : Unrepeated (.string value)
  | unreadable : Unrepeated .unreadable
  | array {items : List Json} (each : ∀ item ∈ items, Unrepeated item) : Unrepeated (.array items)
  | object {members : List (String × Json)} (once : (members.map (·.1)).Nodup)
      (each : ∀ member ∈ members, Unrepeated member.2) : Unrepeated (.object members)
  | brokenObject {members : List (String × Json)} (once : (members.map (·.1)).Nodup)
      (each : ∀ member ∈ members, Unrepeated member.2) : Unrepeated (.brokenObject members)

namespace Unrepeated

variable {members : List (String × Json)}

theorem names_nodup (unrepeated : Unrepeated (.object members)) : (members.map (·.1)).Nodup := by
  cases unrepeated with
  | object once => exact once

theorem of_lookup (unrepeated : Unrepeated (.object members)) {name : String} {value : Json}
    (given : members.lookup name = some value) : value.Unrepeated := by
  cases unrepeated with
  | object once each => exact each _ ((lookup_eq_some_iff_mem once).mp given)

theorem of_mem {items : List Json} (unrepeated : Unrepeated (.array items)) {item : Json}
    (member : item ∈ items) : item.Unrepeated := by
  cases unrepeated with
  | array each => exact each item member

end Unrepeated

end Json

/-- The fields of the record have different names. -/
class NamedApart (F : Type) [Fields F] : Prop where
  fieldNamed?_name : ∀ field : F, Reading.fieldNamed? (Fields.name field) = some field

variable {F : Type} [Fields F]

/-- What a field holds after the members, given what it held before and its member's value, if it
has one. -/
inductive Filled (field : F) (before : Option (Fields.Value field)) :
    Option Json → Option (Fields.Value field) → Prop where
  | absent : Filled field before none before
  | given {value : Json} {held : Fields.Value field} (read : Fields.read field value = .ok held) :
      Filled field before (some value) (some held)

theorem Filled.absent_iff {field : F} {before after : Option (Fields.Value field)} :
    Filled field before none after ↔ after = before := by
  constructor
  · intro filled
    cases filled with
    | absent => rfl
  · rintro rfl
    exact .absent

theorem Filled.given_iff {field : F} {before after : Option (Fields.Value field)} {value : Json} :
    Filled field before (some value) after ↔
      ∃ held, Fields.read field value = .ok held ∧ after = some held := by
  constructor
  · intro filled
    cases filled with
    | given read => exact ⟨_, read, rfl⟩
  · rintro ⟨held, read, rfl⟩
    exact .given read

theorem Filled.isSome_iff {field : F} {given : Option Json} {after : Option (Fields.Value field)}
    (filled : Filled field none given after) : after.isSome ↔ given.isSome := by
  cases filled with
  | absent => exact Iff.rfl
  | given read => exact iff_of_true rfl rfl

namespace Reading

theorem name_of_fieldNamed? {name : String} {field : F} (found : fieldNamed? name = some field) :
    Fields.name field = name :=
  beq_iff_eq.mp (List.find?_some (p := fun field => Fields.name field == name) found)

theorem ne_name_of_fieldNamed?_eq_none [NamedApart F] {name : String}
    (unknown : fieldNamed? (F := F) name = none) (field : F) : Fields.name field ≠ name := by
  rintro rfl
  rw [NamedApart.fieldNamed?_name] at unknown
  exact absurd unknown (Option.some_ne_none field)

theorem name_injective [NamedApart F] {field other : F}
    (same : Fields.name field = Fields.name other) : field = other := by
  have found := NamedApart.fieldNamed?_name field
  rw [same, NamedApart.fieldNamed?_name] at found
  exact (Option.some.inj found).symm

variable [DecidableEq F] [NamedApart F] {form : RecordForm}

/-- The induction is on the members, over any start that holds nothing of a field still to come. -/
theorem members_ok_iff {values : List (String × Json)} {before after : Slots F}
    (unrepeated : (values.map (·.1)).Nodup)
    (fresh : ∀ field, (before field).isSome → Fields.name field ∉ values.map (·.1)) :
    members form values before = .ok after ↔
      ∀ field, Filled field (before field) (values.lookup (Fields.name field)) (after field) := by
  induction values generalizing before with
  | nil =>
    simp only [members, List.lookup_nil, Filled.absent_iff, Except.ok.injEq]
    exact ⟨fun same field => same ▸ rfl, fun same => (funext same).symm⟩
  | cons member rest ih =>
    obtain ⟨name, value⟩ := member
    obtain ⟨once, restUnrepeated⟩ := List.nodup_cons.mp unrepeated
    have freshRest : ∀ field, (before field).isSome → Fields.name field ∉ rest.map (·.1) :=
      fun field held later => fresh field held (List.mem_cons_of_mem name later)
    unfold members
    cases found : fieldNamed? (F := F) name with
    | none =>
      rw [ih restUnrepeated freshRest]
      refine forall_congr' fun field => ?_
      rw [lookup_cons_ne (ne_name_of_fieldNamed?_eq_none found field)]
    | some named =>
      obtain rfl := name_of_fieldNamed? found
      have empty : before named = none :=
        Option.not_isSome_iff_eq_none.mp fun held => fresh named held List.mem_cons_self
      have self : List.lookup (Fields.name named) ((Fields.name named, value) :: rest) =
          some value := List.lookup_cons_self
      simp only [empty, Option.isSome_none, Bool.and_false, Bool.false_eq_true, ↓reduceIte]
      cases read : Fields.read named value with
      | error fault =>
        refine ⟨(nomatch ·), fun filled => ?_⟩
        have own := filled named
        rw [self, Filled.given_iff, read] at own
        obtain ⟨held, impossible, -⟩ := own
        cases impossible
      | ok held =>
        have freshPut : ∀ field, (before.put named held field).isSome →
            Fields.name field ∉ rest.map (·.1) := by
          intro field filled
          by_cases same : field = named
          · exact same ▸ once
          · rw [Slots.put_of_ne before held same] at filled
            exact freshRest field filled
        change members form rest (before.put named held) = .ok after ↔ _
        rw [ih restUnrepeated freshPut]
        refine forall_congr' fun field => ?_
        by_cases same : field = named
        · subst same
          rw [lookup_eq_none_of_not_mem once, Slots.put_self, self, Filled.absent_iff,
            Filled.given_iff, read]
          constructor
          · intro holds
            exact ⟨held, rfl, holds⟩
          · rintro ⟨other, same, holds⟩
            exact Except.ok.inj same ▸ holds
        · have otherName := fun names => same (name_injective names)
          rw [lookup_cons_ne otherName, Slots.put_of_ne before held same]

theorem record_object_ok_iff {α : Type} {finish : Slots F → Except Fault α}
    {values : List (String × Json)} {result : α} (unrepeated : (values.map (·.1)).Nodup) :
    record form finish (.object values) = .ok result ↔
      ∃ slots, (∀ field, Filled field none (values.lookup (Fields.name field)) (slots field)) ∧
        finish slots = .ok result := by
  have read (slots : Slots F) : members form values .empty = .ok slots ↔
      ∀ field, Filled field none (values.lookup (Fields.name field)) (slots field) :=
    members_ok_iff unrepeated fun field held => nomatch held
  simp only [record]
  cases reached : members form values (.empty : Slots F) with
  | error fault =>
    simp only [reached, reduceCtorEq, false_iff] at read
    exact ⟨(nomatch ·), fun ⟨slots, filled, _⟩ => absurd filled (read slots)⟩
  | ok slots =>
    constructor
    · intro finished
      exact ⟨slots, (read slots).mp reached, finished⟩
    · rintro ⟨others, filled, finished⟩
      have same := (read others).mpr filled
      rw [reached] at same
      exact (Except.ok.inj same) ▸ finished

end Reading

end ImageJobs
