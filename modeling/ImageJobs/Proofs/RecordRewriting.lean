import ImageJobs.Proofs.RecordShapes

/-! Ways to write a record anew without saying anything else: its members in another order, with or
without members that have the name of no field and fields that hold what counts as nothing, as an
object or as the list of its fields, and each field's value written anew in its own way. A record is
read alike before and after such a change (`RewritesRecord.alike`). -/

namespace ImageJobs

/-- The readings succeed with the same values. They may fail for different reasons. -/
def Concur {α : Type} (reading other : Except Fault α) : Prop :=
  ∀ value, reading = .ok value ↔ other = .ok value

namespace Concur

variable {α β : Type} {reading other : Except Fault α}

theorem of_eq (same : reading = other) : Concur reading other :=
  fun value => by rw [same]

theorem symm (alike : Concur reading other) : Concur other reading :=
  fun value => (alike value).symm

theorem trans {last : Except Fault α} (first : Concur reading other) (second : Concur other last) :
    Concur reading last :=
  fun value => (first value).trans (second value)

theorem of_errors {fault later : Fault} :
    Concur (.error fault : Except Fault α) (.error later) :=
  fun _ => ⟨nofun, nofun⟩

theorem bind (alike : Concur reading other) (next : α → Except Fault β) :
    Concur (reading.bind next) (other.bind next) := by
  cases reading with
  | ok value =>
    obtain rfl := (alike value).mp rfl
    exact .of_eq rfl
  | error fault =>
    cases other with
    | ok value => cases (alike value).mpr rfl
    | error later => exact .of_errors

theorem bind_right {next later : α → Except Fault β}
    (alike : ∀ value, Concur (next value) (later value)) (reading : Except Fault α) :
    Concur (reading.bind next) (reading.bind later) := by
  cases reading with
  | error fault => exact .of_eq rfl
  | ok value => exact alike value

end Concur

/-- An item of the list is written anew. -/
inductive RewritesItem (rewrites : Json → Json → Prop) : Json → Json → Prop where
  | intro {before after : List Json} {item other : Json} (changed : rewrites item other) :
      RewritesItem rewrites (.array (before ++ item :: after)) (.array (before ++ other :: after))

variable {F : Type} [Fields F]

/-- The second value is the first one, which is written as a record, with one change. The values of
the fields are written anew as `within` says, and a field that would hold what is `spare` may be
left out. -/
inductive RewritesRecord (within : F → Json → Json → Prop) (spare : F → Json → Prop) :
    Json → Json → Prop where
  | reordered {members others : List (String × Json)} (order : members.Perm others) :
      RewritesRecord within spare (.object members) (.object others)
  | ignored {before after : List (String × Json)} {name : String}
      (unknown : ∀ field : F, Fields.name field ≠ name) (value : Json) :
      RewritesRecord within spare (.object (before ++ after))
        (.object (before ++ (name, value) :: after))
  | spared {before after : List (String × Json)} {field : F} {value : Json}
      (absent : Fields.name field ∉ (before ++ after).map (·.1)) (nothing : spare field value) :
      RewritesRecord within spare (.object (before ++ after))
        (.object (before ++ (Fields.name field, value) :: after))
  | listed {items : List Json} (complete : items.length = (Fields.all (F := F)).length) :
      RewritesRecord within spare (.object (Reading.spread (Fields.all (F := F)) items))
        (.array items)
  | sparedLast {front : List F} {items : List Json} {field : F} {value : Json}
      (fields : Fields.all = front ++ [field]) (complete : items.length = front.length)
      (nothing : spare field value) :
      RewritesRecord within spare (.array items) (.array (items ++ [value]))
  | member {before after : List (String × Json)} {field : F} {value other : Json}
      (changed : within field value other) :
      RewritesRecord within spare (.object (before ++ (Fields.name field, value) :: after))
        (.object (before ++ (Fields.name field, other) :: after))
  | item {before after : List Json} {field : F} {value other : Json}
      (place : (Fields.all (F := F))[before.length]? = some field)
      (changed : within field value other) :
      RewritesRecord within spare (.array (before ++ value :: after))
        (.array (before ++ other :: after))

/-- What the changes of a record rest on: a value written anew is read alike, and a field that is
spared is read as what the record takes where it is left out. -/
structure KeepMeaning {α : Type} (within : F → Json → Json → Prop) (spare : F → Json → Prop)
    (finish : Slots F → Except Fault α) [DecidableEq F] : Prop where
  alike : ∀ {field value other}, within field value other →
    Concur (Fields.read field value) (Fields.read field other)
  nothing : ∀ {field value}, spare field value → ∃ held, Fields.read field value = .ok held ∧
    ∀ slots : Slots F, slots field = none → finish (slots.put field held) = finish slots
  mayEnd : ∀ {field value}, spare field value → Fields.mayEnd field = true

namespace Reading

variable [DecidableEq F] {α : Type} {form : RecordForm} {finish : Slots F → Except Fault α}

theorem items_alike {read : Reading α} {item other : Json} (alike : Concur (read item) (read other))
    (before after : List Json) :
    Concur (items read (before ++ item :: after)) (items read (before ++ other :: after)) := by
  induction before with
  | nil => exact alike.bind _
  | cons first rest ih => exact .bind_right (fun _ => ih.bind _) _

theorem list_alike {read : Reading α} {rewrites : Json → Json → Prop} {value other : Json}
    (changed : RewritesItem rewrites value other)
    (kept : ∀ item other, rewrites item other → Concur (read item) (read other)) :
    Concur (list read value) (list read other) := by
  obtain ⟨inner⟩ := changed
  exact items_alike (kept _ _ inner) _ _

theorem positions_alike {expected : String} {count : Nat} {field : F} {value other : Json}
    (alike : Concur (Fields.read field value) (Fields.read field other)) {before : List Json}
    {fields : List F} (place : fields[before.length]? = some field) (after : List Json)
    (slots : Slots F) :
    Concur (positions expected count fields (before ++ value :: after) slots)
      (positions expected count fields (before ++ other :: after) slots) := by
  induction before generalizing fields slots with
  | nil =>
    cases fields with
    | nil => cases place
    | cons first rest =>
      obtain rfl : first = field := Option.some.inj place
      exact alike.bind _
  | cons head before ih =>
    cases fields with
    | nil => cases place
    | cons first rest => exact .bind_right (fun held => ih place _) _

theorem members_alike [NamedApart F] {field : F} {value other : Json}
    (alike : Concur (Fields.read field value) (Fields.read field other))
    (before after : List (String × Json)) (slots : Slots F) :
    Concur (members form (before ++ (Fields.name field, value) :: after) slots)
      (members form (before ++ (Fields.name field, other) :: after) slots) := by
  rw [members_append, members_append]
  refine .bind_right (fun reached => ?_) _
  rw [members, members, NamedApart.fieldNamed?_name]
  simp only
  split
  · exact .of_eq rfl
  · exact alike.bind _

/-- A field that no member names is kept through all of them. -/
theorem members_put {values : List (String × Json)} {field : F}
    (absent : Fields.name field ∉ values.map (·.1)) (held : Fields.Value field) (slots : Slots F) :
    members form values (slots.put field held) =
      (members form values slots).map (·.put field held) := by
  induction values generalizing slots with
  | nil => rfl
  | cons member rest ih =>
    obtain ⟨name, value⟩ := member
    obtain ⟨different, later⟩ := List.ne_and_not_mem_of_not_mem_cons absent
    rw [members, members]
    cases found : fieldNamed? (F := F) name with
    | none => exact ih later slots
    | some named =>
      obtain rfl := name_of_fieldNamed? found
      have apart : named ≠ field := fun same => different (same ▸ rfl)
      simp only [Slots.put_of_ne slots held apart]
      split
      · rfl
      · cases Fields.read named value with
        | error fault => rfl
        | ok given =>
          change members form rest ((slots.put field held).put named given) =
            (members form rest (slots.put named given)).map (·.put field held)
          rw [Slots.put_comm slots held given apart, ih later]

variable [NamedApart F]

/-- Where a field is left out, a member may stand for it that holds what counts as nothing. -/
theorem record_spared (single : form.repeats = false) {members : List (String × Json)} {field : F}
    {value : Json} {held : Fields.Value field} (absent : Fields.name field ∉ members.map (·.1))
    (reads : Fields.read field value = .ok held)
    (nothing : ∀ slots : Slots F, slots field = none →
      finish (slots.put field held) = finish slots) :
    record form finish (.object ((Fields.name field, value) :: members)) =
      record form finish (.object members) := by
  have first : Reading.members form ((Fields.name field, value) :: members) .empty =
      (Reading.members form members .empty).map (·.put field held) := by
    rw [Reading.members, NamedApart.fieldNamed?_name, ← members_put absent]
    simp only [Slots.empty, Option.isSome_none, Bool.and_false, Bool.false_eq_true, ↓reduceIte,
      reads]
    rfl
  simp only [record, first]
  cases reached : Reading.members form members (.empty : Slots F) with
  | error fault => rfl
  | ok slots =>
    have left := ((members_reads_iff single).mp reached).2 field
    rw [lookup_eq_none_of_not_mem absent, Filled.absent_iff] at left
    exact nothing slots left

/-- A field may be added, anywhere, that holds what counts as nothing. -/
theorem record_insert_alike (single : form.repeats = false)
    {within : F → Json → Json → Prop} {spare : F → Json → Prop}
    (kept : KeepMeaning within spare finish) {before after : List (String × Json)} {field : F}
    {given : Json} (absent : Fields.name field ∉ (before ++ after).map (·.1))
    (nothing : spare field given) :
    Concur (record form finish (.object (before ++ after)))
      (record form finish (.object (before ++ (Fields.name field, given) :: after))) := by
  obtain ⟨held, reads, same⟩ := kept.nothing nothing
  intro result
  rw [← record_spared single absent reads same]
  exact record_object_congr single (List.perm_middle.symm.filter _)

/-- The last field may be added to a list of all the others. -/
theorem record_concat_alike (single : form.repeats = false) (asList : form.asList = true)
    (distinct : (Fields.all (F := F)).Nodup) {within : F → Json → Json → Prop}
    {spare : F → Json → Prop} (kept : KeepMeaning within spare finish) {front : List F}
    {items : List Json} {field : F} {given : Json} (fields : Fields.all = front ++ [field])
    (complete : items.length = front.length) (nothing : spare field given) :
    Concur (record form finish (.array items))
      (record form finish (.array (items ++ [given]))) := by
  have absent : Fields.name field ∉ (spread front items ++ []).map Prod.fst := by
    rw [List.append_nil]
    intro named
    obtain ⟨twin, member, same⟩ :=
      List.mem_map.mp ((names_spread_sublist front items).subset named)
    obtain rfl := name_injective same
    rw [fields] at distinct
    obtain ⟨-, -, apart⟩ := List.nodup_append.mp distinct
    exact apart twin member twin List.mem_cons_self rfl
  have mayEnd : ∀ other ∈ (Fields.all (F := F)).drop items.length,
      Fields.mayEnd other = true := by
    simp [fields, complete, kept.mayEnd nothing]
  have short : spread (front ++ [field]) items = spread front items ++ [] := by
    have spreads : spread (front ++ [field]) (items ++ []) = spread front items ++ [] :=
      spread_append complete
    rwa [List.append_nil] at spreads
  have long : spread (front ++ [field]) (items ++ [given]) =
      spread front items ++ [(Fields.name field, given)] :=
    spread_append complete
  rw [record_array_eq_object asList distinct (by simp [fields, complete]) mayEnd,
    record_array_eq_object asList distinct (by simp [fields, complete])
      (by simp [fields, complete]),
    fields, short, long]
  exact record_insert_alike single kept absent nothing

end Reading

open Reading

/-- No change of how a record is written changes what it is read as. -/
theorem RewritesRecord.alike {α : Type} [DecidableEq F] [NamedApart F]
    {within : F → Json → Json → Prop} {spare : F → Json → Prop} {form : RecordForm}
    {finish : Slots F → Except Fault α} (kept : KeepMeaning within spare finish)
    (single : form.repeats = false) (asList : form.asList = true)
    (distinct : (Fields.all (F := F)).Nodup) {value other : Json}
    (changed : RewritesRecord within spare value other) :
    Concur (record form finish value) (record form finish other) := by
  cases changed with
  | reordered order => exact fun result => record_object_congr single (order.filter _)
  | ignored unknown given =>
    refine fun result => record_object_congr single (.of_eq ?_)
    rw [known_append, known_append, known_cons_of_unknown (fieldNamed?_eq_none_iff.mpr unknown)]
  | spared absent nothing => exact record_insert_alike single kept absent nothing
  | @listed items complete =>
    refine .of_eq (record_array_eq_object asList distinct (Nat.le_of_eq complete) ?_).symm
    rw [List.drop_eq_nil_of_le (Nat.le_of_eq complete.symm)]
    exact nofun
  | sparedLast fields complete nothing =>
    exact record_concat_alike single asList distinct kept fields complete nothing
  | member inner =>
    simp only [record]
    exact (members_alike (kept.alike inner) _ _ _).bind _
  | item place inner =>
    simp only [record, asList, ↓reduceIte, List.length_append, List.length_cons]
    exact (positions_alike (kept.alike inner) place _ _).bind _

end ImageJobs
