import Mathlib.Data.List.Induction
import Mathlib.Data.List.Nodup
import ImageJobs.Proofs.RecordMembers

/-! Records in all the shapes of their documents. An object is read exactly if it names no field
twice and each of its fields can be read, wherever it stands and whatever else the object holds
(`record_object_reads_iff`). A list of values stands for the object of the first fields
(`record_array_eq_object`), and the first field that is named again is the one that a fault names
(`record_again`). -/

namespace ImageJobs.Reading

variable {α : Type} {read : Reading α} {document : Json}

/-- The reader gives that answer for the document and for every text of it. -/
def Answers (read : Reading α) (document : Json) (answer : Except Fault α) : Prop :=
  read document = answer ∧ ∀ text, Json.parse? text = some document → parse read text = answer

theorem answers_ok {value : α} (reads : read document = .ok value) :
    Answers read document (.ok value) := by
  refine ⟨reads, fun text holds => ?_⟩
  simp only [parse, holds, reads, Except.mapError]

/-- A fault that a reader of text sees in the same way. -/
theorem answers_error {fault : Fault} (fails : read document = .error fault)
    (same : fault.inText = fault) : Answers read document (.error fault) := by
  refine ⟨fails, fun text holds => ?_⟩
  simp only [parse, holds, fails, Except.mapError, same]

/-- The members that have the name of a field. -/
def known (F : Type) [Fields F] (values : List (String × Json)) : List (String × Json) :=
  values.filter fun member => (fieldNamed? (F := F) member.1).isSome

/-- No field is named twice. Other names may be. -/
def NamesOnce (F : Type) [Fields F] (values : List (String × Json)) : Prop :=
  ∀ field : F, (values.map (·.1)).count (Fields.name field) ≤ 1

/-- The field is the first one that is named again. -/
inductive NamedAgain {F : Type} [Fields F] (values : List (String × Json)) (field : F) : Prop where
  | intro {before after : List (String × Json)} {value : Json}
      (split : values = before ++ (Fields.name field, value) :: after)
      (named : Fields.name field ∈ before.map (·.1)) (once : NamesOnce F before) :
      NamedAgain values field

variable {F : Type} [Fields F] {values before after : List (String × Json)}

/-- The induction is on the members from the last one back, so that the rest names no field twice
where the search stops. -/
theorem exists_namedAgain (twice : ¬NamesOnce F values) :
    ∃ field : F, NamedAgain values field := by
  induction values using List.reverseRecOn with
  | nil => exact absurd (fun _ => Nat.zero_le 1) twice
  | append_singleton front last ih =>
    by_cases once : NamesOnce F front
    · obtain ⟨name, value⟩ := last
      obtain ⟨field, many⟩ := not_forall.mp twice
      rw [List.map_append, List.count_append, List.map_singleton, List.count_singleton] at many
      have bound := once field
      by_cases same : name = Fields.name field
      · subst same
        rw [beq_self_eq_true, if_pos rfl] at many
        have named : Fields.name field ∈ front.map (·.1) := List.one_le_count_iff.mp (by omega)
        exact ⟨field, .intro rfl named once⟩
      · rw [beq_false_of_ne same, if_neg Bool.false_ne_true] at many
        exact absurd bound many
    · obtain ⟨field, @⟨before, after, value, split, named, earlier⟩⟩ := ih once
      have longer : front ++ [last] =
          before ++ (Fields.name field, value) :: (after ++ [last]) := by
        rw [split, List.append_assoc, List.cons_append]
      exact ⟨field, .intro longer named earlier⟩

theorem known_append : known F (before ++ after) = known F before ++ known F after :=
  List.filter_append ..

theorem known_cons_of_unknown {name : String} {value : Json}
    (unknown : fieldNamed? (F := F) name = none) :
    known F ((name, value) :: values) = known F values :=
  List.filter_cons_of_neg (by simp [unknown])

section Named

variable [NamedApart F]

theorem isSome_fieldNamed?_iff {name : String} :
    (fieldNamed? (F := F) name).isSome ↔ ∃ field : F, Fields.name field = name := by
  constructor
  · intro found
    obtain ⟨field, named⟩ := Option.isSome_iff_exists.mp found
    exact ⟨field, name_of_fieldNamed? named⟩
  · rintro ⟨field, rfl⟩
    rw [NamedApart.fieldNamed?_name, Option.isSome_some]

theorem fieldNamed?_eq_none_iff {name : String} :
    fieldNamed? (F := F) name = none ↔ ∀ field : F, Fields.name field ≠ name := by
  rw [← Option.not_isSome_iff_eq_none, isSome_fieldNamed?_iff, not_exists]

theorem known_cons_name (field : F) (value : Json) :
    known F ((Fields.name field, value) :: values) =
      (Fields.name field, value) :: known F values :=
  List.filter_cons_of_pos (by simp [NamedApart.fieldNamed?_name])

theorem lookup_known (field : F) (values : List (String × Json)) :
    (known F values).lookup (Fields.name field) = values.lookup (Fields.name field) := by
  induction values with
  | nil => rfl
  | cons member rest ih =>
    obtain ⟨name, value⟩ := member
    cases found : fieldNamed? (F := F) name with
    | none =>
      rw [known_cons_of_unknown found, ih,
        lookup_cons_ne (ne_name_of_fieldNamed?_eq_none found field)]
    | some named =>
      obtain rfl := name_of_fieldNamed? found
      rw [known_cons_name, List.lookup_cons, List.lookup_cons, ih]

theorem count_known (field : F) (values : List (String × Json)) :
    ((known F values).map (·.1)).count (Fields.name field) =
      (values.map (·.1)).count (Fields.name field) := by
  induction values with
  | nil => rfl
  | cons member rest ih =>
    obtain ⟨name, value⟩ := member
    cases found : fieldNamed? (F := F) name with
    | none =>
      have other := (ne_name_of_fieldNamed?_eq_none found field).symm
      rw [known_cons_of_unknown found, ih, List.map_cons, List.count_cons_of_ne other]
    | some named =>
      obtain rfl := name_of_fieldNamed? found
      rw [known_cons_name, List.map_cons, List.map_cons, List.count_cons, List.count_cons, ih]

theorem nodup_known_iff : ((known F values).map (·.1)).Nodup ↔ NamesOnce F values := by
  rw [List.nodup_iff_count_le_one]
  constructor
  · intro once field
    rw [← count_known]
    exact once _
  · intro once name
    by_cases named : ∃ field : F, Fields.name field = name
    · obtain ⟨field, rfl⟩ := named
      rw [count_known]
      exact once field
    · have absent : name ∉ (known F values).map (·.1) := by
        intro present
        obtain ⟨member, kept, rfl⟩ := List.mem_map.mp present
        exact named (isSome_fieldNamed?_iff.mp (List.mem_filter.mp kept).2)
      rw [List.count_eq_zero.mpr absent]
      exact Nat.zero_le _

variable {others : List (String × Json)}

theorem namesOnce_congr (same : (known F others).Perm (known F values)) :
    NamesOnce F others ↔ NamesOnce F values := by
  rw [← nodup_known_iff, ← nodup_known_iff]
  exact (same.map _).nodup_iff

/-- The order of the members does not matter, nor what has the name of no field. -/
theorem lookup_congr (same : (known F others).Perm (known F values)) (once : NamesOnce F values)
    (field : F) : others.lookup (Fields.name field) = values.lookup (Fields.name field) := by
  have otherOnce := (namesOnce_congr same).mpr once
  rw [← lookup_known, ← lookup_known field values]
  refine Option.ext fun value => ?_
  rw [lookup_eq_some_iff_mem (nodup_known_iff.mpr otherOnce),
    lookup_eq_some_iff_mem (nodup_known_iff.mpr once)]
  exact same.mem_iff

end Named

variable [DecidableEq F] {form : RecordForm}

theorem members_known (values : List (String × Json)) (slots : Slots F) :
    members form (known F values) slots = members form values slots := by
  induction values generalizing slots with
  | nil => rfl
  | cons member rest ih =>
    obtain ⟨name, value⟩ := member
    cases found : fieldNamed? (F := F) name with
    | none =>
      rw [known_cons_of_unknown found, ih]
      simp only [members, found]
    | some field =>
      have kept : known F ((name, value) :: rest) = (name, value) :: known F rest :=
        List.filter_cons_of_pos (by simp [found])
      simp only [kept, members, found, ih]

theorem members_append (before after : List (String × Json)) (slots : Slots F) :
    members form (before ++ after) slots =
      (members form before slots).bind (members form after) := by
  induction before generalizing slots with
  | nil => rfl
  | cons member rest ih =>
    obtain ⟨name, value⟩ := member
    simp only [List.cons_append, members]
    cases fieldNamed? (F := F) name with
    | none => exact ih slots
    | some field =>
      simp only
      split
      · rfl
      · cases Fields.read field value with
        | error fault => rfl
        | ok held => exact ih _

variable [NamedApart F]

/-- A field that holds something is not named by the members that are still to come. -/
theorem unnamed_of_members_ok (single : form.repeats = false) {start stop : Slots F}
    (reached : members form values start = .ok stop) :
    (∀ field, (start field).isSome → Fields.name field ∉ values.map (·.1)) ∧
      NamesOnce F values := by
  induction values generalizing start with
  | nil => exact ⟨fun _ _ => List.not_mem_nil, fun _ => Nat.zero_le _⟩
  | cons member rest ih =>
    obtain ⟨name, value⟩ := member
    rw [members] at reached
    cases found : fieldNamed? (F := F) name with
    | none =>
      simp only [found] at reached
      obtain ⟨fresh, once⟩ := ih reached
      have other := ne_name_of_fieldNamed?_eq_none found
      refine ⟨fun field held =>
        List.not_mem_cons_of_ne_of_not_mem (other field) (fresh field held), fun field => ?_⟩
      rw [List.map_cons, List.count_cons_of_ne (other field).symm]
      exact once field
    | some named =>
      obtain rfl := name_of_fieldNamed? found
      simp only [found, single, Bool.not_false, Bool.true_and] at reached
      split at reached
      · cases reached
      rename_i empty
      cases read : Fields.read named value with
      | error fault =>
        rw [read] at reached
        cases reached
      | ok held =>
        rw [read] at reached
        obtain ⟨fresh, once⟩ := ih reached
        have unrepeated : Fields.name named ∉ rest.map (·.1) := fresh named (by simp)
        refine ⟨fun field holds => ?_, fun field => ?_⟩
        · have different : field ≠ named := by
            rintro rfl
            exact empty holds
          refine List.not_mem_cons_of_ne_of_not_mem
            (fun same => different (name_injective same)) (fresh field ?_)
          rwa [Slots.put_of_ne start held different]
        · by_cases same : field = named
          · subst same
            refine Nat.le_of_eq ?_
            rw [List.map_cons, List.count_cons_self, List.count_eq_zero.mpr unrepeated]
          · rw [List.map_cons, List.count_cons_of_ne fun names => same (name_injective names.symm)]
            exact once field

theorem members_reads_iff (single : form.repeats = false) {slots : Slots F} :
    members form values .empty = .ok slots ↔ NamesOnce F values ∧
      ∀ field, Filled field none (values.lookup (Fields.name field)) (slots field) := by
  have read (once : NamesOnce F values) : members form values .empty = .ok slots ↔
      ∀ field, Filled field none (values.lookup (Fields.name field)) (slots field) := by
    have fresh : ∀ field : F, ((Slots.empty : Slots F) field).isSome →
        Fields.name field ∉ (known F values).map (·.1) := fun field held => nomatch held
    rw [← members_known, members_ok_iff (nodup_known_iff.mpr once) fresh]
    simp only [lookup_known]
    exact Iff.rfl
  constructor
  · intro reached
    have once := (unnamed_of_members_ok single reached).2
    exact ⟨once, (read once).mp reached⟩
  · rintro ⟨once, filled⟩
    exact (read once).mpr filled

/-- An object is read as a record exactly if it names no field twice, each field that it names can
be read, and what they hold makes a value. -/
theorem record_object_reads_iff (single : form.repeats = false)
    {finish : Slots F → Except Fault α} {result : α} :
    record form finish (.object values) = .ok result ↔ NamesOnce F values ∧
      ∃ slots, (∀ field, Filled field none (values.lookup (Fields.name field)) (slots field)) ∧
        finish slots = .ok result := by
  have read (slots : Slots F) : members form values .empty = .ok slots ↔ NamesOnce F values ∧
      ∀ field, Filled field none (values.lookup (Fields.name field)) (slots field) :=
    members_reads_iff single
  simp only [record]
  cases reached : members form values (.empty : Slots F) with
  | error fault =>
    simp only [reached, reduceCtorEq, false_iff] at read
    constructor
    · intro finished
      cases finished
    · rintro ⟨once, slots, filled, -⟩
      exact absurd ⟨once, filled⟩ (read slots)
  | ok slots =>
    obtain ⟨once, filled⟩ := (read slots).mp reached
    constructor
    · intro finished
      exact ⟨once, slots, filled, finished⟩
    · rintro ⟨-, others, alsoFilled, finished⟩
      have same := (read others).mpr ⟨once, alsoFilled⟩
      rw [reached] at same
      exact (Except.ok.inj same) ▸ finished

theorem record_object_congr (single : form.repeats = false) {finish : Slots F → Except Fault α}
    {others : List (String × Json)} {result : α}
    (same : (known F others).Perm (known F values)) :
    record form finish (.object others) = .ok result ↔
      record form finish (.object values) = .ok result := by
  rw [record_object_reads_iff single, record_object_reads_iff single, namesOnce_congr same]
  refine and_congr_right fun once => exists_congr fun slots => and_congr_left fun _ => ?_
  exact forall_congr' fun field => by rw [lookup_congr same once]

/-- After members that can be read, a field that one of them names is refused whatever it holds. -/
theorem record_again (single : form.repeats = false) {finish : Slots F → Except Fault α}
    {slots : Slots F} (reads : members form before .empty = .ok slots) {field : F}
    (named : Fields.name field ∈ before.map (·.1)) (value : Json) :
    record form finish (.object (before ++ (Fields.name field, value) :: after)) =
      .error (.repeatedField (Fields.name field)) := by
  have filled := ((members_reads_iff single).mp reads).2 field
  have present : (before.lookup (Fields.name field)).isSome := by
    rw [isSome_lookup_iff]
    exact List.mem_map.mp named
  have holds : (slots field).isSome := filled.isSome_iff.mpr present
  have stops : members form ((Fields.name field, value) :: after) slots =
      .error (.repeatedField (Fields.name field)) := by
    simp only [members, NamedApart.fieldNamed?_name, single, holds, Bool.not_false, Bool.and_self,
      ↓reduceIte]
  simp only [record, members_append, reads, Except.bind, stops, bind]

/-- The object that gives the values to the fields in their order. -/
def spread (fields : List F) (items : List Json) : List (String × Json) :=
  (fields.map Fields.name).zip items

omit [DecidableEq F] [NamedApart F] in
theorem spread_append {front rest : List F} {items later : List Json}
    (same : items.length = front.length) :
    spread (front ++ rest) (items ++ later) = spread front items ++ spread rest later := by
  have lengths : (front.map Fields.name).length = items.length := by rw [List.length_map, same]
  simp only [spread, List.map_append, List.zip_append lengths]

omit [DecidableEq F] [NamedApart F] in
theorem names_spread_sublist (fields : List F) (items : List Json) :
    ((spread fields items).map (·.1)).Sublist (fields.map Fields.name) := by
  induction fields generalizing items with
  | nil => exact List.Sublist.refl _
  | cons field rest ih =>
    cases items with
    | nil => exact List.nil_sublist _
    | cons item items => exact (ih items).cons_cons (Fields.name field)

omit [DecidableEq F] in
theorem namesOnce_spread {fields : List F} (distinct : fields.Nodup) (items : List Json) :
    NamesOnce F (spread fields items) := by
  have names : (fields.map Fields.name).Nodup :=
    (List.nodup_map_iff fun _ _ same => name_injective same).mpr distinct
  intro field
  exact List.nodup_iff_count_le_one.mp ((names_spread_sublist fields items).nodup names) _

/-- Each value goes to the next field, and the fields that no value is left for may be left out. -/
theorem positions_eq_members {expected : String} {count : Nat} {fields : List F}
    {items : List Json} {slots : Slots F} (distinct : fields.Nodup)
    (fresh : ∀ field ∈ fields, slots field = none) (fits : items.length ≤ fields.length)
    (ends : ∀ field ∈ fields.drop items.length, Fields.mayEnd field = true) :
    positions expected count fields items slots = members form (spread fields items) slots := by
  induction fields generalizing items slots with
  | nil =>
    obtain rfl := List.eq_nil_of_length_eq_zero (Nat.le_zero.mp fits)
    rfl
  | cons field rest ih =>
    obtain ⟨unrepeated, distinctRest⟩ := List.nodup_cons.mp distinct
    obtain ⟨empty, freshRest⟩ := List.forall_mem_cons.mp fresh
    cases items with
    | nil =>
      have mayEnd : Fields.mayEnd field = true := ends field List.mem_cons_self
      have others : positions expected count rest [] slots =
          members form (spread rest []) slots :=
        ih distinctRest freshRest (Nat.zero_le _)
          fun other member => ends other (List.mem_cons_of_mem _ member)
      rw [positions, if_pos mayEnd, others]
      simp only [spread, List.zip_nil_right, members]
    | cons item items =>
      have step : spread (field :: rest) (item :: items) =
          (Fields.name field, item) :: spread rest items := rfl
      rw [step, positions, members, NamedApart.fieldNamed?_name]
      simp only [empty, Option.isSome_none, Bool.and_false, Bool.false_eq_true, ↓reduceIte]
      cases Fields.read field item with
      | error fault => rfl
      | ok held =>
        refine ih distinctRest (fun other member => ?_) (Nat.le_of_succ_le_succ fits) ends
        rw [Slots.put_of_ne slots held (fun same => unrepeated (same ▸ member))]
        exact freshRest other member

/-- A list of values is read as the object of the first fields with these values. -/
theorem record_array_eq_object (listed : form.asList = true) {finish : Slots F → Except Fault α}
    {items : List Json} (distinct : (Fields.all (F := F)).Nodup)
    (fits : items.length ≤ (Fields.all (F := F)).length)
    (ends : ∀ field ∈ (Fields.all (F := F)).drop items.length, Fields.mayEnd field = true) :
    record form finish (.array items) =
      record form finish (.object (spread (Fields.all (F := F)) items)) := by
  have same (expected : String) (count : Nat) :
      positions expected count (Fields.all (F := F)) items .empty =
        members form (spread (Fields.all (F := F)) items) .empty :=
    positions_eq_members distinct (fun _ _ => rfl) fits ends
  simp only [record, listed, ↓reduceIte, same]

end ImageJobs.Reading
