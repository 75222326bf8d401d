import ImageJobs.ImageCache.Basic
import ImageJobs.Proofs.RecordMembers
import ImageJobs.Proofs.TimeTexts
import ImageJobs.Proofs.WrittenDocument

/-! The document of an image cache says all of it: `cache_reads_back` reads back what was written,
as a tree and as a text. Each type has its own lemma, and a record is put together from its members
through `record_object_ok_iff`. -/

namespace ImageJobs

namespace Json

variable {α : Type} {name : String} {write : α → Json} {given : Option α}

theorem readable_optional (each : ∀ value ∈ given, Readable (write value)) :
    ∀ member ∈ optional name write given, Readable member.2 := by
  cases given with
  | none => simp [optional]
  | some value => simpa [optional] using each value rfl

end Json

theorem join_map_some {α : Type} (given : Option α) : (given.map some).join = given := by
  cases given <;> rfl

theorem Filled.optional {F α : Type} [Fields F] {field : F} {given : Option α} {write : α → Json}
    {hold : α → Fields.Value field}
    (each : ∀ value ∈ given, Fields.read field (write value) = .ok (hold value)) :
    Filled field none (given.map write) (given.map hold) := by
  cases given with
  | none => exact .absent
  | some value => exact .given (each value rfl)

namespace Reading

variable {α : Type} {read : Reading α} {write : α → Json}

theorem items_map {values : List α} (each : ∀ value ∈ values, read (write value) = .ok value) :
    items read (values.map write) = .ok values := by
  induction values with
  | nil => rfl
  | cons first rest ih =>
    obtain ⟨here, later⟩ := List.forall_mem_cons.mp each
    simp only [List.map_cons, items, here, ih later, bind, Except.bind, pure, Except.pure]

end Reading

namespace TextMap

theorem read_entries (entries : List (String × String)) :
    Reading.entries (entries.map fun entry => (entry.1, .string entry.2)) = .ok entries := by
  induction entries with
  | nil => rfl
  | cons head tail ih =>
    simp only [List.map_cons, Reading.entries, Reading.string, ih, bind, Except.bind, pure,
      Except.pure]

theorem read_toJson (map : TextMap) : Reading.textMap map.toJson = .ok map := by
  simp only [toJson, Reading.textMap, read_entries, Except.map, ofList_entries]

theorem readable_toJson (map : TextMap) : map.toJson.Readable := by
  refine .object fun member present => ?_
  obtain ⟨entry, -, rfl⟩ := List.mem_map.mp present
  exact .string _

end TextMap

namespace Meta

instance : NamedApart Field where
  fieldNamed?_name field := by cases field <;> decide

/-- What is held of each field once the written metadata have been read. -/
def slots (data : Meta) : Slots Field
  | .name => data.name.map some
  | .generateName => data.generateName.map some
  | .namespaceName => data.namespaceName.map some
  | .uid => data.uid.map some
  | .labels => data.labels.map some
  | .annotations => data.annotations.map some

theorem names_members_nodup (data : Meta) : (data.members.map (·.1)).Nodup := by
  have sublist : (data.members.map (·.1)).Sublist
      (["annotations"] ++ ["generateName"] ++ ["labels"] ++ ["name"] ++ ["namespace"] ++
        ["uid"]) := by
    simp only [members, List.map_append]
    exact (((((Json.names_optional_sublist ..).append (Json.names_optional_sublist ..)).append
      (Json.names_optional_sublist ..)).append (Json.names_optional_sublist ..)).append
      (Json.names_optional_sublist ..)).append (Json.names_optional_sublist ..)
  exact sublist.nodup (by decide)

/-- The member that the document has for each field. -/
def written (data : Meta) : Field → Option Json
  | .name => data.name.map .string
  | .generateName => data.generateName.map .string
  | .namespaceName => data.namespaceName.map .string
  | .uid => data.uid.map .string
  | .labels => data.labels.map TextMap.toJson
  | .annotations => data.annotations.map TextMap.toJson

theorem lookup_members (data : Meta) (field : Field) :
    data.members.lookup (Fields.name field) = data.written field := by
  cases field <;>
    simp [members, written, List.lookup_append, Json.lookup_optional, Fields.name, Field.key]

theorem read_map (map : TextMap) :
    Reading.option Reading.textMap map.toJson = .ok (some map) := by
  rw [Reading.option_eq (by simp [TextMap.toJson]), TextMap.read_toJson]
  rfl

theorem filled (data : Meta) (field : Field) :
    Filled field none (data.members.lookup (Fields.name field)) (data.slots field) := by
  rw [lookup_members]
  cases field with
  | name | generateName | namespaceName | uid => exact .optional fun value _ => rfl
  | labels | annotations => exact .optional fun value _ => read_map value

theorem ofSlots_slots (data : Meta) : ofSlots data.slots = data := by
  obtain ⟨name, generateName, namespaceName, uid, labels, annotations⟩ := data
  rw [ofSlots, Meta.mk.injEq]
  exact ⟨join_map_some name, join_map_some generateName, join_map_some namespaceName,
    join_map_some uid, join_map_some labels, join_map_some annotations⟩

theorem read_toJson (data : Meta) : read data.toJson = .ok data :=
  (Reading.record_object_ok_iff data.names_members_nodup).mpr
    ⟨data.slots, data.filled, congrArg _ data.ofSlots_slots⟩

theorem readable_toJson (data : Meta) : data.toJson.Readable := by
  have text (name : String) (given : Option String) :
      ∀ member ∈ Json.optional name .string given, member.2.Readable :=
    Json.readable_optional fun value _ => .string value
  have map (name : String) (given : Option TextMap) :
      ∀ member ∈ Json.optional name TextMap.toJson given, member.2.Readable :=
    Json.readable_optional fun value _ => value.readable_toJson
  refine .object ?_
  simp only [members, List.forall_mem_append]
  exact ⟨⟨⟨⟨⟨map _ _, text _ _⟩, map _ _⟩, text _ _⟩, text _ _⟩, text _ _⟩

end Meta

namespace ImageCache

namespace Group

instance : NamedApart Field where
  fieldNamed?_name field := by cases field <;> decide

/-- What is held of each field once the written group has been read. -/
def slots (group : Group) : Slots Field
  | .images => some group.images
  | .nodeSelector => if group.nodeSelector.isEmpty then none else some group.nodeSelector

theorem ofSlots_slots (group : Group) : ofSlots group.slots = .ok group := by
  obtain ⟨images, nodeSelector⟩ := group
  by_cases empty : nodeSelector.isEmpty = true
  · obtain rfl := TextMap.isEmpty_iff.mp empty
    rfl
  · simp only [ofSlots, slots, empty]
    rfl

theorem read_toJson (group : Group) : read group.toJson = .ok group := by
  have texts : Reading.list Reading.string (Json.texts group.images) = .ok group.images :=
    Reading.items_map fun _ _ => rfl
  unfold toJson
  split
  · rename_i empty
    refine (Reading.record_object_ok_iff (by simp)).mpr
      ⟨group.slots, fun field => ?_, group.ofSlots_slots⟩
    cases field with
    | images => exact .given texts
    | nodeSelector =>
      rw [slots, if_pos empty]
      exact .absent
  · rename_i filled
    refine (Reading.record_object_ok_iff (by simp)).mpr
      ⟨group.slots, fun field => ?_, group.ofSlots_slots⟩
    cases field with
    | images => exact .given texts
    | nodeSelector =>
      rw [slots, if_neg filled]
      exact .given group.nodeSelector.read_toJson

theorem readable_toJson (group : Group) : group.toJson.Readable := by
  have images : (Json.texts group.images).Readable :=
    .array fun item present => by
      obtain ⟨image, -, rfl⟩ := List.mem_map.mp present
      exact .string image
  refine .object (List.forall_mem_cons.mpr ⟨images, ?_⟩)
  split
  · simp
  · simpa using group.nodeSelector.readable_toJson

end Group

namespace PullSecret

instance : NamedApart Field where
  fieldNamed?_name field := by cases field; decide

theorem read_toJson (secret : PullSecret) : read secret.toJson = .ok secret :=
  rfl

theorem readable_toJson (secret : PullSecret) : secret.toJson.Readable :=
  .object (by simpa using .string secret.name)

end PullSecret

namespace Spec

instance : NamedApart Field where
  fieldNamed?_name field := by cases field <;> decide

/-- What is held of each field once the written specification has been read. -/
def slots (spec : Spec) : Slots Field
  | .cacheSpec => some spec.cacheSpec
  | .imagePullSecrets => if spec.imagePullSecrets.isEmpty then none else some spec.imagePullSecrets

theorem ofSlots_slots (spec : Spec) : ofSlots spec.slots = .ok spec := by
  obtain ⟨cacheSpec, secrets⟩ := spec
  cases secrets with
  | nil => rfl
  | cons first rest => rfl

theorem read_toJson (spec : Spec) : read spec.toJson = .ok spec := by
  have groups : Reading.list Group.read (.array (spec.cacheSpec.map Group.toJson)) =
      .ok spec.cacheSpec :=
    Reading.items_map fun group _ => group.read_toJson
  have secrets : Reading.list PullSecret.read
      (.array (spec.imagePullSecrets.map PullSecret.toJson)) = .ok spec.imagePullSecrets :=
    Reading.items_map fun secret _ => secret.read_toJson
  unfold toJson
  split
  · rename_i empty
    refine (Reading.record_object_ok_iff (by simp)).mpr
      ⟨spec.slots, fun field => ?_, spec.ofSlots_slots⟩
    cases field with
    | cacheSpec => exact .given groups
    | imagePullSecrets =>
      rw [slots, if_pos empty]
      exact .absent
  · rename_i filled
    refine (Reading.record_object_ok_iff (by simp)).mpr
      ⟨spec.slots, fun field => ?_, spec.ofSlots_slots⟩
    cases field with
    | cacheSpec => exact .given groups
    | imagePullSecrets =>
      rw [slots, if_neg filled]
      exact .given secrets

theorem readable_toJson (spec : Spec) : spec.toJson.Readable := by
  have groups : (Json.array (spec.cacheSpec.map Group.toJson)).Readable :=
    .array fun item present => by
      obtain ⟨group, -, rfl⟩ := List.mem_map.mp present
      exact group.readable_toJson
  have secrets : (Json.array (spec.imagePullSecrets.map PullSecret.toJson)).Readable :=
    .array fun item present => by
      obtain ⟨secret, -, rfl⟩ := List.mem_map.mp present
      exact secret.readable_toJson
  refine .object (List.forall_mem_cons.mpr ⟨groups, ?_⟩)
  split
  · simp
  · simpa using secrets

end Spec

theorem Phase.read_toJson (phase : Phase) : read phase.toJson = .ok phase := by
  cases phase <;> rfl

namespace Status

instance : NamedApart Field where
  fieldNamed?_name field := by cases field <;> decide

/-- Both times of the status, where it has them, have a written form of RFC 3339. -/
def HasOrdinaryTimes (status : Status) : Prop :=
  (∀ time ∈ status.startTime, time.Ordinary) ∧ ∀ time ∈ status.completionTime, time.Ordinary

/-- What is held of each field once the written status has been read. -/
def slots (status : Status) : Slots Field
  | .phase => some status.phase
  | .reason => status.reason.map some
  | .message => status.message.map some
  | .startTime => status.startTime.map some
  | .completionTime => status.completionTime.map some

/-- The members of the written status. -/
def members (status : Status) : List (String × Json) :=
  ("phase", status.phase.toJson) :: (Json.optional "reason" .string status.reason ++
    Json.optional "message" .string status.message ++
    Json.optional "startTime" (fun time => .string time.render) status.startTime ++
    Json.optional "completionTime" (fun time => .string time.render) status.completionTime)

theorem names_members_nodup (status : Status) : (status.members.map (·.1)).Nodup := by
  have sublist : (status.members.map (·.1)).Sublist
      ("phase" :: (["reason"] ++ ["message"] ++ ["startTime"] ++ ["completionTime"])) := by
    simp only [members, List.map_cons, List.map_append]
    exact ((((Json.names_optional_sublist ..).append (Json.names_optional_sublist ..)).append
      (Json.names_optional_sublist ..)).append (Json.names_optional_sublist ..)).cons_cons _
  exact sublist.nodup (by decide)

theorem read_time {time : Instant} (ordinary : time.Ordinary) :
    Reading.option Reading.instant (.string time.render) = .ok (some time) := by
  simp only [Reading.option, Reading.instant, parse_render_instant ordinary, Except.map]

/-- The member that the document has for each field. -/
def written (status : Status) : Field → Option Json
  | .phase => some status.phase.toJson
  | .reason => status.reason.map .string
  | .message => status.message.map .string
  | .startTime => status.startTime.map fun time => .string time.render
  | .completionTime => status.completionTime.map fun time => .string time.render

theorem lookup_members (status : Status) (field : Field) :
    status.members.lookup (Fields.name field) = status.written field := by
  cases field <;>
    simp [members, written, List.lookup_cons, List.lookup_append, Json.lookup_optional,
      Fields.name, Field.name]

theorem filled {status : Status} (ordinary : status.HasOrdinaryTimes) (field : Field) :
    Filled field none (status.members.lookup (Fields.name field)) (status.slots field) := by
  obtain ⟨start, completion⟩ := ordinary
  -- Named so that no reader of a time is run to see that it is one.
  have startReader : Fields.read Field.startTime = Reading.option Reading.instant := rfl
  have completionReader : Fields.read Field.completionTime = Reading.option Reading.instant := rfl
  rw [lookup_members]
  cases field with
  | phase => exact .given status.phase.read_toJson
  | reason | message => exact .optional fun value _ => rfl
  | startTime =>
    exact .optional fun time present =>
      (congrFun startReader _).trans (read_time (start time present))
  | completionTime =>
    exact .optional fun time present =>
      (congrFun completionReader _).trans (read_time (completion time present))

theorem ofSlots_slots (status : Status) : ofSlots status.slots = .ok status := by
  obtain ⟨phase, reason, message, startTime, completionTime⟩ := status
  refine congrArg Except.ok ?_
  rw [Status.mk.injEq]
  exact ⟨rfl, join_map_some reason, join_map_some message, join_map_some startTime,
    join_map_some completionTime⟩

theorem read_toJson {status : Status} (ordinary : status.HasOrdinaryTimes) :
    read status.toJson = .ok status :=
  (Reading.record_object_ok_iff status.names_members_nodup).mpr
    ⟨status.slots, filled ordinary, status.ofSlots_slots⟩

theorem readable_toJson (status : Status) : status.toJson.Readable := by
  have text (name : String) (given : Option String) :
      ∀ member ∈ Json.optional name .string given, member.2.Readable :=
    Json.readable_optional fun value _ => .string value
  have time (name : String) (given : Option Instant) :
      ∀ member ∈ Json.optional name (fun time => .string time.render) given, member.2.Readable :=
    Json.readable_optional fun value _ => .string value.render
  have each : ∀ member ∈ status.members, member.2.Readable := by
    simp only [members, List.forall_mem_cons, List.forall_mem_append]
    exact ⟨.string _, ⟨⟨text _ _, text _ _⟩, time _ _⟩, time _ _⟩
  exact .object each

end Status

instance : NamedApart Field where
  fieldNamed?_name field := by cases field <;> decide

/-- What is held of each field once the written cache has been read. -/
def slots (cache : ImageCache) : Slots Field
  | .metadata => some cache.metadata
  | .spec => some cache.spec
  | .status => cache.status.map some

theorem read_toJson {cache : ImageCache}
    (ordinary : ∀ status ∈ cache.status, status.HasOrdinaryTimes) :
    read cache.toJson = .ok cache := by
  obtain ⟨metadata, spec, status⟩ := cache
  cases status with
  | none =>
    refine (Reading.record_object_ok_iff (by simp [Json.optional])).mpr
      ⟨slots ⟨metadata, spec, none⟩, fun field => ?_, rfl⟩
    cases field with
    | metadata => exact .given metadata.read_toJson
    | spec => exact .given spec.read_toJson
    | status => exact .absent
  | some status =>
    have statusRead : Reading.option Status.read status.toJson = .ok (some status) := by
      rw [Reading.option_eq (by simp [Status.toJson]), Status.read_toJson (ordinary status rfl)]
      rfl
    refine (Reading.record_object_ok_iff (by simp [Json.optional])).mpr
      ⟨slots ⟨metadata, spec, some status⟩, fun field => ?_, rfl⟩
    cases field with
    | metadata => exact .given metadata.read_toJson
    | spec => exact .given spec.read_toJson
    | status => exact .given statusRead

theorem readable_toJson (cache : ImageCache) : cache.toJson.Readable := by
  refine .object ?_
  simp only [List.forall_mem_append, List.forall_mem_cons, List.not_mem_nil, false_implies,
    implies_true, and_true]
  exact ⟨⟨.string _, .string _, cache.metadata.readable_toJson, cache.spec.readable_toJson⟩,
    Json.readable_optional fun status _ => status.readable_toJson⟩

/-- Nothing is lost in the document of a cache, as a tree and as a text: reading it gives the cache
back, with what was left out because it was empty or not there. -/
theorem cache_reads_back {cache : ImageCache}
    (ordinary : ∀ status ∈ cache.status, status.HasOrdinaryTimes) :
    read cache.toJson = .ok cache ∧ Reading.parse read cache.toJson.render = .ok cache := by
  have tree := read_toJson ordinary
  refine ⟨tree, ?_⟩
  rw [Reading.parse, Json.parse?_render cache.readable_toJson]
  simp only [tree, Except.mapError]

/-- A cache with a map without entries, a name with characters to escape, a group without images and
times at both ends of the years. -/
def oddCache : ImageCache where
  metadata := { generateName := some "ca\"che-\n\u00e9", labels := some .empty }
  spec := ⟨[⟨[], .empty⟩, ⟨["nginx:1.27.2"], TextMap.empty.insert "zone" ""⟩], []⟩
  status := some
    { phase := .aborted
      reason := some ""
      startTime := some ⟨-62167219200, 1⟩
      completionTime := some ⟨253402300799, 999999999⟩ }

theorem oddCache_reads_back : (∀ status ∈ oddCache.status, status.HasOrdinaryTimes) ∧
    read oddCache.toJson = .ok oddCache ∧
      Reading.parse read oddCache.toJson.render = .ok oddCache := by
  have ordinary : ∀ status ∈ oddCache.status, status.HasOrdinaryTimes := by
    rintro status ⟨rfl⟩
    refine ⟨?_, ?_⟩
    · rintro time ⟨rfl⟩
      exact ⟨by decide, by decide, by decide⟩
    · rintro time ⟨rfl⟩
      exact ⟨by decide, by decide, by decide⟩
  exact ⟨ordinary, cache_reads_back ordinary⟩

end ImageCache

end ImageJobs
