import ImageJobs.Document.Reading

/-! Records: objects with known fields of known types. The fields of a record are the values of an
enumeration type, and what has been read so far is a value of each field's type, if any. -/

namespace ImageJobs

/-- The fields of a record. -/
class Fields (F : Type) where
  /-- Every field, in declared order. -/
  all : List F
  name : F → String
  Value : F → Type
  read : (field : F) → Reading (Value field)
  /-- Whether the record may be given as a list that ends before the field. -/
  mayEnd : F → Bool

/-- What has been read of a record. -/
def Slots (F : Type) [Fields F] : Type :=
  (field : F) → Option (Fields.Value field)

/-- How the documents of a record may look. -/
structure RecordForm where
  /-- What a fault says that it expected. -/
  expected : String
  /-- Whether the record may be given as a list of its fields in declared order. -/
  asList : Bool
  /-- Whether a field may be repeated, so that the last one counts. -/
  repeats : Bool

namespace Slots

variable {F : Type} [Fields F]

def empty : Slots F :=
  fun _ => none

def put [DecidableEq F] (slots : Slots F) (field : F) (value : Fields.Value field) : Slots F :=
  fun other => if same : other = field then some (same ▸ value) else slots other

/-- The value of a field that the document has to give. -/
def require (slots : Slots F) (field : F) : Except Fault (Fields.Value field) :=
  match slots field with
  | some value => .ok value
  | none => .error (.missingField (Fields.name field))

variable [DecidableEq F]

@[simp] theorem put_self (slots : Slots F) (field : F) (value : Fields.Value field) :
    slots.put field value field = some value := by
  simp [put]

theorem put_of_ne (slots : Slots F) {field other : F} (value : Fields.Value field)
    (different : other ≠ field) : slots.put field value other = slots other := by
  simp [put, different]

theorem put_comm (slots : Slots F) {field other : F} (value : Fields.Value field)
    (second : Fields.Value other) (different : other ≠ field) :
    (slots.put field value).put other second = (slots.put other second).put field value := by
  funext any
  by_cases first : any = field
  · subst first
    rw [put_self, put_of_ne _ _ different.symm, put_self]
  · by_cases later : any = other
    · subst later
      rw [put_self, put_of_ne _ _ first, put_self]
    · rw [put_of_ne _ _ later, put_of_ne _ _ first, put_of_ne _ _ first, put_of_ne _ _ later]

end Slots

namespace Reading

variable {F : Type} [Fields F] [DecidableEq F]

def fieldNamed? (name : String) : Option F :=
  (Fields.all (F := F)).find? fun field => Fields.name field == name

/-- Members with unknown names are skipped whatever they hold. -/
def members (form : RecordForm) :
    List (String × Json) → Slots F → Except Fault (Slots F)
  | [], slots => .ok slots
  | (name, value) :: rest, slots =>
    match fieldNamed? (F := F) name with
    | none => members form rest slots
    | some field =>
      if !form.repeats && (slots field).isSome then .error (.repeatedField name)
      else do
        let held ← Fields.read field value
        members form rest (slots.put field held)

/-- Fills the fields in turn. The count is that of the items of the whole list. -/
def positions (expected : String) (count : Nat) :
    List F → List Json → Slots F → Except Fault (Slots F)
  | [], [], slots => .ok slots
  | [], _ :: _, _ => .error (.tooManyItems count)
  | field :: fields, item :: items, slots => do
    let held ← Fields.read field item
    positions expected count fields items (slots.put field held)
  | field :: fields, [], slots =>
    if Fields.mayEnd field then positions expected count fields [] slots
    else .error (.tooFewItems count expected)

/-- What a fault expects of a list that stands for a record. -/
def lengthExpected (expected : String) (fields : Nat) : String :=
  expected ++ " with " ++ toString fields ++ if fields = 1 then " element" else " elements"

def record (form : RecordForm) (finish : Slots F → Except Fault α) : Reading α
  | .object values => do finish (← members form values .empty)
  | .brokenObject values => do
    let _ ← members (F := F) form values .empty
    .error .malformed
  | .array values =>
    if form.asList then do
      let fields := Fields.all (F := F)
      finish (← positions (lengthExpected form.expected fields.length) values.length fields values
        .empty)
    else .error (.wrongType .sequence form.expected)
  | value => .error (refuse form.expected value)

end Reading

end ImageJobs
