import ImageJobs.Calendar.TimeReader
import ImageJobs.Document.Fault
import ImageJobs.Json.Reader
import ImageJobs.Text.Map

namespace ImageJobs

abbrev Reading (α : Type) := Json → Except Fault α

namespace Json

/-- What a fault shows of the value; none if the value cannot be read at all. -/
def found? : Json → Option Found
  | .null => some .null
  | .bool value => some (.boolean value)
  | .number numeral => numeral.number?.map .number
  | .string value => some (.string value)
  | .unreadable => none
  | .array _ => some .sequence
  | .object _ => some .map
  | .brokenObject _ => some .map

end Json

namespace Reading

def refuse (expected : String) (value : Json) : Fault :=
  match value.found? with
  | some found => .wrongType found expected
  | none => .malformed

def string : Reading String
  | .string value => .ok value
  | value => .error (refuse "a string" value)

def bool : Reading Bool
  | .bool value => .ok value
  | value => .error (refuse "a boolean" value)

/-- An integer that 64 bits with a sign can hold. -/
def integer : Reading Int
  | .number numeral =>
    match numeral.number? with
    | some (.integer value) =>
      if value < Nat.pow 2 63 then .ok value
      else .error (.wrongValue (.number (.integer value)) "i64")
    | some number => .error (.wrongType (.number number) "i64")
    | none => .error .malformed
  | value => .error (refuse "i64" value)

def null : Reading Unit
  | .null => .ok ()
  | value => .error (refuse "unit" value)

def option (read : Reading α) : Reading (Option α)
  | .null => .ok none
  | value => (read value).map some

theorem option_eq {read : Reading α} {value : Json} (notNull : value ≠ .null) :
    option read value = (read value).map some := by
  cases value with
  | null => exact absurd rfl notNull
  | _ => rfl

def items (read : Reading α) : List Json → Except Fault (List α)
  | [] => .ok []
  | item :: rest => do
    let first ← read item
    return first :: (← items read rest)

def list (read : Reading α) : Reading (List α)
  | .array values => items read values
  | value => .error (refuse "a sequence" value)

def entries : List (String × Json) → Except Fault (List (String × String))
  | [] => .ok []
  | (key, value) :: rest => do
    let text ← string value
    return (key, text) :: (← entries rest)

def textMap : Reading TextMap
  | .object members => (entries members).map .ofList
  | .brokenObject members => do
    let _ ← entries members
    .error .malformed
  | value => .error (refuse "a map" value)

def instant : Reading Instant
  | .string text =>
    match Instant.parse text with
    | .ok instant => .ok instant
    | .error fault => .error (.badTime fault)
  | value => .error (refuse "an RFC 3339 formatted date and time string" value)

def chosen (choices : List (String × α)) (name : String) : Except Fault α :=
  match choices.lookup name with
  | some choice => .ok choice
  | none => .error (.unknownChoice name (choices.map (·.1)))

/-- A choice by a member with its name and with null as the value. -/
def chosenBy (choices : List (String × α)) (member : String × Json) : Except Fault α := do
  let choice ← chosen choices member.1
  null member.2
  return choice

/-- What is wrong with an object that names a choice and does not end after its first member. -/
def memberwise (choices : List (String × α)) : List (String × Json) → Fault
  | [] => .malformed
  | first :: _ =>
    match chosenBy choices first with
    | .ok _ => .malformed
    | .error fault => fault

/-- One of the choices, by its name or by an object of one member. -/
def choice (choices : List (String × α)) : Reading α
  | .string name => chosen choices name
  | .object [member] => chosenBy choices member
  | .object members => .error (.notOneChoice (memberwise choices members))
  | .brokenObject members => .error (memberwise choices members)
  | value =>
    match value.found? with
    | some found => .error (.notChoice found)
    | none => .error .malformed

/-- Reads a document given as text. -/
def parse (read : Reading α) (text : String) : Except Fault α :=
  match Json.parse? text with
  | some value => (read value).mapError Fault.inText
  | none => .error .malformed

end Reading

end ImageJobs
