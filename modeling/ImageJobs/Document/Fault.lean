import ImageJobs.Calendar.Instant
import ImageJobs.Decimal.Shortest
import ImageJobs.Decimal.Numeral
import ImageJobs.Text.Quoted

namespace ImageJobs

/-- What a reader found where it expected something else. -/
inductive Found where
  | null
  | boolean (value : Bool)
  | number (value : Number)
  | string (value : String)
  | sequence
  | map
  deriving DecidableEq, Repr

namespace Found

def describe : Found → String
  | .null => "null"
  | .boolean true => "boolean `true`"
  | .boolean false => "boolean `false`"
  | .number (.integer value) => "integer `" ++ toString value ++ "`"
  | .number (.floating negative magnitude) =>
    "floating point `" ++ (if negative then "-" else "") ++
      String.ofList magnitude.write ++ "`"
  | .string value => "string " ++ String.ofList (Text.quote value.toList)
  | .sequence => "sequence"
  | .map => "map"

end Found

inductive Fault where
  /-- The text is no JSON, or a value in it can be skipped but not read. -/
  | malformed
  | wrongType (found : Found) (expected : String)
  | wrongValue (found : Found) (expected : String)
  | missingField (name : String)
  | repeatedField (name : String)
  | unknownChoice (name : String) (choices : List String)
  /-- A choice that is neither a text nor an object. -/
  | notChoice (found : Found)
  /-- A choice given as an object whose members are not exactly one. Read member by member, it shows
  another fault. -/
  | notOneChoice (memberwise : Fault)
  /-- A list that ends before a field that it has to hold. -/
  | tooFewItems (count : Nat) (expected : String)
  | tooManyItems (count : Nat)
  | badTime (fault : TimeFault)
  deriving DecidableEq, Repr

namespace Fault

def quoteName (name : String) : String :=
  "`" ++ name ++ "`"

/-- Two choices are joined by a word, more are listed. -/
def describeChoices : List String → String
  | [] => "nothing"
  | [only] => quoteName only
  | [first, second] => quoteName first ++ " or " ++ quoteName second
  | choices => "one of " ++ ", ".intercalate (choices.map quoteName)

def message : Fault → String
  | .malformed => "malformed document"
  | .wrongType found expected => "invalid type: " ++ found.describe ++ ", expected " ++ expected
  | .wrongValue found expected => "invalid value: " ++ found.describe ++ ", expected " ++ expected
  | .missingField name => "missing field " ++ quoteName name
  | .repeatedField name => "duplicate field " ++ quoteName name
  | .unknownChoice name choices =>
    "unknown variant " ++ quoteName name ++ ", expected " ++ describeChoices choices
  | .notChoice found => "invalid type: " ++ found.describe ++ ", expected string or map"
  | .notOneChoice _ => "invalid value: map, expected map with a single key"
  | .tooFewItems count expected =>
    "invalid length " ++ toString count ++ ", expected " ++ expected
  | .tooManyItems count =>
    "invalid length " ++ toString count ++ ", expected fewer elements in array"
  | .badTime fault => fault.message

/-- The fault as a reader of text sees it. Text is read member by member, and where only certain
tokens can follow, any other token makes it malformed. -/
def inText : Fault → Fault
  | .notChoice _ => .malformed
  | .notOneChoice memberwise => memberwise
  | .tooManyItems _ => .malformed
  | fault => fault

end Fault

end ImageJobs
