/-! JSON documents as trees. Members keep their order and their repeats, and a number keeps the
digits it is written with, so that a reader of records sees all that the text says. -/

namespace ImageJobs

/-- A JSON number as it is written. -/
structure Numeral where
  negative : Bool
  whole : Nat
  /-- The digits after the point, the most significant first; none without a point. -/
  fraction : List (Fin 10)
  exponent : Option Int
  deriving DecidableEq, Repr

namespace Numeral

def ofInt (value : Int) : Numeral :=
  ⟨value < 0, value.natAbs, [], none⟩

/-- The value of an ASCII digit. -/
def digitValue (char : Char) : Fin 10 :=
  Fin.ofNat 10 (char.toNat - '0'.toNat)

end Numeral

inductive Json where
  | null
  | bool (value : Bool)
  | number (value : Numeral)
  | string (value : String)
  /-- A well-formed text whose escapes denote no characters. -/
  | unreadable
  | array (items : List Json)
  | object (members : List (String × Json))
  /-- A well-formed object with such a text as a name, and the members before that name. -/
  | brokenObject (members : List (String × Json))
  deriving Repr

namespace Json

def int (value : Int) : Json :=
  .number (.ofInt value)

def texts (values : List String) : Json :=
  .array (values.map .string)

/-- A member that is left out when there is no value for it. -/
def optional (name : String) (write : α → Json) : Option α → List (String × Json)
  | none => []
  | some value => [(name, write value)]

end Json

end ImageJobs
