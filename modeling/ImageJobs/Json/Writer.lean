import ImageJobs.Json.Value

namespace ImageJobs

/-- The digits of a number in base ten. -/
def decimal (value : Nat) : List Char :=
  Nat.toDigits 10 value

def decimalInt (value : Int) : List Char :=
  if value < 0 then '-' :: decimal value.natAbs else decimal value.natAbs

namespace Numeral

/-- An exponent is written after a lower-case `e`, without a plus sign. -/
def write (numeral : Numeral) : List Char :=
  (if numeral.negative then ['-'] else []) ++ decimal numeral.whole ++
    (if numeral.fraction.isEmpty then []
      else '.' :: numeral.fraction.map fun digit => digit.val.digitChar) ++
    (match numeral.exponent with
      | none => []
      | some exponent => 'e' :: decimalInt exponent)

end Numeral

namespace Json

/-- A control without a short escape is written with two hexadecimal digits after `u00`. -/
def escapeChar (char : Char) : List Char :=
  match char with
  | '"' => ['\\', '"']
  | '\\' => ['\\', '\\']
  | '\x08' => ['\\', 'b']
  | '\x0c' => ['\\', 'f']
  | '\n' => ['\\', 'n']
  | '\r' => ['\\', 'r']
  | '\t' => ['\\', 't']
  | _ =>
    if char.toNat < 0x20 then
      ['\\', 'u', '0', '0', (char.toNat / 16).digitChar, (char.toNat % 16).digitChar]
    else [char]

/-- What stands between the quotes of a written text. -/
def escape (text : List Char) : List Char :=
  text.flatMap escapeChar

def writeText (text : String) : List Char :=
  '"' :: escape text.toList ++ ['"']

mutual

/-- What cannot be read has no written form of its own and stands as `null`. -/
def write : Json → List Char
  | .null => ['n', 'u', 'l', 'l']
  | .bool true => ['t', 'r', 'u', 'e']
  | .bool false => ['f', 'a', 'l', 's', 'e']
  | .number numeral => numeral.write
  | .string value => writeText value
  | .unreadable => ['n', 'u', 'l', 'l']
  | .array items => '[' :: writeItems items
  | .object members => '\x7b' :: writeMembers members
  | .brokenObject _ => ['n', 'u', 'l', 'l']

/-- The items of a list and its closing bracket. -/
def writeItems : List Json → List Char
  | [] => [']']
  | [item] => item.write ++ [']']
  | item :: next :: rest => item.write ++ ',' :: writeItems (next :: rest)

/-- The members of an object and its closing brace. -/
def writeMembers : List (String × Json) → List Char
  | [] => ['\x7d']
  | [(name, value)] => writeText name ++ ':' :: value.write ++ ['\x7d']
  | (name, value) :: next :: rest =>
    writeText name ++ ':' :: value.write ++ ',' :: writeMembers (next :: rest)

end

def render (value : Json) : String :=
  String.ofList value.write

mutual

/-- What keeps the document from being written, if it holds something that has no written form of
its own. -/
def obstacle? : Json → Option String
  | .unreadable => some "lone leading surrogate in hex escape"
  | .brokenObject _ => some "key must be a string"
  | .array items => itemObstacle? items
  | .object members => memberObstacle? members
  | .null | .bool _ | .number _ | .string _ => none

def itemObstacle? : List Json → Option String
  | [] => none
  | item :: rest => item.obstacle?.or (itemObstacle? rest)

def memberObstacle? : List (String × Json) → Option String
  | [] => none
  | (_, value) :: rest => value.obstacle?.or (memberObstacle? rest)

end

/-- The written form of a document that has one. -/
def tryWrite (value : Json) : Except String (List Char) :=
  match value.obstacle? with
  | some obstacle => .error obstacle
  | none => .ok value.write

@[simp] theorem obstacle?_string (value : String) : obstacle? (.string value) = none := by
  rw [obstacle?]

@[simp] theorem obstacle?_number (value : Numeral) : obstacle? (.number value) = none := by
  rw [obstacle?]

@[simp] theorem obstacle?_array {items : List Json} :
    obstacle? (.array items) = none ↔ ∀ item ∈ items, item.obstacle? = none := by
  rw [obstacle?]
  induction items with
  | nil => simp [itemObstacle?]
  | cons item rest ih => simp [itemObstacle?, ih]

@[simp] theorem obstacle?_object {members : List (String × Json)} :
    obstacle? (.object members) = none ↔ ∀ member ∈ members, member.2.obstacle? = none := by
  rw [obstacle?]
  induction members with
  | nil => simp [memberObstacle?]
  | cons member rest ih => simp [memberObstacle?, ih]

theorem tryWrite_eq_ok {value : Json} (whole : value.obstacle? = none) :
    value.tryWrite = .ok value.write := by
  rw [tryWrite, whole]

end Json

end ImageJobs
