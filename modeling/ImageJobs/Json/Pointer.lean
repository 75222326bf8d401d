import ImageJobs.Json.Value

namespace ImageJobs.Json

/-- The steps of a path; none for a text that is neither empty nor starts with a slash. -/
def pointerSteps? : List Char → Option (List (List Char))
  | [] => some []
  | '/' :: rest => some (rest.splitOn '/')
  | _ => none

/-- In a step `~1` stands for a slash and `~0` for a tilde; any other tilde for itself. -/
def unescapeStep : List Char → List Char
  | '~' :: '1' :: rest => '/' :: unescapeStep rest
  | '~' :: '0' :: rest => '~' :: unescapeStep rest
  | char :: rest => char :: unescapeStep rest
  | [] => []

/-- A position has no sign and no leading zero. -/
def position? (step : List Char) : Option Nat :=
  match step with
  | [] => none
  | ['0'] => some 0
  | '0' :: _ => none
  | digits => if digits.all Char.isDigit then some (Nat.ofDigitChars 10 digits 0) else none

def child? (value : Json) (step : List Char) : Option Json :=
  match value with
  | .object members => members.lookup (String.ofList step)
  | .array items => (position? step).bind (items[·]?)
  | _ => none

/-- The part of the document that the pointer names. -/
def at? (value : Json) (pointer : String) : Option Json := do
  let steps ← pointerSteps? pointer.toList
  steps.foldlM (fun part step => part.child? (unescapeStep step)) value

end ImageJobs.Json
