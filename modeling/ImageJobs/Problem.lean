namespace ImageJobs

/-- An error that is reported to a caller. -/
inductive Problem where
  /-- An input that is missing or wrong: the cache it belongs to, and the path of the field. -/
  | invalidInput (cache message : String) (field : Option String)
  /-- A value of some kind that could not be written. -/
  | unwritable (message : String) (kind : Option String)
  deriving DecidableEq, Repr

namespace Problem

/-- Stands for a cache that is not known. -/
def unknownCache : String := "unknown"

/-- A wrong input before its cache is known. -/
def ofMessage (message : String) : Problem :=
  .invalidInput unknownCache message none

def ofField (cache field message : String) : Problem :=
  .invalidInput cache message (some field)

def ofKind (kind message : String) : Problem :=
  .unwritable message (some kind)

def cache? : Problem → Option String
  | .invalidInput cache _ _ => some cache
  | .unwritable _ _ => none

def field? : Problem → Option String
  | .invalidInput _ _ field => field
  | .unwritable _ _ => none

def describe : Problem → String
  | .invalidInput cache message _ => "validation error for " ++ cache ++ ": " ++ message
  | .unwritable message _ => "serialization error: " ++ message

end Problem

end ImageJobs
