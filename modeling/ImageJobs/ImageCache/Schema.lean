import ImageJobs.Json.Value

namespace ImageJobs

/-- What a schema says besides the shape. -/
structure SchemaNote where
  description : Option String := none
  title : Option String := none
  /-- Whether null is admitted too. -/
  nullable : Bool := false
  deriving DecidableEq, Repr

inductive Schema where
  /-- A text, of the listed ones if there are any. The format tells what the text is to mean. -/
  | string (note : SchemaNote) (format : Option String) (choices : List String)
  | array (note : SchemaNote) (items : Schema)
  /-- An object with any names and values of one schema. -/
  | map (note : SchemaNote) (values : Schema)
  /-- An object with known members, some of them required. Other members are admitted. -/
  | record (note : SchemaNote) (properties : List (String × Schema)) (required : List String)
  deriving Repr

namespace SchemaNote

def members (note : SchemaNote) : List (String × Json) :=
  Json.optional "description" .string note.description ++
    Json.optional "title" .string note.title ++
    if note.nullable then [("nullable", .bool true)] else []

end SchemaNote

namespace Schema

def note : Schema → SchemaNote
  | .string note _ _ => note
  | .array note _ => note
  | .map note _ => note
  | .record note _ _ => note

mutual

/-- Whether a value has the shape that the schema states. Formats are not checked. -/
def admits : Schema → Json → Bool
  | schema, .null => schema.note.nullable
  | .string _ _ choices, .string value => choices.isEmpty || choices.contains value
  | .array _ items, .array values => values.all (admits items)
  | .map _ schema, .object members => members.all fun member => admits schema member.2
  | .record _ properties required, .object members =>
    required.all (fun name => members.any fun member => member.1 == name) &&
      admitsProperties properties members
  | _, _ => false

def admitsProperties : List (String × Schema) → List (String × Json) → Bool
  | [], _ => true
  | (name, schema) :: rest, members =>
    members.all (fun member => member.1 != name || admits schema member.2) &&
      admitsProperties rest members

end

mutual

def toJson : Schema → Json
  | .string note format choices =>
    .object (note.members ++ Json.optional "format" .string format ++
      (if choices.isEmpty then [] else [("enum", Json.texts choices)]) ++
      [("type", .string "string")])
  | .array note items =>
    .object (note.members ++ [("items", items.toJson), ("type", .string "array")])
  | .map note values =>
    .object (note.members ++
      [("additionalProperties", values.toJson), ("type", .string "object")])
  | .record note properties required =>
    .object (note.members ++
      [("properties", .object (propertiesToJson properties)), ("required", Json.texts required),
       ("type", .string "object")])

def propertiesToJson : List (String × Schema) → List (String × Json)
  | [] => []
  | (name, schema) :: rest => (name, schema.toJson) :: propertiesToJson rest

end

end Schema

end ImageJobs
