import RealmPlan.Json

namespace RealmPlan

-- What is said about a value besides its type.
structure Schema.Notes where
  description : Option String := none
  default : Option Json := none
  -- Null is as good as a value.
  nullable : Bool := false

-- The shape of a value, in the part of the cluster's schema language that records like ours need.
inductive Schema where
  | text (notes : Schema.Notes)
  | flag (notes : Schema.Notes)
  | choice (notes : Schema.Notes) (words : List String)
  | list (notes : Schema.Notes) (items : Schema)
  | table (notes : Schema.Notes) (values : Schema)
  | record (notes : Schema.Notes) (fields : List (String × Schema)) (required : List String)
  | anyOf (options : List Schema)
  | null

namespace Schema

def Notes.json (notes : Notes) : List (String × Json) :=
  Json.field? "default" id notes.default ++
  Json.field? "description" .text notes.description ++
  (if notes.nullable then [("nullable", .bool true)] else [])

def typed (type : String) (notes : Notes) (more : List (String × Json)) : Json :=
  .ofEntries (("type", .text type) :: notes.json ++ more)

mutual
def json : Schema → Json
  | text notes => typed "string" notes []
  | flag notes => typed "boolean" notes []
  | choice notes words => typed "string" notes [("enum", .texts words)]
  | list notes items => typed "array" notes [("items", json items)]
  | table notes values => typed "object" notes [("additionalProperties", json values)]
  | record notes fields required =>
    typed "object" notes <|
      (if fields.isEmpty then [] else [("properties", .ofEntries (jsonFields fields))]) ++
      (if required.isEmpty then [] else [("required", .texts required)])
  | anyOf options => .object [("anyOf", .list (jsonAll options))]
  | null => .object [("enum", .list [.null]), ("nullable", .bool true)]

def jsonAll : List Schema → List Json
  | [] => []
  | schema :: rest => json schema :: jsonAll rest

def jsonFields : List (String × Schema) → List (String × Json)
  | [] => []
  | (name, schema) :: rest => (name, json schema) :: jsonFields rest
end

end Schema
end RealmPlan
