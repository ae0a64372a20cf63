import PipedQuery.Json.Record

/-!
The fields of an index and their logical types. A backend type without a logical counterpart is
kept as it is written.
-/

set_option autoImplicit false
set_option relaxedAutoImplicit false

namespace PipedQuery

inductive FieldType where
  | string
  | integer
  | float
  | boolean
  | date
  | geoPoint
  | other (raw : String)
deriving DecidableEq

structure Field where
  name : String
  type : FieldType
deriving DecidableEq

namespace FieldType

def ofBackend (raw : String) : FieldType :=
  if raw = "keyword" ∨ raw = "string" then string
  else if raw = "integer" then integer
  else if raw = "float" then float
  else if raw = "boolean" then boolean
  else if raw = "date" then date
  else if raw = "geo_point" then geoPoint
  else other raw

/-- The types that an aggregate accepts. -/
def isNumeric : FieldType → Bool
  | integer | float => true
  | _ => false

def name : FieldType → String
  | string => "string"
  | integer => "integer"
  | float => "float"
  | boolean => "boolean"
  | date => "date"
  | geoPoint => "geo_point"
  | other raw => raw

/-- The types that are written by their name alone. -/
def named : List FieldType := [string, integer, float, boolean, date, geoPoint]

def toJson : FieldType → Json
  | other raw => .object [("other", .string raw)]
  | type => .string type.name

def ofJson (value : Json) : Option FieldType :=
  match value.tagged with
  | some (.bare text) => named.find? (·.name = text)
  | some (.carrying tag content) =>
    if tag = "other" then content.string?.map other
    else match content with
      | .null => named.find? (·.name = tag)
      | _ => none
  | none => none

end FieldType

namespace Field

def toJson (field : Field) : Json :=
  .object [("name", .string field.name), ("type", field.type.toJson)]

def ofJson (value : Json) : Option Field := do
  let fields ← value.record ["name", "type"]
  let name ← fields.required "name" Json.string?
  let type ← fields.required "type" FieldType.ofJson
  return ⟨name, type⟩

end Field
end PipedQuery
