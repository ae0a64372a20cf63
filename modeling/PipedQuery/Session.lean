import PipedQuery.Clause
import PipedQuery.Field

/-!
The state of one query being typed, as far as the words alone do not show it.
-/

set_option autoImplicit false
set_option relaxedAutoImplicit false

namespace PipedQuery

/-- The field that a filter compares. Its type is unknown when the field is not in the
resident list. -/
structure ActiveField where
  name : String
  type : Option FieldType
deriving DecidableEq

structure Session where
  activeIndex : Option String := none
  activeField : Option ActiveField := none
  /-- A list of fields is being typed. -/
  listsFields : Bool := false
  clause : Clause := .idle
deriving DecidableEq

namespace Clause

def toJson : Clause → Json
  | idle => .object [("clause", .string "idle")]
  | stats anchor => .object [("anchor", .integer anchor), ("clause", .string "stats")]
  | filter anchor => .object [("anchor", .integer anchor), ("clause", .string "where")]

end Clause

namespace ActiveField

def toJson (field : ActiveField) : Json :=
  .object [("field_type", .orNull (field.type.map FieldType.toJson)), ("name", .string field.name)]

end ActiveField

namespace Session

/-- A new segment after a pipe keeps the index and nothing else. -/
def startSegment (session : Session) : Session :=
  { activeIndex := session.activeIndex }

/-- The session with its names in code-point order. -/
def members (session : Session) : List (String × Json) :=
  [("active_field", .orNull (session.activeField.map ActiveField.toJson)),
    ("active_index", .orNull (session.activeIndex.map .string)),
    ("clause", session.clause.toJson),
    ("fields_list_mode", .bool session.listsFields)]

def toJson (session : Session) : Json :=
  .object session.members

end Session
end PipedQuery
