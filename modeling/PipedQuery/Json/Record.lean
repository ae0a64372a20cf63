import PipedQuery.Json

/-!
Records in JSON. A record is an object whose known names occur at most once, or an array of the
fields in their declared order, where the last ones may miss in some records. Unknown names are
skipped.
-/

set_option autoImplicit false
set_option relaxedAutoImplicit false

namespace PipedQuery.Json

/-- The known members of a record, by name. -/
abbrev Fields := List (String × Json)

def distinct : List String → Bool
  | [] => true
  | name :: rest => !rest.contains name && distinct rest

/-- The fields of a record with the given names. -/
def record (names : List String) : Json → Option Fields
  | object members =>
    let known := members.filter fun member ↦ names.contains member.1
    if distinct (known.map Prod.fst) then some known else none
  | array items => if items.length ≤ names.length then some (names.zip items) else none
  | _ => none

/-- The fields of a record that an array must list in full. -/
def fullRecord (names : List String) : Json → Option Fields
  | array items => if items.length = names.length then some (names.zip items) else none
  | value => record names value

/-- The fields of a record that is only accepted as an object. -/
def namedRecord (names : List String) : Json → Option Fields
  | object members => record names (object members)
  | _ => none

namespace Fields

variable {α : Type}

def required (fields : Fields) (name : String) (decode : Json → Option α) : Option α :=
  (fields.lookup name).bind decode

/-- A field that may be missing. A null in its place is not the default but a value. -/
def withDefault (fields : Fields) (name : String) (fallback : α) (decode : Json → Option α) :
    Option α :=
  match fields.lookup name with
  | none => some fallback
  | some value => decode value

/-- A field that may be missing or null. -/
def optional (fields : Fields) (name : String) (decode : Json → Option α) :
    Option (Option α) :=
  match fields.lookup name with
  | none => some none
  | some null => some none
  | some value => (decode value).map some

end Fields

/-- Any value at all, in its canonical form. -/
def any (value : Json) : Option Json :=
  if value.readable then some value.canonical else none

def list {α : Type} (decode : Json → Option α) (value : Json) : Option (List α) :=
  value.array?.bind (·.mapM decode)

/-- The choice of a tagged value: a bare name, or an object with one member. -/
inductive Tagged where
  | bare (name : String)
  | carrying (name : String) (value : Json)

def tagged : Json → Option Tagged
  | string name => some (.bare name)
  | object [(name, value)] => some (.carrying name value)
  | _ => none

end PipedQuery.Json
