import PipedQuery.Request
import PipedQuery.Settings

/-!
What is known of the backend: the index list once it was loaded, the fields of one index, and
the keys of the fetches under way. The index list never changes once it is there, and a new
field list replaces the old one as a whole. The names of the list are kept a second time, for
looking them up; both copies are written when the list is stored.
-/

set_option autoImplicit false
set_option relaxedAutoImplicit false

namespace PipedQuery

structure IndexFields where
  index : String
  fields : List Field
deriving DecidableEq

structure Catalog where
  /-- The names that may be offered, in the backend's order; `none` until loaded. -/
  loaded : Option (List String) := none
  /-- The names of the index list, each once. -/
  known : List String := []
  resident : Option IndexFields := none
  inFlight : List FetchKey := []
deriving DecidableEq

namespace IndexFields

def toJson (held : IndexFields) : Json :=
  .object [("fields", .array (held.fields.map Field.toJson)), ("index", .string held.index)]

end IndexFields

namespace Catalog

def indices (catalog : Catalog) : List String :=
  catalog.loaded.getD []

def knows (catalog : Catalog) (index : String) : Bool :=
  catalog.known.contains index

/-- Keeps the first index list, without the names that the settings hide. -/
def storeIndices (catalog : Catalog) (settings : Settings) (names : List String) : Catalog :=
  match catalog.loaded with
  | some _ => catalog
  | none =>
    let visible := names.filter settings.shows
    { catalog with loaded := some visible, known := visible.eraseDups }

/-- The fields of an index, if they are the resident ones. -/
def fieldsOf (catalog : Catalog) (index : String) : Option (List Field) :=
  match catalog.resident with
  | some held => if held.index = index then some held.fields else none
  | none => none

def typeOf (catalog : Catalog) (index field : String) : Option FieldType :=
  match catalog.fieldsOf index with
  | some fields => (fields.find? (·.name = field)).map Field.type
  | none => none

def storeFields (catalog : Catalog) (index : String) (fields : List Field) : Catalog :=
  { catalog with resident := some ⟨index, fields⟩ }

def isInFlight (catalog : Catalog) (key : FetchKey) : Bool :=
  catalog.inFlight.contains key

/-- What the request asks for is neither resident nor under way. -/
def needs (catalog : Catalog) (request : Request) : Bool :=
  if request.key.any catalog.isInFlight then false
  else match request with
    | .indices => catalog.loaded.isNone
    | .fields index => (catalog.fieldsOf index).isNone
    | .values _ _ _ => true

/-- Claims a key, unless a fetch under it is under way. -/
def claim (catalog : Catalog) (key : FetchKey) : Option Catalog :=
  if catalog.isInFlight key then none
  else some { catalog with inFlight := key :: catalog.inFlight }

def release (catalog : Catalog) (key : FetchKey) : Catalog :=
  { catalog with inFlight := catalog.inFlight.filter (· ≠ key) }

end Catalog
end PipedQuery
