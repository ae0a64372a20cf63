import PipedQuery.Field

/-!
The mapping of an index: a tree of named properties, each with an optional type and optional
properties below it. `flatten` lists the typed properties under their dotted paths, siblings in
the order of their names and a typed property before what is below it.
-/

set_option autoImplicit false
set_option relaxedAutoImplicit false

namespace PipedQuery

/-- A property. Its children are ordered by name, without repetition. -/
inductive Property where
  | node (type : Option String) (children : Option (List (String × Property)))

/-- A mapping response: every index it mentions with its properties. -/
abbrev MappingResponse := List (String × List (String × Property))

namespace Property

instance : Inhabited Property := ⟨node none none⟩

def type : Property → Option String
  | node type _ => type

def children : Property → Option (List (String × Property))
  | node _ children => children

def path (parent name : String) : String :=
  if parent.isEmpty then name else parent ++ "." ++ name

def own (path : String) (type : Option String) : List Field :=
  match type with
  | some raw => [⟨path, FieldType.ofBackend raw⟩]
  | none => []

mutual

/-- The typed properties of a subtree whose root has the given path. -/
def fieldsAt (path : String) : Property → List Field
  | node type none => own path type
  | node type (some children) => own path type ++ flatten path children

/-- The typed properties of siblings below `parent`. -/
def flatten (parent : String) : List (String × Property) → List Field
  | [] => []
  | (name, property) :: rest => fieldsAt (path parent name) property ++ flatten parent rest

end

/-- Puts a named entry at its place in the order of names, over one of the same name. -/
def insertNamed {α : Type} (name : String) (entry : α) : List (String × α) → List (String × α)
  | [] => [(name, entry)]
  | (other, held) :: rest =>
    if name = other then (name, entry) :: rest
    else if name < other then (name, entry) :: (other, held) :: rest
    else (other, held) :: insertNamed name entry rest

/-- Entries in the order of their names, the last of equal names. -/
def ordered {α : Type} (entries : List (String × α)) : List (String × α) :=
  entries.foldl (fun sorted (name, entry) ↦ insertNamed name entry sorted) []

/-- Decodes the values of an object, all of which must decode. -/
def decodeEach {α : Type} (decode : Json → Option α) (value : Json) :
    Option (List (String × α)) := do
  let members ← value.object?
  let entries ← members.mapM fun (name, member) ↦ (decode member).map (name, ·)
  return ordered entries

/-- A property from JSON, through at most `depth` levels of properties. -/
def ofJsonWithin : Nat → Json → Option Property
  | 0, _ => none
  | depth + 1, value => do
    let fields ← value.record ["type", "properties"]
    let type ← fields.optional "type" Json.string?
    let children ← fields.optional "properties" (decodeEach (ofJsonWithin depth))
    return node type children

mutual

def jsonDepth : Json → Nat
  | .array items => itemsDepth items + 1
  | .object members => membersDepth members + 1
  | _ => 1

def itemsDepth : List Json → Nat
  | [] => 0
  | item :: rest => max (jsonDepth item) (itemsDepth rest)

def membersDepth : List (String × Json) → Nat
  | [] => 0
  | (_, value) :: rest => max (jsonDepth value) (membersDepth rest)

end

def ofJson (value : Json) : Option Property :=
  ofJsonWithin (jsonDepth value) value

mutual

def toJson : Property → Json
  | node type none => .present [("type", type.map .string), ("properties", none)]
  | node type (some children) =>
    .present [("type", type.map .string), ("properties", some (.object (toMembers children)))]

def toMembers : List (String × Property) → List (String × Json)
  | [] => []
  | (name, property) :: rest => (name, property.toJson) :: toMembers rest

end

end Property

namespace MappingResponse

def propertiesOfJson (value : Json) : Option (List (String × Property)) := do
  let fields ← value.record ["mappings"]
  fields.withDefault "mappings" [] fun mappings ↦ do
    let fields ← mappings.record ["properties"]
    fields.withDefault "properties" [] (Property.decodeEach Property.ofJson)

def ofJson (value : Json) : Option MappingResponse :=
  Property.decodeEach propertiesOfJson value

def toJson (response : MappingResponse) : Json :=
  .object (response.map fun (index, properties) ↦
    (index, .object [("mappings", .object [("properties", .object (Property.toMembers properties))])]))

/-- The fields of an index, or nothing when the response does not mention it. -/
def fields (response : MappingResponse) (index : String) : Option (List Field) :=
  (response.lookup index).map (Property.flatten "")

end MappingResponse
end PipedQuery
