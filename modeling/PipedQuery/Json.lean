import PipedQuery.Number.Shortest

/-!
JSON values. Whole numbers of at most 64 bits are kept apart from doubles, and the members of
an object keep their order and repetitions, since some records refuse a repeated name.
`canonical` is the value that survives: names in code-point order, the last of equal names.
-/

set_option autoImplicit false
set_option relaxedAutoImplicit false

namespace PipedQuery

inductive Json where
  | null
  | bool (value : Bool)
  | integer (value : Int)
  | double (value : Double)
  | string (text : String)
  | array (items : List Json)
  | object (members : List (String × Json))
  /-- A well-formed piece of a document that denotes no value: a number past the largest
  double, a text with half a surrogate pair, or a container nested too deep. It may be
  skipped but not used. -/
  | unreadable

namespace Json

instance : Inhabited Json := ⟨null⟩

/-- Puts a member at its place in code-point order, over one of the same name. -/
def insertMember (name : String) (value : Json) : List (String × Json) → List (String × Json)
  | [] => [(name, value)]
  | (other, held) :: rest =>
    if name = other then (name, value) :: rest
    else if name < other then (name, value) :: (other, held) :: rest
    else (other, held) :: insertMember name value rest

mutual

/-- Every object with its names in order and the last of equal names kept. -/
def canonical : Json → Json
  | array items => array (canonicalItems items)
  | object members => object (canonicalMembers [] members)
  | other => other

def canonicalItems : List Json → List Json
  | [] => []
  | item :: rest => item.canonical :: canonicalItems rest

def canonicalMembers (sorted : List (String × Json)) : List (String × Json) → List (String × Json)
  | [] => sorted
  | (name, value) :: rest => canonicalMembers (insertMember name value.canonical sorted) rest

end

mutual

/-- No part of the value is unreadable. -/
def readable : Json → Bool
  | unreadable => false
  | array items => readableItems items
  | object members => readableMembers members
  | _ => true

def readableItems : List Json → Bool
  | [] => true
  | item :: rest => item.readable && readableItems rest

def readableMembers : List (String × Json) → Bool
  | [] => true
  | (_, value) :: rest => value.readable && readableMembers rest

end

mutual

/-- Containers inside `levels` others become unreadable. -/
def limit : Nat → Json → Json
  | 0, array _ => unreadable
  | 0, object _ => unreadable
  | levels + 1, array items => array (limitItems levels items)
  | levels + 1, object members => object (limitMembers levels members)
  | _, other => other

def limitItems (levels : Nat) : List Json → List Json
  | [] => []
  | item :: rest => limit levels item :: limitItems levels rest

def limitMembers (levels : Nat) : List (String × Json) → List (String × Json)
  | [] => []
  | (name, value) :: rest => (name, limit levels value) :: limitMembers levels rest

end

def string? : Json → Option String
  | string text => some text
  | _ => none

def bool? : Json → Option Bool
  | bool value => some value
  | _ => none

def array? : Json → Option (List Json)
  | array items => some items
  | _ => none

def object? : Json → Option (List (String × Json))
  | object members => some members
  | _ => none

/-- A whole number of 64 bits. -/
def word? : Json → Option UInt64
  | integer value =>
    if 0 ≤ value ∧ value.toNat < UInt64.size then some (UInt64.ofNat value.toNat) else none
  | _ => none

def ofWord (word : UInt64) : Json :=
  integer word.toNat

/-- The value of the first member of that name. -/
def member? (name : String) : Json → Option Json
  | object members => members.lookup name
  | _ => none

/-- An object without the members that have no value. -/
def present (members : List (String × Option Json)) : Json :=
  object (members.filterMap fun (name, value) ↦ value.map (name, ·))

def orNull : Option Json → Json :=
  (·.getD null)

end Json
end PipedQuery
