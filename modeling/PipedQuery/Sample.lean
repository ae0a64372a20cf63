import PipedQuery.Field
import PipedQuery.Json.Printer

/-!
Values sampled from a field. The backend answers with buckets, a key of any JSON value and a
count of documents; a sampled value is the text that may stand in a query.
-/

set_option autoImplicit false
set_option relaxedAutoImplicit false

namespace PipedQuery

structure Bucket where
  key : Json
  count : UInt64

structure SampledValue where
  label : String
  count : UInt64
deriving DecidableEq

namespace Bucket

/-- A key as text: a string as it is, any other value as compact JSON. -/
def keyText (bucket : Bucket) : String :=
  match bucket.key with
  | .string text => text
  | other => other.compact

def isTrue (bucket : Bucket) : Bool :=
  match bucket.key with
  | .integer value => value == 1
  | .bool value => value
  | _ => false

/-- The label of a bucket for a field of the given type; geographic points have none. -/
def label (type : FieldType) (bucket : Bucket) : Option String :=
  match type with
  | .geoPoint => none
  | .string => some ("\"" ++ bucket.keyText ++ "\"")
  | .boolean => some (if bucket.isTrue then "True" else "False")
  | _ => some bucket.keyText

def sampled (type : FieldType) (buckets : List Bucket) : List SampledValue :=
  buckets.filterMap fun bucket ↦ (bucket.label type).map (⟨·, bucket.count⟩)

def ofJson (value : Json) : Option Bucket := do
  let fields ← value.record ["key", "doc_count"]
  let key ← fields.required "key" Json.any
  let count ← fields.withDefault "doc_count" 0 Json.word?
  return ⟨key, count⟩

def toJson (bucket : Bucket) : Json :=
  .object [("key", bucket.key), ("doc_count", .ofWord bucket.count)]

/-- The buckets in the answer to a sampling query. -/
def ofAnswer (answer : Json) : Option (List Bucket) := do
  let fields ← answer.record ["aggregations"]
  fields.required "aggregations" fun aggregations ↦ do
    let fields ← aggregations.record ["top_tags"]
    fields.required "top_tags" fun terms ↦ do
      let fields ← terms.record ["buckets"]
      fields.withDefault "buckets" [] (Json.list ofJson)

def toAnswer (buckets : List Bucket) : Json :=
  .object [("aggregations",
    .object [("top_tags", .object [("buckets", .array (buckets.map toJson))])])]

end Bucket

namespace SampledValue

/-- The query for the most frequent values of a field, names in code-point order. -/
def query (field : String) (size : UInt64) : Json :=
  .object [
    ("aggs", .object [("top_tags",
      .object [("terms", .object [("field", .string field), ("size", .ofWord size)])])]),
    ("size", .integer 0)]

def toJson (value : SampledValue) : Json :=
  .object [("label", .string value.label), ("doc_count", .ofWord value.count)]

def ofJson (value : Json) : Option SampledValue := do
  let fields ← value.record ["label", "doc_count"]
  let label ← fields.required "label" Json.string?
  let count ← fields.required "doc_count" Json.word?
  return ⟨label, count⟩

end SampledValue
end PipedQuery
