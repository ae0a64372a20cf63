import PipedQuery.Gateway

/-!
A cluster given by the documents it answers with. Its index names, properties and buckets are
put into answers of the usual shape; an answer given as a whole document stands in place of
those, and every document is decoded as it comes.
-/

set_option autoImplicit false
set_option relaxedAutoImplicit false

namespace PipedQuery

structure Cluster where
  /-- The index names. -/
  indices : Json := .array []
  /-- The properties of each index. -/
  properties : List (String × Json) := []
  /-- The buckets of each field. -/
  buckets : List (String × Json) := []
  /-- A whole index listing. -/
  listing : Option Json := none
  /-- Whole mapping responses, by index. -/
  mappings : List (String × Json) := []
  /-- Whole answers to sampling queries, by field. -/
  samples : List (String × Json) := []
  failsIndices : Bool := false
  failsFields : Bool := false
  failsValues : Bool := false

namespace Cluster

/-- Every name becomes an entry; what is no array of names stays as it is and is no listing. -/
def listingAnswer (cluster : Cluster) : Json :=
  cluster.listing.getD (match cluster.indices with
    | .array names => .array (names.map fun name ↦ .object [("index", name)])
    | other => other)

def mappingAnswer (cluster : Cluster) (index : String) : Json :=
  match cluster.mappings.lookup index with
  | some answer => answer
  | none =>
    let properties := (cluster.properties.lookup index).getD (.object [])
    .object [(index, .object [("mappings", .object [("properties", properties)])])]

def sampleAnswer (cluster : Cluster) (field : String) : Json :=
  match cluster.samples.lookup field with
  | some answer => answer
  | none =>
    let buckets := (cluster.buckets.lookup field).getD (.array [])
    .object [("aggregations", .object [("top_tags", .object [("buckets", buckets)])])]

/-- An answer of a cluster that may fail, decoded. -/
def deliver {α : Type} (fails : Bool) (decode : Json → Option α) (answer : Json) :
    Except Fault α :=
  if fails then .error (.backend none)
  else match decode answer with
    | some found => .ok found
    | none => .error .unreadable

def gateway (cluster : Cluster) : Gateway where
  indices := deliver cluster.failsIndices indexListing cluster.listingAnswer
  mapping index := deliver cluster.failsFields MappingResponse.ofJson (cluster.mappingAnswer index)
  buckets _ field := deliver cluster.failsValues Bucket.ofAnswer (cluster.sampleAnswer field)

end Cluster
end PipedQuery
