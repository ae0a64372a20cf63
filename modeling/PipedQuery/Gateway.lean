import PipedQuery.Mapping
import PipedQuery.Request
import PipedQuery.Sample
import PipedQuery.Settings

/-!
The backend as the engine sees it: three questions, each with an answer or a fault. What an
answer brings is settled by the request alone, so an answer is never filed under another one.
-/

set_option autoImplicit false
set_option relaxedAutoImplicit false

namespace PipedQuery

/-- Why a fetch, a response or a setting is of no use. -/
inductive Fault where
  /-- The backend failed. The cause is absent where its wording is the transport's own. -/
  | backend (cause : Option String)
  | missingIndex (index : String)
  | invalidSettings
  | unreadable
deriving DecidableEq

structure Gateway where
  indices : Except Fault (List String)
  mapping : String → Except Fault MappingResponse
  buckets : (index field : String) → Except Fault (List Bucket)

/-- What a successful fetch brings. -/
inductive Fetched where
  | indices (names : List String)
  | fields (index : String) (fields : List Field)
  | values (sample : List SampledValue)

namespace Fault

/-- The wording of a fault, where it has one of its own. -/
def message : Fault → Option String
  | backend cause => cause.map ("metadata gateway failed: " ++ ·)
  | missingIndex index => some ("index missing from mapping response: " ++ index)
  | invalidSettings => some ("invalid configuration: " ++ Settings.complaint)
  | unreadable => none

end Fault

namespace MappingResponse

def fieldsOf (response : MappingResponse) (index : String) : Except Fault (List Field) :=
  match response.fields index with
  | some fields => .ok fields
  | none => .error (.missingIndex index)

end MappingResponse

namespace Gateway

def fetch (gateway : Gateway) : Request → Except Fault Fetched
  | .indices => gateway.indices.map .indices
  | .fields index => do
    let response ← gateway.mapping index
    let fields ← response.fieldsOf index
    return .fields index fields
  | .values index field type => do
    let buckets ← gateway.buckets index field
    return .values (Bucket.sampled type buckets)

end Gateway

/-- The names in an index listing. -/
def indexListing (answer : Json) : Option (List String) :=
  answer.list fun entry ↦ do
    let fields ← entry.record ["index"]
    fields.required "index" Json.string?

end PipedQuery
