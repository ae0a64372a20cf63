import PipedQuery.Gateway
import PipedQuery.Suggestion

/-!
The completion engine of one query. Reading a query is one step; what the reading misses is then
fetched request by request, and the suggestions are made again from what has arrived. A fetch is
three steps: a claim, the answer of the backend, and its absorption. Between a claim and the
absorption other work may change the engine.
-/

set_option autoImplicit false
set_option relaxedAutoImplicit false

namespace PipedQuery

structure Engine where
  settings : Settings := {}
  session : Session := {}
  catalog : Catalog := {}
  /-- The number of queries read so far. -/
  generation : UInt64 := 0
  closed : Bool := false
deriving DecidableEq

/-- The suggestions for one query, with its place in the order of queries. -/
structure Batch where
  input : String
  generation : UInt64
  position : Position
  items : List Suggestion
deriving DecidableEq

structure Prepared where
  engine : Engine
  batch : Batch
  requests : List Request

/-- The text after a suggestion is taken, and what should be fetched for it. -/
structure Selection where
  engine : Engine
  query : String
  requests : List Request

inductive Claim where
  | granted (engine : Engine)
  /-- A fetch under the same key is under way. -/
  | busy
  /-- The engine takes no more fetches. -/
  | gone

/-- The end of a run of requests: the engine, the sample and the calls that were made. -/
structure Resolved where
  engine : Engine
  sample : List SampledValue
  calls : List Request

structure Served where
  engine : Engine
  batch : Batch
  calls : List Request

namespace Batch

def isFor (batch : Batch) (query : String) : Bool :=
  batch.input = query

end Batch

namespace Engine

/-- A new engine with settings that do not contradict themselves. -/
def withSettings (settings : Settings) : Except Fault Engine :=
  if settings.isValid then .ok { settings } else .error .invalidSettings

/-- Reads a query. A closed engine counts it and offers nothing. -/
def prepare (engine : Engine) (query : String) : Prepared :=
  let generation := engine.generation + 1
  if engine.closed then
    ⟨{ engine with generation }, ⟨query, generation, .none, []⟩, []⟩
  else
    let tokens := Tokens.ofQuery query
    let reading := Reading.ofTokens engine.settings engine.catalog engine.session tokens
    let items := Suggestion.all reading.position tokens reading.session engine.catalog []
    ⟨{ engine with generation, session := reading.session },
      ⟨query, generation, reading.position, items⟩, reading.requests⟩

def isCurrent (engine : Engine) (batch : Batch) : Bool :=
  engine.generation = batch.generation

/-- Asks leave to fetch. -/
def claim (engine : Engine) (request : Request) : Claim :=
  if engine.closed then .gone
  else match request.key with
    | none => .granted engine
    | some key =>
      match engine.catalog.claim key with
      | some catalog => .granted { engine with catalog }
      | none => .busy

/-- The key of the request is free again. -/
def release (engine : Engine) (request : Request) : Engine :=
  match request.key with
  | some key => { engine with catalog := engine.catalog.release key }
  | none => engine

/-- Files what a fetch brought. -/
def store (engine : Engine) : Fetched → Engine
  | .indices names =>
    { engine with catalog := engine.catalog.storeIndices engine.settings names }
  | .fields index fields => { engine with catalog := engine.catalog.storeFields index fields }
  | .values _ => engine

/-- Takes in the answer to a request. A closed engine only frees the key, and a fault changes
nothing else either. -/
def absorb (engine : Engine) (request : Request) (answer : Except Fault Fetched) :
    Engine × Option (List SampledValue) :=
  let engine := engine.release request
  if engine.closed then (engine, none)
  else match answer with
    | .ok (.values sample) => (engine, some sample)
    | .ok fetched => (engine.store fetched, none)
    | .error _ => (engine, none)

/-- Claims the first request that can be claimed. -/
def proceed (engine : Engine) : List Request → Engine × Option (Request × List Request)
  | [] => (engine, none)
  | request :: rest =>
    match engine.claim request with
    | .granted claimed => (claimed, some (request, rest))
    | .busy => engine.proceed rest
    | .gone => (engine, none)

/-- Serves requests one after another without interruption. -/
def resolve (gateway : Gateway) (engine : Engine) (sample : List SampledValue) :
    List Request → Resolved
  | [] => ⟨engine, sample, []⟩
  | request :: rest =>
    match engine.claim request with
    | .granted claimed =>
      let (after, fresh) := claimed.absorb request (gateway.fetch request)
      let done := resolve gateway after (fresh.getD sample) rest
      { done with calls := request :: done.calls }
    | .busy => resolve gateway engine sample rest
    | .gone => ⟨engine, sample, []⟩

/-- The batch after its requests were served: where the position uses what was fetched, the
suggestions are made again. -/
def complete (engine : Engine) (batch : Batch) (sample : List SampledValue) : Batch :=
  if batch.position.usesMetadata && !engine.closed then
    { batch with
      items := Suggestion.all batch.position (Tokens.ofQuery batch.input) engine.session
        engine.catalog sample }
  else batch

/-- Suggestions for a query, with every fetch answered at once. -/
def serve (gateway : Gateway) (engine : Engine) (query : String) : Served :=
  let prepared := engine.prepare query
  if prepared.requests.isEmpty then ⟨prepared.engine, prepared.batch, []⟩
  else
    let resolved := prepared.engine.resolve gateway [] prepared.requests
    ⟨resolved.engine, resolved.engine.complete prepared.batch resolved.sample, resolved.calls⟩

/-- Takes a suggestion. An index that is taken before any fields are resident becomes the active
one, and its fields are asked for. -/
def select (engine : Engine) (suggestion : Suggestion) : Selection :=
  let query := suggestion.label ++ " "
  match suggestion.item with
  | none => ⟨engine, query, []⟩
  | some item =>
    let index := Vocabulary.indexReference item
    if engine.catalog.resident.isNone && engine.catalog.knows index then
      ⟨{ engine with session := { engine.session with activeIndex := some index } }, query,
        Reading.fieldsRequest engine.catalog index⟩
    else ⟨engine, query, []⟩

def close (engine : Engine) : Engine :=
  { engine with closed := true }

/-- Forgets the session and the catalog, but neither the count of queries nor that the engine is
closed. -/
def reset (engine : Engine) : Engine :=
  { engine with session := {}, catalog := {} }

end Engine
end PipedQuery
