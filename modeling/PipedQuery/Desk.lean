import PipedQuery.Engine

/-!
An engine with the errands that wait for the backend. An errand serves its requests in order and
waits from a claim to the answer; the answers may come in any order, and every other step may
happen between. `Desk.step` is the whole of what can happen.
-/

set_option autoImplicit false
set_option relaxedAutoImplicit false

namespace PipedQuery

/-- What an errand is for. -/
inductive Purpose where
  /-- To finish the batch of a query. -/
  | batch (prepared : Batch)
  /-- To bring the sample of a list of requests. -/
  | sample
  /-- To fill the catalog. Such an errand does not keep the engine. -/
  | background
deriving DecidableEq

/-- An errand that waits for the answer to `current`. -/
structure Errand where
  /-- The number under which the host waits for it, if it does. -/
  ticket : Option Nat
  purpose : Purpose
  current : Request
  rest : List Request
  sample : List SampledValue
deriving DecidableEq

/-- What a finished errand hands over. -/
inductive Finding where
  | batch (batch : Batch)
  | sample (sample : List SampledValue)
  | done
deriving DecidableEq

structure Desk where
  engine : Engine
  /-- The host has not let go of the engine. -/
  held : Bool := true
  /-- In the order in which their calls were made. -/
  waiting : List Errand := []
deriving DecidableEq

inductive Event where
  | query (text : String)
  | resolve (requests : List Request)
  | spawn (requests : List Request)
  | prepare (text : String)
  | select (suggestion : Suggestion)
  /-- A selection whose requests are served in the background. -/
  | take (suggestion : Suggestion)
  | reset
  | close
  | drop
  /-- The backend answers the waiting errand at that place. -/
  | answer (place : Nat) (gateway : Gateway)

namespace Purpose

def keepsEngine : Purpose → Bool
  | background => false
  | _ => true

def finding (engine : Engine) (sample : List SampledValue) : Purpose → Finding
  | batch prepared => .batch (engine.complete prepared sample)
  | .sample => .sample sample
  | background => .done

end Purpose

namespace Desk

/-- Someone still holds the engine. -/
def alive (desk : Desk) : Bool :=
  desk.held || desk.waiting.any (·.purpose.keepsEngine)

/-- Sets an errand going: it ends, or it waits behind the others. -/
def carryOn (desk : Desk) (ticket : Option Nat) (purpose : Purpose) (queue : List Request)
    (sample : List SampledValue) : Desk × Option Finding :=
  match desk.engine.proceed queue with
  | (engine, some (request, rest)) =>
    ({ desk with engine, waiting := desk.waiting ++ [⟨ticket, purpose, request, rest, sample⟩] },
      none)
  | (engine, none) => ({ desk with engine }, some (purpose.finding engine sample))

/-- Takes a query: its batch at once, or an errand that will bring it. -/
def ask (desk : Desk) (ticket : Option Nat) (query : String) : Desk × Option Finding :=
  let prepared := desk.engine.prepare query
  let desk := { desk with engine := prepared.engine }
  if prepared.requests.isEmpty then (desk, some (.batch prepared.batch))
  else desk.carryOn ticket (.batch prepared.batch) prepared.requests []

/-- Takes an errand off the desk and gives it the answer to its call. Once nobody holds the
engine the answer is lost. -/
def receive (desk : Desk) (place : Nat) (errand : Errand) (gateway : Gateway) :
    Desk × List SampledValue × List Request :=
  let rest := { desk with waiting := desk.waiting.eraseIdx place }
  if desk.alive then
    let (engine, fresh) := desk.engine.absorb errand.current (gateway.fetch errand.current)
    ({ rest with engine }, fresh.getD errand.sample, errand.rest)
  else (rest, errand.sample, [])

/-- Answers the call of the errand at a place and lets it go on. -/
def answer (desk : Desk) (place : Nat) (gateway : Gateway) : Desk × Option Finding :=
  match desk.waiting[place]? with
  | none => (desk, none)
  | some errand =>
    let (desk, sample, rest) := desk.receive place errand gateway
    desk.carryOn errand.ticket errand.purpose rest sample

/-- One step of a desk, with what an errand that ended in it hands over. -/
def step (desk : Desk) : Event → Desk × Option Finding
  | .query text => desk.ask none text
  | .resolve requests => desk.carryOn none .sample requests []
  | .spawn requests => desk.carryOn none .background requests []
  | .prepare text =>
    let prepared := desk.engine.prepare text
    ({ desk with engine := prepared.engine }, some (.batch prepared.batch))
  | .select suggestion =>
    ({ desk with engine := (desk.engine.select suggestion).engine }, none)
  | .take suggestion =>
    let selection := desk.engine.select suggestion
    { desk with engine := selection.engine }.carryOn none .background selection.requests []
  | .reset => ({ desk with engine := desk.engine.reset }, none)
  | .close => ({ desk with engine := desk.engine.close }, none)
  | .drop => ({ desk with held := false }, none)
  | .answer place gateway => desk.answer place gateway

/-- The desk after a run of steps. -/
def run (desk : Desk) (events : List Event) : Desk :=
  events.foldl (fun desk event ↦ (desk.step event).1) desk

end Desk
end PipedQuery
