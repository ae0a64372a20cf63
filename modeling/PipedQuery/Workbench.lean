import PipedQuery.Cluster
import PipedQuery.Desk
import PipedQuery.Editor

/-!
A host of one engine and at most one editor, in front of a cluster whose answers can be held
back. While they are, an errand that needs one waits on the desk; otherwise it runs to its end.
Every step tells its outcome, the calls it made and the changes the editor reported.
-/

set_option autoImplicit false
set_option relaxedAutoImplicit false

namespace PipedQuery

structure Workbench where
  desk : Desk
  cluster : Cluster := {}
  /-- Answers are held back. -/
  gated : Bool := false
  editor : Option Editor := none
  /-- The batches handed over so far, in the order of completion. -/
  batches : List Batch := []
  /-- The number of errands the host has had to wait for. -/
  issued : Nat := 0

/-- The suggestion of a selection: given outright, or an item of an earlier batch. -/
inductive Choice where
  | suggestion (suggestion : Suggestion)
  | item (batch : Option Nat) (place : Nat)

inductive Action where
  | get (query : String)
  | prepare (query : String)
  | resolve (requests : List Request)
  | spawnResolve (requests : List Request)
  | select (choice : Choice)
  /-- A selection whose requests are served in the background, if there is a place for it. -/
  | take (choice : Choice) (background : Bool)
  | isCurrent (batch : Option Nat)
  | isFor (batch : Option Nat) (query : String)
  | close
  | isClosed
  | reset
  | inspect
  | setCluster (cluster : Cluster)
  | gate (on : Bool)
  | release (place : Nat)
  | dropEngine
  | openEditor (reports : Bool)
  | setText (text : String)
  | text
  | input (text : String)
  | suggest
  | accept (batch : Option Nat)
  | editorTake (choice : Choice)
  | editorIndex
  | dropEditor

/-- Why an action cannot be carried out. -/
inductive Obstacle where
  | noItem
  | noBatch
  | noCall
  | noEditor
  | noEngine

/-- An outcome that the host waited for. -/
inductive Result where
  | batch (number : Nat) (batch : Batch)
  | sample (sample : List SampledValue)
  | resolved

inductive Outcome where
  | nothing
  | flag (value : Bool)
  | text (value : Option String)
  | result (result : Result)
  | waits (ticket : Nat)
  | prepared (number : Nat) (batch : Batch) (requests : List Request)
  | notSpawned
  | selected (query : String) (requests : List Request)
  | taken (query : String)
  | accepted (items : Option (List Suggestion))
  | inspected (catalog : Catalog) (activeIndex : Option String) (settings : Settings)
  | finished (results : List (Nat × Result))
  | refused (obstacle : Obstacle)

structure Report where
  bench : Workbench
  outcome : Outcome
  calls : List Request := []
  changes : List Change := []

namespace Workbench

def engine (bench : Workbench) : Engine :=
  bench.desk.engine

def withEngine (bench : Workbench) (engine : Engine) : Workbench :=
  { bench with desk := { bench.desk with engine } }

/-- Enters what an errand hands over into the record of batches. -/
def record (bench : Workbench) : Finding → Workbench × Result
  | .batch batch =>
    ({ bench with batches := bench.batches ++ [batch] }, .batch bench.batches.length batch)
  | .sample sample => (bench, .sample sample)
  | .done => (bench, .resolved)

/-- Sets an errand going and tells what it hands over, if it ends, and the calls it makes. -/
def carryOn (bench : Workbench) (ticket : Option Nat) (purpose : Purpose) (queue : List Request)
    (sample : List SampledValue) : Workbench × Option Finding × List Request :=
  if bench.gated then
    let (desk, found) := bench.desk.carryOn ticket purpose queue sample
    let calls := (desk.waiting.drop bench.desk.waiting.length).map Errand.current
    ({ bench with desk }, found, calls)
  else
    let resolved := bench.engine.resolve bench.cluster.gateway sample queue
    (bench.withEngine resolved.engine, some (purpose.finding resolved.engine resolved.sample),
      resolved.calls)

/-- Starts an errand that the host waits for. -/
def await (bench : Workbench) (purpose : Purpose) (queue : List Request) : Report :=
  match bench.carryOn (some bench.issued) purpose queue [] with
  | (bench, some found, calls) =>
    let (bench, result) := bench.record found
    { bench, outcome := .result result, calls }
  | (bench, none, calls) =>
    { bench := { bench with issued := bench.issued + 1 }, outcome := .waits bench.issued, calls }

/-- Suggestions for a query. -/
def get (bench : Workbench) (query : String) : Report :=
  let prepared := bench.engine.prepare query
  let bench := bench.withEngine prepared.engine
  if prepared.requests.isEmpty then
    let (bench, result) := bench.record (.batch prepared.batch)
    { bench, outcome := .result result }
  else bench.await (.batch prepared.batch) prepared.requests

/-- Takes a suggestion and serves its requests in the background. -/
def take (bench : Workbench) (suggestion : Suggestion) (background : Bool) :
    Workbench × String × List Request :=
  let selection := bench.engine.select suggestion
  let bench := bench.withEngine selection.engine
  if background then
    let (bench, _, calls) := bench.carryOn none .background selection.requests []
    (bench, selection.query, calls)
  else (bench, selection.query, [])

/-- The batch of that number, by default the last. -/
def batch? (bench : Workbench) : Option Nat → Option Batch
  | some number => bench.batches[number]?
  | none => bench.batches.getLast?

def choose (bench : Workbench) : Choice → Except Obstacle Suggestion
  | .suggestion suggestion => .ok suggestion
  | .item number place =>
    match bench.batch? number with
    | none => .error .noBatch
    | some batch =>
      match batch.items[place]? with
      | some suggestion => .ok suggestion
      | none => .error .noItem

/-- Lets go of the editor, which closes its engine. -/
def dropEditor (bench : Workbench) : Workbench :=
  match bench.editor with
  | some _ => { bench.withEngine bench.engine.close with editor := none }
  | none => bench

def setText (bench : Workbench) (editor : Editor) (text : String) :
    Workbench × Bool × List Change :=
  let (after, change) := editor.setQuery bench.engine text
  ({ bench with editor := some after }, editor.query != text, change.toList)

/-- Answers a held call and lets its errand go on. -/
def release (bench : Workbench) (place : Nat) : Report :=
  match bench.desk.waiting[place]? with
  | none => { bench, outcome := .refused .noCall }
  | some errand =>
    let (desk, sample, rest) := bench.desk.receive place errand bench.cluster.gateway
    let bench := { bench with desk }
    match bench.carryOn errand.ticket errand.purpose rest sample with
    | (bench, none, calls) => { bench, outcome := .finished [], calls }
    | (bench, some found, calls) =>
      match errand.ticket with
      | none => { bench, outcome := .finished [], calls }
      | some ticket =>
        let (bench, result) := bench.record found
        { bench, outcome := .finished [(ticket, result)], calls }

/-- Actions on the editor, once there is one. -/
def editorAction (bench : Workbench) (editor : Editor) : Action → Report
  | .setText text =>
    let (bench, changed, changes) := bench.setText editor text
    { bench, outcome := .flag changed, changes }
  | .text => { bench, outcome := .text (some editor.query) }
  | .input text =>
    let (bench, _, changes) := bench.setText editor text
    { bench.get text with changes }
  | .suggest => bench.get editor.query
  | .editorIndex => { bench, outcome := .text bench.engine.session.activeIndex }
  | .accept number =>
    match bench.batch? number with
    | some batch => { bench, outcome := .accepted (editor.accept bench.engine batch) }
    | none => { bench, outcome := .refused .noBatch }
  | .editorTake choice =>
    match bench.choose choice with
    | .ok suggestion =>
      let (bench, query, calls) := bench.take suggestion true
      let (bench, _, changes) := bench.setText editor query
      { bench, outcome := .taken query, calls, changes }
    | .error obstacle => { bench, outcome := .refused obstacle }
  | _ => { bench, outcome := .nothing }

/-- Actions on the engine, while the host holds it. -/
def engineAction (bench : Workbench) : Action → Report
  | .get query => bench.get query
  | .prepare query =>
    let prepared := bench.engine.prepare query
    let bench := bench.withEngine prepared.engine
    { bench := { bench with batches := bench.batches ++ [prepared.batch] },
      outcome := .prepared bench.batches.length prepared.batch prepared.requests }
  | .resolve requests => bench.await .sample requests
  | .spawnResolve requests =>
    if requests.isEmpty then { bench, outcome := .notSpawned }
    else bench.await .background requests
  | .select choice =>
    match bench.choose choice with
    | .ok suggestion =>
      let selection := bench.engine.select suggestion
      { bench := bench.withEngine selection.engine,
        outcome := .selected selection.query selection.requests }
    | .error obstacle => { bench, outcome := .refused obstacle }
  | .take choice background =>
    match bench.choose choice with
    | .ok suggestion =>
      let (bench, query, calls) := bench.take suggestion background
      { bench, outcome := .taken query, calls }
    | .error obstacle => { bench, outcome := .refused obstacle }
  | .isCurrent number =>
    match bench.batch? number with
    | some batch => { bench, outcome := .flag (bench.engine.isCurrent batch) }
    | none => { bench, outcome := .refused .noBatch }
  | .close => { bench := bench.withEngine bench.engine.close, outcome := .flag true }
  | .isClosed => { bench, outcome := .flag bench.engine.closed }
  | .reset => { bench := bench.withEngine bench.engine.reset, outcome := .nothing }
  | .inspect =>
    { bench, outcome := .inspected bench.engine.catalog bench.engine.session.activeIndex
        bench.engine.settings }
  | .openEditor reports =>
    { bench := { bench.dropEditor with editor := some { reports } }, outcome := .nothing }
  | _ => { bench, outcome := .nothing }

/-- One action. -/
def act (bench : Workbench) (action : Action) : Report :=
  match action with
  | .isFor number query =>
    match bench.batch? number with
    | some batch => { bench, outcome := .flag (batch.isFor query) }
    | none => { bench, outcome := .refused .noBatch }
  | .setCluster cluster => { bench := { bench with cluster }, outcome := .nothing }
  | .gate on => { bench := { bench with gated := on }, outcome := .nothing }
  | .release place => bench.release place
  | .dropEditor => { bench := bench.dropEditor, outcome := .nothing }
  | .dropEngine =>
    let bench := bench.dropEditor
    { bench := { bench with desk := { bench.desk with held := false } }, outcome := .nothing }
  | .setText _ | .text | .input _ | .suggest | .editorIndex =>
    match bench.editor with
    | some editor => bench.editorAction editor action
    | none => { bench, outcome := .refused .noEditor }
  | .accept number =>
    match bench.batch? number, bench.editor with
    | some _, some editor => bench.editorAction editor action
    | none, _ => { bench, outcome := .refused .noBatch }
    | _, none => { bench, outcome := .refused .noEditor }
  | .editorTake choice =>
    match bench.choose choice, bench.editor with
    | .ok _, some editor => bench.editorAction editor action
    | .error obstacle, _ => { bench, outcome := .refused obstacle }
    | .ok _, none => { bench, outcome := .refused .noEditor }
  | .take choice _ =>
    match bench.choose choice, bench.desk.held with
    | .ok _, true => bench.engineAction action
    | .error obstacle, _ => { bench, outcome := .refused obstacle }
    | .ok _, false => { bench, outcome := .refused .noEngine }
  | _ =>
    if bench.desk.held then bench.engineAction action
    else { bench, outcome := .refused .noEngine }

end Workbench
end PipedQuery
