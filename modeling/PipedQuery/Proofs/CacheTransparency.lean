import PipedQuery.Proofs.BatchOrigin
import PipedQuery.Proofs.FieldResidence
import PipedQuery.Proofs.Serving

/-!
The field cache does not show. `Reference` is an engine without one: it keeps its session and the
index list, in both copies, and whichever index a session turns to, the fields of that index are at
hand, straight from the backend. An engine that keeps only one field list, and fetches another one
only when it is missing, offers the same suggestions at the same positions and goes through the same
sessions, as long as its queries are served one after another (`views_eq_reference`). What carries
this is that the resident fields are those of the active index after every query (`Settled.serve`),
so that also the rule which reads a type without asking for fields finds the right list.
-/

set_option autoImplicit false
set_option relaxedAutoImplicit false

namespace PipedQuery

/-- What a user sees of a query, and the session that it leaves. -/
structure View where
  position : Position
  items : List Suggestion
  session : Session
deriving DecidableEq

/-- A completion engine that keeps no fields. -/
structure Reference where
  settings : Settings
  indices : List String
  known : List String
  session : Session

namespace Reference

/-- All that there is to know in a session: the index list and the fields of the active index,
whichever it is, as the backend reports them. -/
def catalogFor (reference : Reference) (gateway : Gateway) (session : Session) : Catalog where
  loaded := some reference.indices
  known := reference.known
  resident := session.activeIndex.map fun index ↦ ⟨index, gateway.fieldsOf index⟩

def reading (reference : Reference) (gateway : Gateway) (query : String) : Reading :=
  Reading.ofTokens reference.settings (reference.catalogFor gateway reference.session)
    reference.session (Tokens.ofQuery query)

def serve (reference : Reference) (gateway : Gateway) (query : String) : View :=
  let reading := reference.reading gateway query
  { position := reading.position
    items := Suggestion.all reading.position (Tokens.ofQuery query) reading.session
      (reference.catalogFor gateway reading.session) (reading.requests.flatMap gateway.sampleOf)
    session := reading.session }

def views (gateway : Gateway) (reference : Reference) : List String → List View
  | [] => []
  | query :: rest =>
    let view := reference.serve gateway query
    view :: views gateway { reference with session := view.session } rest

/-- The fields of every index that can be active are there. -/
theorem fieldsOf_catalogFor (reference : Reference) (gateway : Gateway) {session : Session}
    {index : String} (hactive : session.activeIndex = some index) :
    (reference.catalogFor gateway session).fieldsOf index = some (gateway.fieldsOf index) := by
  simp [catalogFor, hactive, Catalog.fieldsOf]

theorem entailed_reading (reference : Reference) (gateway : Gateway) (query : String) :
    (reference.reading gateway query).Entailed reference.settings
      (reference.catalogFor gateway reference.session) reference.session
      (Tokens.ofQuery query) :=
  Reading.entailed_ofTokens _ _ _ _

end Reference

namespace Engine

variable {engine : Engine} {gateway : Gateway}

/-- The views of queries, each served before the next is asked. -/
def views (gateway : Gateway) (engine : Engine) : List String → List View
  | [] => []
  | query :: rest =>
    let served := engine.serve gateway query
    ⟨served.batch.position, served.batch.items, served.engine.session⟩ ::
      views gateway served.engine rest

/-- The engine with its field cache taken away. -/
def reference (engine : Engine) : Reference :=
  ⟨engine.settings, engine.catalog.indices, engine.catalog.known, engine.session⟩

/-- An open engine between two queries, at a backend that answers all of them alike. -/
structure Settled (gateway : Gateway) (engine : Engine) : Prop where
  opened : engine.closed = false
  loaded : engine.catalog.loaded.isSome = true
  idle : engine.catalog.inFlight = []
  current : ∀ held, engine.catalog.resident = some held →
    held.fields = gateway.fieldsOf held.index
  active : ∀ index, engine.session.activeIndex = some index →
    ∃ held, engine.catalog.resident = some held ∧ held.index = index

theorem Settled.resident (hsettled : engine.Settled gateway) {index : String}
    (hactive : engine.session.activeIndex = some index) :
    engine.catalog.resident = some ⟨index, gateway.fieldsOf index⟩ := by
  obtain ⟨held, hresident, rfl⟩ := hsettled.active index hactive
  rw [hresident, ← hsettled.current held hresident]

theorem Settled.fieldsOf (hsettled : engine.Settled gateway) {index : String}
    (hactive : engine.session.activeIndex = some index) :
    engine.catalog.fieldsOf index = some (gateway.fieldsOf index) := by
  simp [Catalog.fieldsOf, hsettled.resident hactive]

/-! ### What a query leaves behind -/

theorem Settled.resolved_loaded (hsettled : engine.Settled gateway) (query : String) :
    (engine.resolved gateway query).engine.catalog.loaded = engine.catalog.loaded := by
  obtain ⟨names, hnames⟩ := Option.isSome_iff_exists.mp hsettled.loaded
  rw [hnames]
  refine resolve_loaded ?_ _ _
  rw [prepare_catalog, hnames]

/-- The fields of the index that a query leaves active are resident once it is served: they were
so before, or the query asks for them. -/
theorem Settled.resolved_active (hsettled : engine.Settled gateway)
    (hsucceeds : gateway.Succeeds) (query index : String)
    (hactive : (engine.reading query).session.activeIndex = some index) :
    ∃ held, (engine.resolved gateway query).engine.catalog.resident = some held ∧
      held.index = index := by
  have hcatalog := engine.prepare_catalog query
  rcases (engine.entailed_reading query).asks_or_keeps with hasks | ⟨hkeeps, hnone⟩
  · have hrequests : (engine.reading query).requests =
        Reading.fieldsRequest engine.catalog index := by
      simp only [hasks, Reading.activeFieldsRequest, hactive]
    by_cases hneeds : engine.catalog.needs (.fields index) = true
    · rw [Reading.fieldsRequest, if_pos hneeds] at hrequests
      have hopen : (engine.prepare query).engine.closed = false := by
        rw [prepare_closed, hsettled.opened]
      have hfree : (engine.prepare query).engine.Frees (.fields index) := by
        intro key _
        rw [hcatalog, hsettled.idle]
        exact List.not_mem_nil
      obtain ⟨fetched, hfetch⟩ := hsucceeds (.fields index)
      refine ⟨⟨index, gateway.fieldsOf index⟩, ?_, rfl⟩
      rw [resolved, hrequests]
      exact resolve_fields hopen hfree hfetch []
    · rw [Reading.fieldsRequest, if_neg hneeds] at hrequests
      have hresident : ∃ held, engine.catalog.resident = some held ∧ held.index = index := by
        by_contra hmissing
        refine hneeds (Catalog.needs_fields_iff.mpr ⟨?_, ?_⟩)
        · rw [hsettled.idle]
          exact List.not_mem_nil
        · intro held hheld hindex
          exact hmissing ⟨held, hheld, hindex⟩
      simpa [resolved, hrequests, resolve, hcatalog] using hresident
  · have hbefore := hsettled.active index (hkeeps index hactive)
    rw [resolved, resolve_resident hnone, hcatalog]
    exact hbefore

theorem Settled.serve (hsettled : engine.Settled gateway) (hsucceeds : gateway.Succeeds)
    (query : String) : (engine.serve gateway query).engine.Settled gateway where
  opened := serve_closed hsettled.opened gateway query
  loaded := by
    rw [serve_eq hsettled.opened, hsettled.resolved_loaded]
    exact hsettled.loaded
  idle := by
    rw [serve_eq hsettled.opened, resolved, resolve_inFlight, prepare_catalog, hsettled.idle]
  current := by
    rw [serve_eq hsettled.opened]
    refine resolve_current ?_ _ _
    rw [prepare_catalog]
    exact hsettled.current
  active := by
    intro index hactive
    rw [serve_session hsettled.opened] at hactive
    rw [serve_eq hsettled.opened]
    exact hsettled.resolved_active hsucceeds query index hactive

/-! ### One query -/

/-- The reference finds the position that the engine finds, and its session goes the same way. -/
theorem Settled.reading_eq (hsettled : engine.Settled gateway) (query : String) :
    (engine.reading query).position = (engine.reference.reading gateway query).position ∧
      (engine.reading query).session = (engine.reference.reading gateway query).session := by
  let ideal := engine.reference.catalogFor gateway engine.session
  have hknown : engine.catalog.known = ideal.known := rfl
  have hposition : (engine.reading query).position =
      (engine.reference.reading gateway query).position :=
    Reading.position_congr hknown engine.settings engine.session (Tokens.ofQuery query)
  have hfields : ∀ index, engine.session.activeIndex = some index →
      engine.catalog.fieldsOf index = ideal.fieldsOf index := by
    intro index hactive
    rw [hsettled.fieldsOf hactive, engine.reference.fieldsOf_catalogFor gateway hactive]
  refine ⟨hposition, ?_⟩
  calc (engine.reading query).session
      = Reading.sessionAt engine.catalog engine.session (Tokens.ofQuery query)
          (engine.reading query).position := (engine.entailed_reading query).1
    _ = Reading.sessionAt ideal engine.session (Tokens.ofQuery query)
          (engine.reference.reading gateway query).position := by
        rw [Reading.sessionAt_congr hfields, hposition]
    _ = (engine.reference.reading gateway query).session :=
        (engine.reference.entailed_reading gateway query).1.symm

/-- Where a value is expected, both ask for the same sample. -/
theorem Settled.sample_eq (hsettled : engine.Settled gateway) (query : String)
    (hvalue : (engine.reading query).position = .whereValue) :
    (engine.resolved gateway query).sample =
      (engine.reference.reading gateway query).requests.flatMap gateway.sampleOf := by
  obtain ⟨hposition, hsession⟩ := hsettled.reading_eq query
  have hrequests : (engine.reading query).requests =
      Reading.valuesRequest (engine.reading query).session := by
    rw [(engine.entailed_reading query).2, hvalue, Reading.requestsAt]
  have hideal : (engine.reference.reading gateway query).requests =
      Reading.valuesRequest (engine.reading query).session := by
    rw [(engine.reference.entailed_reading gateway query).2, ← hposition, hvalue, hsession,
      Reading.requestsAt]
  have hopen : (engine.prepare query).engine.closed = false := by
    rw [prepare_closed, hsettled.opened]
  rw [resolved, hrequests, hideal, Reading.valuesRequest]
  split
  · split_ifs
    · rfl
    · rw [resolve_values hopen]
      simp
  · rfl

/-- The fields that can be offered are those that the reference has at hand. -/
theorem Settled.activeFields_eq (hsettled : engine.Settled gateway)
    (hsucceeds : gateway.Succeeds) (query : String) :
    Candidate.activeFields (engine.reading query).session
        (engine.resolved gateway query).engine.catalog =
      Candidate.activeFields (engine.reading query).session
        (engine.reference.catalogFor gateway (engine.reading query).session) := by
  cases hactive : (engine.reading query).session.activeIndex with
  | none => simp [Candidate.activeFields, hactive]
  | some index =>
    obtain ⟨held, hresident, rfl⟩ := hsettled.resolved_active hsucceeds query index hactive
    have hcurrent : held.fields = gateway.fieldsOf held.index := by
      refine resolve_current ?_ _ _ held hresident
      rw [prepare_catalog]
      exact hsettled.current
    have hideal := engine.reference.fieldsOf_catalogFor gateway hactive
    rw [Candidate.activeFields_of_resident hactive hresident, hcurrent, Candidate.activeFields,
      hactive, Option.bind_some, hideal]
    rfl

/-- A user sees the same of a query at the engine and at the reference. -/
theorem Settled.view_eq (hsettled : engine.Settled gateway) (hsucceeds : gateway.Succeeds)
    (query : String) :
    (⟨(engine.serve gateway query).batch.position, (engine.serve gateway query).batch.items,
      (engine.serve gateway query).engine.session⟩ : View) =
        engine.reference.serve gateway query := by
  obtain ⟨hposition, hsession⟩ := hsettled.reading_eq query
  have hindices : (engine.resolved gateway query).engine.catalog.indices =
      (engine.reference.catalogFor gateway (engine.reading query).session).indices := by
    simp only [Catalog.indices, hsettled.resolved_loaded]
    rfl
  have hcandidates := Candidate.all_congr hindices (hsettled.activeFields_eq hsucceeds query)
    (hsettled.sample_eq query)
  rw [serve_session hsettled.opened, serve_eq hsettled.opened, Reference.serve, ← hposition,
    ← hsession]
  simp only [Suggestion.all, hcandidates]

/-- Served one after another, queries lead to the same positions, suggestions and sessions as at
an engine at which the fields of every index are always at hand. -/
theorem views_eq_reference (hsucceeds : gateway.Succeeds) (hsettled : engine.Settled gateway)
    (queries : List String) :
    engine.views gateway queries = engine.reference.views gateway queries := by
  induction queries generalizing engine with
  | nil => rfl
  | cons query rest ih =>
    have hview := hsettled.view_eq hsucceeds query
    have hindices : (engine.serve gateway query).engine.catalog.indices =
        engine.catalog.indices := by
      rw [serve_eq hsettled.opened, Catalog.indices, hsettled.resolved_loaded, ← Catalog.indices]
    have hknown : (engine.serve gateway query).engine.catalog.known = engine.catalog.known := by
      obtain ⟨names, hnames⟩ := Option.isSome_iff_exists.mp hsettled.loaded
      exact serve_known hsettled.opened hnames gateway query
    have hnext : (engine.serve gateway query).engine.reference =
        { engine.reference with session := (engine.reference.serve gateway query).session } := by
      rw [← hview, reference, serve_settings hsettled.opened, hindices, hknown]
      rfl
    simp only [views, Reference.views]
    rw [ih (hsettled.serve hsucceeds query), hnext, hview]

/-- An engine that has read a query about `logs`. -/
def acquainted : Engine where
  session := { activeIndex := some "logs" }
  catalog :=
    { loaded := some ["logs", "jobs"]
      known := ["logs", "jobs"]
      resident := some ⟨"logs", [⟨"size", .integer⟩, ⟨"state", .boolean⟩]⟩ }

/-- The user turns to `jobs` and filters by its state. -/
def turning : List String :=
  ["source = jobs ", "source = jobs | where ", "source = jobs | where state ",
    "source = jobs | where state = "]

theorem views_eq_reference_turning :
    Gateway.furnished.Succeeds ∧ acquainted.Settled .furnished ∧
      acquainted.views .furnished turning = acquainted.reference.views .furnished turning ∧
      (acquainted.views .furnished turning).map View.position =
        [.pipeSeparatorAfterIndex, .whereField, .whereEquals, .whereValue] := by
  have hsucceeds : Gateway.furnished.Succeeds := by
    intro request
    cases request with
    | indices => exact ⟨_, rfl⟩
    | fields index => exact ⟨_, Gateway.fetch_furnished_fields index⟩
    | values index field type => exact ⟨_, rfl⟩
  have hsettled : acquainted.Settled .furnished := by
    refine ⟨rfl, rfl, rfl, ?_, ?_⟩
    · intro held hresident
      obtain rfl := Option.some.inj hresident
      decide
    · intro index hactive
      obtain rfl := Option.some.inj hactive
      exact ⟨_, rfl, rfl⟩
  exact ⟨hsucceeds, hsettled, views_eq_reference hsucceeds hsettled turning, by decide +kernel⟩

end Engine
end PipedQuery
