import PipedQuery.Proofs.Consequence

/-!
Queries served one after another. An open engine that serves a query reads it, gets answers to
all that the reading misses, and makes the suggestions from what it knows then (`serve_eq`). The
session is the one of the reading (`serve_session`); what the answers change is the catalog, and
`resolve_induction` carries any property that claims and answers keep over to the end.
-/

set_option autoImplicit false
set_option relaxedAutoImplicit false

namespace PipedQuery

namespace Gateway

variable {gateway : Gateway} {index field : String} {type : FieldType} {fetched : Fetched}

/-- The fields of an index as the backend reports them: its mapping, flattened. -/
def fieldsOf (gateway : Gateway) (index : String) : List Field :=
  match gateway.mapping index with
  | .ok response => (response.fields index).getD []
  | .error _ => []

/-- The sample that a request brings. Requests for other things bring none. -/
def sampleOf (gateway : Gateway) : Request → List SampledValue
  | .values index field type =>
    match gateway.buckets index field with
    | .ok buckets => Bucket.sampled type buckets
    | .error _ => []
  | _ => []

theorem fetched_eq_fieldsOf (hfetch : gateway.fetch (.fields index) = .ok fetched) :
    fetched = .fields index (gateway.fieldsOf index) := by
  obtain ⟨fields, rfl⟩ := fetch_fields_eq_ok hfetch
  obtain ⟨-, response, hanswer, hfields⟩ := mapping_of_fetch hfetch rfl
  simp [fieldsOf, hanswer, hfields]

/-- A fetch of values brings the sample, or it fails and the sample is empty. -/
theorem fetch_values_cases (gateway : Gateway) (index field : String) (type : FieldType) :
    gateway.fetch (.values index field type) =
        .ok (.values (gateway.sampleOf (.values index field type))) ∨
      ∃ fault, gateway.fetch (.values index field type) = .error fault ∧
        gateway.sampleOf (.values index field type) = [] := by
  cases hanswer : gateway.buckets index field with
  | error fault =>
    exact Or.inr ⟨fault, by simp [fetch, hanswer, bind, Except.bind], by simp [sampleOf, hanswer]⟩
  | ok buckets =>
    exact Or.inl (by simp [fetch, sampleOf, hanswer, bind, Except.bind, pure, Except.pure])

/-- A backend with two indices. Both have a `size` and a `state`; the state is a Boolean in one
and a text in the other. -/
def furnished : Gateway where
  indices := .ok ["logs", "jobs"]
  mapping := fun index ↦ .ok [(index, [("size", .node (some "integer") none),
    ("state", .node (some (if index = "logs" then "boolean" else "keyword")) none)])]
  buckets := fun _ _ ↦ .ok [⟨.integer 1, 3⟩]

theorem fetch_furnished_fields (index : String) :
    furnished.fetch (.fields index) = .ok (.fields index
      [⟨"size", .integer⟩, ⟨"state", if index = "logs" then .boolean else .string⟩]) := by
  by_cases hlogs : index = "logs" <;>
    simp [fetch, furnished, MappingResponse.fieldsOf, MappingResponse.fields, Property.flatten,
      Property.fieldsAt, Property.own, Property.path, FieldType.ofBackend, bind, Except.bind,
      pure, Except.pure, hlogs]

end Gateway

namespace Catalog

/-- The resident fields are what the backend reports for their index. -/
def Current (gateway : Gateway) (catalog : Catalog) : Prop :=
  ∀ held, catalog.resident = some held → held.fields = gateway.fieldsOf held.index

end Catalog

namespace Candidate

/-- The candidates of a position are made of the index list, the fields of the active index and,
where a value is expected, the sample. -/
theorem all_congr {position : Position} {session : Session} {catalog other : Catalog}
    {sample values : List SampledValue} (hindices : catalog.indices = other.indices)
    (hfields : activeFields session catalog = activeFields session other)
    (hsample : position = .whereValue → sample = values) :
    all position session catalog sample = all position session other values := by
  cases position with
  | whereValue => rw [hsample rfl]; rfl
  | _ => simp only [all, hindices, hfields]

/-- Where no metadata is used the candidates are fixed. -/
theorem all_of_not_usesMetadata {position : Position} (hfixed : position.usesMetadata = false)
    (session : Session) (catalog other : Catalog) (sample values : List SampledValue) :
    all position session catalog sample = all position session other values := by
  cases position <;> first | rfl | cases hfixed

end Candidate

namespace Engine

variable {engine : Engine} {gateway : Gateway}

/-- What the rules make of a query at the engine. -/
def reading (engine : Engine) (query : String) : Reading :=
  Reading.ofTokens engine.settings engine.catalog engine.session (Tokens.ofQuery query)

theorem entailed_reading (engine : Engine) (query : String) :
    (engine.reading query).Entailed engine.settings engine.catalog engine.session
      (Tokens.ofQuery query) :=
  Reading.entailed_ofTokens _ _ _ _

theorem prepare_of_open (hopen : engine.closed = false) (query : String) :
    engine.prepare query =
      ⟨{ engine with
          generation := engine.generation + 1, session := (engine.reading query).session },
        ⟨query, engine.generation + 1, (engine.reading query).position,
          Suggestion.all (engine.reading query).position (Tokens.ofQuery query)
            (engine.reading query).session engine.catalog []⟩,
        (engine.reading query).requests⟩ := by
  simp [prepare, hopen, reading]

/-- A query asks for what is missing, and about no index but the one that it leaves active. -/
theorem prepare_mem_requests {query : String} {request : Request}
    (hrequest : request ∈ (engine.prepare query).requests) :
    engine.catalog.needs request = true ∧ ∀ index, request.index = some index →
      (engine.prepare query).engine.session.activeIndex = some index := by
  cases hclosed : engine.closed with
  | true => simp [prepare, hclosed] at hrequest
  | false =>
    rw [prepare_of_open hclosed] at hrequest ⊢
    obtain ⟨-, hrequests⟩ := engine.entailed_reading query
    rw [hrequests] at hrequest
    exact Reading.mem_requestsAt hrequest

/-! ### Requests served in turn -/

/-- What claims and answers keep holds once all requests are served. -/
theorem resolve_induction {motive : Engine → Prop}
    (hclaim : ∀ engine request, motive engine → motive (engine.holding request))
    (habsorb : ∀ engine request, motive engine →
      motive (engine.absorb request (gateway.fetch request)).1)
    (hstart : motive engine) (sample : List SampledValue) (requests : List Request) :
    motive (engine.resolve gateway sample requests).engine := by
  induction requests generalizing engine sample with
  | nil => exact hstart
  | cons request rest ih =>
    simp only [resolve]
    split
    next claimed hgranted =>
      obtain ⟨_, _, rfl⟩ := claim_eq_granted_iff.mp hgranted
      exact ih (habsorb _ request (hclaim _ request hstart)) _
    next => exact ih hstart sample
    next => exact hstart

@[simp] theorem resolve_session (engine : Engine) (sample : List SampledValue)
    (requests : List Request) :
    (engine.resolve gateway sample requests).engine.session = engine.session :=
  resolve_induction (motive := fun after ↦ after.session = engine.session)
    (fun _ _ hkept ↦ by rw [holding_session, hkept])
    (fun _ _ hkept ↦ by rw [absorb_session, hkept]) rfl sample requests

@[simp] theorem resolve_settings (engine : Engine) (sample : List SampledValue)
    (requests : List Request) :
    (engine.resolve gateway sample requests).engine.settings = engine.settings :=
  resolve_induction (motive := fun after ↦ after.settings = engine.settings)
    (fun _ _ hkept ↦ by rw [holding_settings, hkept])
    (fun _ _ hkept ↦ by rw [absorb_settings, hkept]) rfl sample requests

@[simp] theorem resolve_closed (engine : Engine) (sample : List SampledValue)
    (requests : List Request) :
    (engine.resolve gateway sample requests).engine.closed = engine.closed :=
  resolve_induction (motive := fun after ↦ after.closed = engine.closed)
    (fun _ _ hkept ↦ by rw [holding_closed, hkept])
    (fun _ _ hkept ↦ by rw [absorb_closed, hkept]) rfl sample requests

/-- Every key that is claimed on the way is free again at the end. -/
@[simp] theorem resolve_inFlight (engine : Engine) (sample : List SampledValue)
    (requests : List Request) :
    (engine.resolve gateway sample requests).engine.catalog.inFlight =
      engine.catalog.inFlight := by
  induction requests generalizing engine sample with
  | nil => rfl
  | cons request rest ih =>
    simp only [resolve]
    split
    next claimed hgranted =>
      obtain ⟨_, hfree, rfl⟩ := claim_eq_granted_iff.mp hgranted
      have hfreed := congrArg (·.catalog.inFlight) (release_holding hfree)
      rw [ih, absorb_inFlight]
      simpa only [release_eq] using hfreed
    next => exact ih engine sample
    next => rfl

/-- Only a request for fields can change the resident ones. -/
theorem resolve_resident {requests : List Request}
    (hnone : ∀ index, Request.fields index ∉ requests) (engine : Engine)
    (sample : List SampledValue) :
    (engine.resolve gateway sample requests).engine.catalog.resident =
      engine.catalog.resident := by
  induction requests generalizing engine sample with
  | nil => rfl
  | cons request rest ih =>
    have hrest : ∀ index, Request.fields index ∉ rest := fun index hmem ↦
      hnone index (List.mem_cons_of_mem _ hmem)
    simp only [resolve]
    split
    next claimed hgranted =>
      obtain ⟨_, _, rfl⟩ := claim_eq_granted_iff.mp hgranted
      rw [ih hrest]
      rcases absorb_cases (engine.holding request) request (gateway.fetch request) with
        habsorb | ⟨fetched, _, hfetch, habsorb⟩
      · rw [habsorb, release_eq, holding_resident]
      · rw [habsorb, store_resident, release_eq, holding_resident]
        cases fetched with
        | fields index fields =>
          obtain rfl := Gateway.eq_fields_of_fetch hfetch
          exact absurd (List.mem_cons_self) (hnone index)
        | indices names => rfl
        | values sample => rfl
    next => exact ih hrest engine sample
    next => rfl

/-- An index list that is there stays as it is, in both copies. -/
theorem resolve_listed {names : List String} (hloaded : engine.catalog.loaded = some names)
    (sample : List SampledValue) (requests : List Request) :
    (engine.resolve gateway sample requests).engine.catalog.loaded = some names ∧
      (engine.resolve gateway sample requests).engine.catalog.known = engine.catalog.known := by
  refine resolve_induction (motive := fun after ↦ after.catalog.loaded = some names ∧
    after.catalog.known = engine.catalog.known) (fun _ _ hkept ↦ hkept) ?_ ⟨hloaded, rfl⟩
    sample requests
  rintro after request ⟨hlist, hknown⟩
  rcases absorb_cases after request (gateway.fetch request) with
    habsorb | ⟨fetched, _, _, habsorb⟩
  · rw [habsorb, release_eq]
    exact ⟨hlist, hknown⟩
  · -- The names stay only because the list is there, so they cannot be followed alone.
    have hreleased : (after.release request).catalog.loaded = some names := by
      rw [release_eq]
      exact hlist
    rw [habsorb, store_loaded, hreleased, store_known hreleased, release_eq]
    exact ⟨rfl, hknown⟩

theorem resolve_loaded {names : List String} (hloaded : engine.catalog.loaded = some names)
    (sample : List SampledValue) (requests : List Request) :
    (engine.resolve gateway sample requests).engine.catalog.loaded = some names :=
  (resolve_listed hloaded sample requests).1

theorem resolve_known {names : List String} (hloaded : engine.catalog.loaded = some names)
    (sample : List SampledValue) (requests : List Request) :
    (engine.resolve gateway sample requests).engine.catalog.known = engine.catalog.known :=
  (resolve_listed hloaded sample requests).2

theorem resolve_agrees (hagrees : engine.catalog.Agrees) (sample : List SampledValue)
    (requests : List Request) :
    (engine.resolve gateway sample requests).engine.catalog.Agrees :=
  resolve_induction (motive := fun after ↦ after.catalog.Agrees)
    (fun _ _ hkept ↦ hkept.of_same rfl rfl) (fun _ _ hkept ↦ agrees_absorb hkept _ _) hagrees
    sample requests

theorem resolve_current (hcurrent : engine.catalog.Current gateway)
    (sample : List SampledValue) (requests : List Request) :
    (engine.resolve gateway sample requests).engine.catalog.Current gateway := by
  refine resolve_induction (motive := fun after ↦ after.catalog.Current gateway)
    (fun _ _ hkept ↦ hkept) ?_ hcurrent sample requests
  intro after request hkept held hresident
  rcases absorb_cases after request (gateway.fetch request) with
    habsorb | ⟨fetched, _, hfetch, habsorb⟩
  · rw [habsorb, release_eq] at hresident
    exact hkept held hresident
  · rw [habsorb, store_resident, release_eq] at hresident
    cases fetched with
    | fields index fields =>
      obtain rfl := Gateway.eq_fields_of_fetch hfetch
      have hreported := Gateway.fetched_eq_fieldsOf hfetch
      injection hreported with _ hfields
      obtain rfl : ⟨index, fields⟩ = held := Option.some.inj hresident
      exact hfields
    | indices names => exact hkept held hresident
    | values sample => exact hkept held hresident

/-- One free request is called for, and its answer is absorbed. -/
theorem resolve_singleton {request : Request} (hopen : engine.closed = false)
    (hfree : engine.Frees request) (sample : List SampledValue) :
    engine.resolve gateway sample [request] =
      ⟨((engine.holding request).absorb request (gateway.fetch request)).1,
        ((engine.holding request).absorb request (gateway.fetch request)).2.getD sample,
        [request]⟩ := by
  simp [resolve, claim_of_frees hopen hfree]

/-- An open engine passes a sample on, and only values are sampled. -/
theorem absorb_sample (hopen : engine.closed = false) (gateway : Gateway) (request : Request) :
    (engine.absorb request (gateway.fetch request)).2.getD [] = gateway.sampleOf request := by
  have hreleased : (engine.release request).closed = false := by simpa [release_eq] using hopen
  cases request with
  | indices =>
    cases hfetch : gateway.fetch .indices with
    | error fault => simp [absorb, hreleased, Gateway.sampleOf]
    | ok fetched =>
      obtain ⟨names, rfl⟩ := Gateway.fetch_indices_eq_ok hfetch
      simp [absorb, hreleased, Gateway.sampleOf]
  | fields index =>
    cases hfetch : gateway.fetch (.fields index) with
    | error fault => simp [absorb, hreleased, Gateway.sampleOf]
    | ok fetched =>
      obtain ⟨fields, rfl⟩ := Gateway.fetch_fields_eq_ok hfetch
      simp [absorb, hreleased, Gateway.sampleOf]
  | values index field type =>
    rcases gateway.fetch_values_cases index field type with hfetch | ⟨fault, hfetch, hsample⟩
    · simp [absorb, hreleased, hfetch]
    · simp [absorb, hreleased, hfetch, hsample]

/-- Values need no leave, so at an open engine they are always sampled. -/
theorem resolve_values (hopen : engine.closed = false) (index field : String)
    (type : FieldType) :
    (engine.resolve gateway [] [.values index field type]).sample =
      gateway.sampleOf (.values index field type) := by
  have hfree : engine.Frees (.values index field type) := by simp [Frees, Request.key]
  have hholding : (engine.holding (.values index field type)).closed = false := by
    rw [holding_closed, hopen]
  rw [resolve_singleton hopen hfree, absorb_sample hholding]

/-- Fields that arrive are the resident ones. -/
theorem resolve_fields {index : String} {fetched : Fetched} (hopen : engine.closed = false)
    (hfree : engine.Frees (.fields index))
    (hfetch : gateway.fetch (.fields index) = .ok fetched) (sample : List SampledValue) :
    (engine.resolve gateway sample [.fields index]).engine.catalog.resident =
      some ⟨index, gateway.fieldsOf index⟩ := by
  have hholding : (engine.holding (.fields index)).closed = false := by rw [holding_closed, hopen]
  simp only [resolve_singleton hopen hfree, hfetch, absorb_ok hholding, store_resident,
    Gateway.fetched_eq_fieldsOf hfetch]
  rfl

/-! ### A query served -/

/-- The engine with its sample, once all that a query asks for has been answered. -/
def resolved (gateway : Gateway) (engine : Engine) (query : String) : Resolved :=
  (engine.prepare query).engine.resolve gateway [] (engine.reading query).requests

/-- A query is served from what the engine knows after the answers, also where no answer was
needed. -/
theorem serve_eq (hopen : engine.closed = false) (gateway : Gateway) (query : String) :
    engine.serve gateway query =
      ⟨(engine.resolved gateway query).engine,
        ⟨query, engine.generation + 1, (engine.reading query).position,
          Suggestion.all (engine.reading query).position (Tokens.ofQuery query)
            (engine.reading query).session (engine.resolved gateway query).engine.catalog
            (engine.resolved gateway query).sample⟩,
        (engine.resolved gateway query).calls⟩ := by
  have hclosed : (engine.resolved gateway query).engine.closed = false := by
    rw [resolved, resolve_closed, prepare_closed, hopen]
  have hsession : (engine.resolved gateway query).engine.session =
      (engine.reading query).session := by
    rw [resolved, resolve_session, prepare_of_open hopen]
  have hprepared := prepare_of_open hopen query
  by_cases hnothing : (engine.reading query).requests = []
  · have hresolved : engine.resolved gateway query = ⟨(engine.prepare query).engine, [], []⟩ := by
      simp [resolved, hnothing, resolve]
    simp [serve, hresolved, hprepared, hnothing]
  · have hserve : engine.serve gateway query =
        ⟨(engine.resolved gateway query).engine,
          (engine.resolved gateway query).engine.complete (engine.prepare query).batch
            (engine.resolved gateway query).sample,
          (engine.resolved gateway query).calls⟩ := by
      simp [serve, resolved, hprepared, hnothing]
    rw [hserve]
    simp only [complete, hclosed, hsession, hprepared]
    split_ifs with huses
    · rfl
    · have hfixed : (engine.reading query).position.usesMetadata = false := by
        simpa using huses
      simp only [Suggestion.all, Candidate.all_of_not_usesMetadata hfixed _ engine.catalog
        (engine.resolved gateway query).engine.catalog [] (engine.resolved gateway query).sample]

theorem serve_session (hopen : engine.closed = false) (gateway : Gateway) (query : String) :
    (engine.serve gateway query).engine.session = (engine.reading query).session := by
  rw [serve_eq hopen, resolved, resolve_session, prepare_of_open hopen]

theorem serve_settings (hopen : engine.closed = false) (gateway : Gateway) (query : String) :
    (engine.serve gateway query).engine.settings = engine.settings := by
  rw [serve_eq hopen, resolved, resolve_settings, prepare_settings]

theorem serve_closed (hopen : engine.closed = false) (gateway : Gateway) (query : String) :
    (engine.serve gateway query).engine.closed = false := by
  rw [serve_eq hopen, resolved, resolve_closed, prepare_closed, hopen]

theorem serve_known {names : List String} (hopen : engine.closed = false)
    (hloaded : engine.catalog.loaded = some names) (gateway : Gateway) (query : String) :
    (engine.serve gateway query).engine.catalog.known = engine.catalog.known := by
  have hprepared : (engine.prepare query).engine.catalog.loaded = some names := by
    rw [prepare_catalog, hloaded]
  rw [serve_eq hopen, resolved, resolve_known hprepared, prepare_catalog]

end Engine
end PipedQuery
