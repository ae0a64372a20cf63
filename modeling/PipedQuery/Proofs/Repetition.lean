import PipedQuery.Proofs.Outage

/-!
A query that is served twice in a row. The first time it may be answered what it asked for: the
answer is filed under the request that called for it (`informed`), and from then on the request is
not needed (`informed_cases`). Neither the record that the reading leaves in the session nor the
answer leads the second reading elsewhere (`reading_informed`). So the second time everything is as
the first time, and only the count of queries has moved on (`serve_again`).
-/

set_option autoImplicit false
set_option relaxedAutoImplicit false

namespace PipedQuery

namespace Engine

variable {engine : Engine} {gateway : Gateway} {request : Request} {query : String}

/-! ### What an answer leaves behind -/

/-- The engine with what the backend has to say to a request. -/
def informed (gateway : Gateway) (engine : Engine) (request : Request) : Engine :=
  match gateway.fetch request with
  | .ok fetched => engine.store fetched
  | .error _ => engine

@[simp] theorem informed_session : (engine.informed gateway request).session = engine.session := by
  unfold informed
  split
  · rw [store_session]
  · rfl

@[simp] theorem informed_settings :
    (engine.informed gateway request).settings = engine.settings := by
  unfold informed
  split
  · rw [store_settings]
  · rfl

theorem informed_generation :
    (engine.informed gateway request).generation = engine.generation := by
  unfold informed
  split
  next fetched _ => cases fetched <;> rfl
  · rfl

/-- The count of queries has no part in what is filed. -/
theorem informed_counted (engine : Engine) (gateway : Gateway) (request : Request)
    (generation : UInt64) :
    { engine with generation }.informed gateway request =
      { engine.informed gateway request with generation } := by
  unfold informed
  split
  next fetched _ => cases fetched <;> rfl
  · rfl

/-- Only an answer to the request for the index list touches the names that are known. -/
theorem informed_known (hother : request ≠ .indices) :
    (engine.informed gateway request).catalog.known = engine.catalog.known := by
  unfold informed
  split
  next fetched hfetch =>
    cases fetched with
    | indices names => exact absurd (Gateway.eq_indices_of_fetch hfetch) hother
    | fields index fields => rfl
    | values sample => rfl
  · rfl

/-- An answer leaves the engine as it was, or what was asked for is there and need not be asked for
again. -/
theorem informed_cases (engine : Engine) (gateway : Gateway) (request : Request) :
    engine.informed gateway request = engine ∨
      (engine.informed gateway request).catalog.needs request = false ∧
        gateway.sampleOf request = [] := by
  cases hfetch : gateway.fetch request with
  | error fault => exact Or.inl (by simp [informed, hfetch])
  | ok fetched =>
    cases request with
    | indices =>
      obtain ⟨names, rfl⟩ := Gateway.fetch_indices_eq_ok hfetch
      exact Or.inr ⟨by simp [informed, hfetch, Catalog.needs, Fetched.listing], rfl⟩
    | fields index =>
      obtain ⟨fields, rfl⟩ := Gateway.fetch_fields_eq_ok hfetch
      exact Or.inr ⟨by simp [informed, hfetch, store, Catalog.storeFields, Catalog.needs,
        Catalog.fieldsOf], rfl⟩
    | values index field type =>
      obtain ⟨sample, rfl⟩ := Gateway.fetch_values_eq_ok hfetch
      exact Or.inl (by simp [informed, hfetch, store])

/-- A request that is free is answered, and its key is free again. -/
theorem resolve_of_frees (hopen : engine.closed = false) (hfree : engine.Frees request) :
    engine.resolve gateway [] [request] =
      ⟨engine.informed gateway request, gateway.sampleOf request, [request]⟩ := by
  have hholding : (engine.holding request).closed = false := by rw [holding_closed, hopen]
  have hinformed : ((engine.holding request).absorb request (gateway.fetch request)).1 =
      engine.informed gateway request := by
    unfold informed
    split
    next fetched hfetch => rw [hfetch, absorb_ok hholding, release_holding hfree]
    next fault hfetch => rw [hfetch, absorb_error, release_holding hfree]
  rw [resolve_singleton hopen hfree, hinformed, absorb_sample hholding]

/-- Whatever a query asks for is answered, one way or the other. -/
theorem resolved_eq (hopen : engine.closed = false) (gateway : Gateway) (query : String) :
    engine.resolved gateway query =
      ⟨(engine.reading query).requests.foldl (informed gateway) (engine.prepare query).engine,
        (engine.reading query).requests.flatMap gateway.sampleOf,
        (engine.reading query).requests⟩ := by
  have hprepare : (engine.prepare query).requests = (engine.reading query).requests := by
    rw [prepare_of_open hopen]
  rcases engine.prepare_requests_cases query with hnone | ⟨request, hrequest, hneeds⟩
  · rw [resolved, ← hprepare, hnone]
    rfl
  · have hfree : (engine.prepare query).engine.Frees request :=
      frees_of_needs (by rw [prepare_catalog, hneeds])
    have hstays : (engine.prepare query).engine.closed = false := by rw [prepare_closed, hopen]
    rw [resolved, ← hprepare, hrequest, resolve_of_frees hstays hfree]
    simp

/-- Answers do not count as queries. -/
theorem resolved_generation (hopen : engine.closed = false) (gateway : Gateway)
    (query : String) :
    (engine.resolved gateway query).engine.generation = engine.generation + 1 := by
  rw [resolved_eq hopen, prepare_of_open hopen]
  refine List.foldlRecOn (motive := fun after : Engine ↦ after.generation = engine.generation + 1)
    _ _ rfl ?_
  intro after hcount request _
  rw [informed_generation, hcount]

/-! ### The second reading -/

/-- The answer to what a query asked for changes neither its position nor the session that its
reading leaves. -/
theorem reading_informed (hopen : engine.closed = false)
    (hrequests : (engine.reading query).requests = [request]) (gateway : Gateway) :
    (((engine.prepare query).engine.informed gateway request).reading query).position =
        (engine.reading query).position ∧
      (((engine.prepare query).engine.informed gateway request).reading query).session =
        (engine.reading query).session := by
  have hsame := reading_prepare hopen query
  have hposition :
      (((engine.prepare query).engine.informed gateway request).reading query).position =
        (engine.reading query).position := by
    by_cases hindices : request = .indices
    · have hasks : .indices ∈ (engine.reading query).requests := by simp [hrequests, hindices]
      rw [reading, informed_settings, prepare_settings]
      exact Reading.position_of_asks_indices hasks _ _
    · rw [← hsame, reading, informed_settings, informed_session]
      exact Reading.position_congr (informed_known hindices) _ _ _
  refine ⟨hposition, ?_⟩
  obtain ⟨hsession, hasked⟩ := engine.entailed_reading query
  obtain ⟨hagain, -⟩ :=
    ((engine.prepare query).engine.informed gateway request).entailed_reading query
  have hasks : (engine.reading query).position ≠ .whereEquals := by
    intro hequals
    rw [hequals, hrequests] at hasked
    cases hasked
  have hleft : ((engine.prepare query).engine.informed gateway request).session =
      (engine.reading query).session := by
    rw [informed_session, prepare_of_open hopen]
  rw [hagain, hposition, hleft, hsession, Reading.sessionAt_again hasks]

/-- Once a query has been served, it is read as before. What it then asks for is answered as before,
and the answer is nothing new. -/
theorem reading_resolved (hopen : engine.closed = false) (gateway : Gateway) (query : String)
    {after : Engine} (hafter : after = (engine.resolved gateway query).engine) :
    (after.reading query).position = (engine.reading query).position ∧
      (after.reading query).session = (engine.reading query).session ∧
      (∀ request ∈ (after.reading query).requests, after.informed gateway request = after) ∧
      (after.reading query).requests.flatMap gateway.sampleOf =
        (engine.reading query).requests.flatMap gateway.sampleOf := by
  have hsame := reading_prepare hopen query
  have hprepare : (engine.prepare query).requests = (engine.reading query).requests := by
    rw [prepare_of_open hopen]
  rw [resolved_eq hopen, ← hprepare] at hafter
  rcases engine.prepare_requests_cases query with hnone | ⟨request, hrequest, -⟩
  · simp only [hnone, List.foldl_nil] at hafter
    subst hafter
    simp [hsame, ← hprepare, hnone]
  · simp only [hrequest, List.foldl_cons, List.foldl_nil] at hafter
    rw [hprepare] at hrequest
    rcases (engine.prepare query).engine.informed_cases gateway request with
      hunmoved | ⟨hfiled, hsample⟩
    · rw [hunmoved] at hafter
      subst hafter
      simp [hsame, hrequest, hunmoved]
    · obtain ⟨hposition, hsession⟩ := reading_informed hopen hrequest gateway
      rw [← hafter] at hposition hsession hfiled
      have hsettings : after.settings = engine.settings := by
        rw [hafter, informed_settings, prepare_settings]
      have hasked := (engine.entailed_reading query).2
      have hnothing : (after.reading query).requests = [] := by
        rw [(after.entailed_reading query).2, hposition, hsession, hsettings]
        exact Reading.requestsAt_eq_nil (hasked.symm.trans hrequest) hfiled
      simp [hposition, hsession, hnothing, hrequest, hsample]

/-! ### The second time -/

/-- Answers that are nothing new leave the engine as it is, whatever its count. -/
theorem foldl_informed {requests : List Request} {generation : UInt64}
    (hknown : ∀ request ∈ requests, engine.informed gateway request = engine) :
    requests.foldl (informed gateway) { engine with generation } = { engine with generation } := by
  induction requests with
  | nil => rfl
  | cons request rest ih =>
    rw [List.forall_mem_cons] at hknown
    rw [List.foldl_cons, informed_counted, hknown.1]
    exact ih hknown.2

/-- Served twice in a row by a backend that gives the same answers, a query leads to the same
position and the same suggestions. Beyond the count of queries the engine is after the second time
as it was after the first. -/
theorem serve_again (engine : Engine) (gateway : Gateway) (query : String) :
    ((engine.serve gateway query).engine.serve gateway query).batch =
        { (engine.serve gateway query).batch with
          generation := (engine.serve gateway query).batch.generation + 1 } ∧
      ((engine.serve gateway query).engine.serve gateway query).engine =
        { (engine.serve gateway query).engine with
          generation := (engine.serve gateway query).engine.generation + 1 } := by
  cases hclosed : engine.closed with
  | true => simp [serve, prepare, hclosed]
  | false =>
    obtain ⟨after, hafter⟩ : ∃ after, after = (engine.resolved gateway query).engine := ⟨_, rfl⟩
    obtain ⟨hposition, hsession, hknown, hsample⟩ := reading_resolved hclosed gateway query hafter
    have hopen : after.closed = false := by
      rw [hafter, resolved, resolve_closed, prepare_closed, hclosed]
    have hkept : after.session = (engine.reading query).session := by
      rw [hafter, resolved, resolve_session, prepare_of_open hclosed]
    have hagain : (after.resolved gateway query).engine =
        { after with generation := after.generation + 1 } := by
      rw [resolved_eq hopen, prepare_of_open hopen, hsession, ← hkept]
      exact foldl_informed hknown
    have hsampled : (after.resolved gateway query).sample =
        (engine.resolved gateway query).sample := by
      rw [resolved_eq hopen, resolved_eq hclosed, hsample]
    have hcount : after.generation = engine.generation + 1 := by
      rw [hafter, resolved_generation hclosed]
    rw [serve_eq hclosed, ← hafter, serve_eq hopen, hagain, hsampled, hposition, hsession, hcount]
    exact ⟨rfl, rfl⟩

end Engine
end PipedQuery
