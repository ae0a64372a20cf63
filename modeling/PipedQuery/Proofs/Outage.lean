import PipedQuery.Proofs.CatalogOrigin
import PipedQuery.Proofs.Rereading
import PipedQuery.Proofs.Serving

/-!
A backend that does not help. A query calls for exactly what it asks for, since what is missing is
free to be claimed (`serve_calls`). A call that fails gives back the key that it took, and nothing
is left of it (`resolve_of_fails`). So if every call of a query fails, the engine is as the reading
left it, the suggestions are made from the same catalog as before, and the same query calls for the
same things again (`serve_of_fails`).
-/

set_option autoImplicit false
set_option relaxedAutoImplicit false

namespace PipedQuery

namespace Engine

variable {engine : Engine} {gateway : Gateway} {request : Request} {query : String}

/-! ### Claims of what is missing -/

/-- What is missing is not under way. -/
theorem frees_of_needs (hneeds : engine.catalog.needs request = true) : engine.Frees request := by
  intro key hkey hbusy
  rw [Option.mem_def] at hkey
  simp [Catalog.needs, hkey, Catalog.isInFlight_iff.mpr hbusy] at hneeds

/-- A query asks for nothing, or for one thing that is missing. -/
theorem prepare_requests_cases (engine : Engine) (query : String) :
    (engine.prepare query).requests = [] ∨
      ∃ request, (engine.prepare query).requests = [request] ∧
        engine.catalog.needs request = true := by
  cases hrequests : (engine.prepare query).requests with
  | nil => exact Or.inl rfl
  | cons request rest =>
    have hlength := engine.prepare_requests_length query
    rw [hrequests, List.length_cons] at hlength
    obtain rfl : rest = [] := List.eq_nil_of_length_eq_zero (by omega)
    have hmem : request ∈ (engine.prepare query).requests := by simp [hrequests]
    exact Or.inr ⟨request, rfl, (prepare_mem_requests hmem).1⟩

theorem prepare_requests_of_closed (hclosed : engine.closed = true) (query : String) :
    (engine.prepare query).requests = [] := by
  simp [prepare, hclosed]

/-- A query calls for exactly what it asks for. -/
theorem serve_calls (engine : Engine) (gateway : Gateway) (query : String) :
    (engine.serve gateway query).calls = (engine.prepare query).requests := by
  rcases engine.prepare_requests_cases query with hnone | ⟨request, hrequest, hneeds⟩
  · simp [serve, hnone]
  · have hopen : (engine.prepare query).engine.closed = false := by
      rw [prepare_closed]
      by_contra hclosed
      rw [prepare_requests_of_closed (by simpa using hclosed)] at hrequest
      cases hrequest
    have hfree : (engine.prepare query).engine.Frees request :=
      frees_of_needs (by rw [prepare_catalog, hneeds])
    simp [serve, hrequest, resolve_singleton hopen hfree]

/-! ### Calls that fail -/

/-- Calls that fail change nothing, however many there are. -/
theorem resolve_of_fails {sample : List SampledValue} {requests : List Request}
    (hfails : ∀ request ∈ (engine.resolve gateway sample requests).calls,
      gateway.Fails request) :
    (engine.resolve gateway sample requests).engine = engine ∧
      (engine.resolve gateway sample requests).sample = sample := by
  induction requests with
  | nil => exact ⟨rfl, rfl⟩
  | cons request rest ih =>
    cases hclaim : engine.claim request with
    | gone => simp [resolve, hclaim]
    | busy =>
      simp only [resolve, hclaim] at hfails ⊢
      exact ih hfails
    | granted claimed =>
      obtain ⟨hopen, hfree, rfl⟩ := claim_eq_granted_iff.mp hclaim
      obtain ⟨fault, hfault⟩ : ∃ fault, gateway.fetch request = .error fault := by
        refine Gateway.fetch_of_fails (hfails request ?_)
        simp [resolve, hclaim]
      have habsorb : (engine.holding request).absorb request (.error fault) = (engine, none) := by
        simp [absorb, release_holding hfree, hopen]
      simp only [resolve, hclaim, hfault, habsorb, Option.getD_none] at hfails ⊢
      exact ih fun other hother ↦ hfails other (List.mem_cons_of_mem _ hother)

/-- Made again from what a reading left, a batch is the same. -/
theorem complete_prepare (engine : Engine) (query : String) :
    (engine.prepare query).engine.complete (engine.prepare query).batch [] =
      (engine.prepare query).batch := by
  cases hclosed : engine.closed with
  | true => simp [complete, prepare, hclosed]
  | false =>
    simp only [prepare_of_open hclosed, complete, hclosed]
    split_ifs <;> rfl

/-- Where no metadata is used, a batch is not made again. -/
theorem serve_of_not_usesMetadata
    (hfixed : (engine.prepare query).batch.position.usesMetadata = false) (gateway : Gateway) :
    (engine.serve gateway query).batch = (engine.prepare query).batch := by
  unfold serve
  dsimp only
  split_ifs
  · rfl
  · simp [complete, hfixed]

theorem reading_prepare (hopen : engine.closed = false) (query : String) :
    (engine.prepare query).engine.reading query = engine.reading query := by
  rw [prepare_of_open hopen]
  exact Reading.ofTokens_again _ _ _ _

/-- A query that is read again asks for the same things. -/
theorem prepare_prepare_requests (engine : Engine) (query : String) :
    ((engine.prepare query).engine.prepare query).requests = (engine.prepare query).requests := by
  cases hclosed : engine.closed with
  | true =>
    have hstays : (engine.prepare query).engine.closed = true := by rw [prepare_closed, hclosed]
    rw [prepare_requests_of_closed hclosed, prepare_requests_of_closed hstays]
  | false =>
    have hopen : (engine.prepare query).engine.closed = false := by rw [prepare_closed, hclosed]
    have hfirst : (engine.prepare query).requests = (engine.reading query).requests := by
      rw [prepare_of_open hclosed]
    rw [hfirst, ← reading_prepare hclosed, prepare_of_open hopen]

/-- If every call of a query fails, its batch and the engine are as the reading left them. Where
keywords are offered, any other backend leads to the same batch. The next call of the query asks
for the same things and calls for them again, whatever the backend does by then. -/
theorem serve_of_fails
    (hfails : ∀ request ∈ (engine.serve gateway query).calls, gateway.Fails request) :
    (engine.serve gateway query).batch = (engine.prepare query).batch ∧
      (engine.serve gateway query).engine = (engine.prepare query).engine ∧
      ((engine.prepare query).batch.position.usesMetadata = false → ∀ other : Gateway,
        (engine.serve other query).batch = (engine.serve gateway query).batch) ∧
      ((engine.serve gateway query).engine.prepare query).requests =
        (engine.prepare query).requests ∧
      ∀ later : Gateway, ((engine.serve gateway query).engine.serve later query).calls =
        (engine.serve gateway query).calls := by
  obtain ⟨hbatch, hengine⟩ : (engine.serve gateway query).batch = (engine.prepare query).batch ∧
      (engine.serve gateway query).engine = (engine.prepare query).engine := by
    unfold serve at hfails ⊢
    dsimp only at hfails ⊢
    split_ifs at hfails ⊢ with hnone
    · exact ⟨rfl, rfl⟩
    · obtain ⟨hengine, hsample⟩ := resolve_of_fails hfails
      simp only [hengine, hsample, complete_prepare, and_self]
  refine ⟨hbatch, hengine, ?_, ?_, ?_⟩
  · intro hfixed other
    rw [serve_of_not_usesMetadata hfixed, hbatch]
  · rw [hengine, prepare_prepare_requests]
  · intro later
    rw [serve_calls, serve_calls, hengine, prepare_prepare_requests]

end Engine

namespace Gateway

/-- A backend that answers for other indices than it is asked about. -/
def misled : Gateway where
  indices := .error .unreadable
  mapping := fun _ ↦ .ok [("logs", [])]
  buckets := fun _ _ ↦ .error (.backend none)

end Gateway

namespace Engine

/-- The fields of `logs` are at hand and asked for once more, those of `jobs` are missing. -/
def pressed : Engine where
  session := { activeIndex := some "jobs" }
  catalog :=
    { loaded := some ["logs", "jobs"]
      known := ["logs", "jobs"]
      resident := some ⟨"logs", [⟨"size", .integer⟩]⟩
      inFlight := [.fields "logs"] }
  generation := 4

/-- The answer to the filter on `jobs` lacks `jobs`, and the next call asks for it again. -/
theorem serve_of_fails_misled :
    (pressed.serve .misled "source = jobs | where ").calls = [.fields "jobs"] ∧
      (∀ request ∈ (pressed.serve .misled "source = jobs | where ").calls,
        Gateway.misled.Fails request) ∧
      (pressed.serve .misled "source = jobs | where ").engine =
        (pressed.prepare "source = jobs | where ").engine ∧
      ((pressed.serve .misled "source = jobs | where ").engine.serve .furnished
        "source = jobs | where ").calls = [.fields "jobs"] := by
  have hcalls : (pressed.serve .misled "source = jobs | where ").calls = [.fields "jobs"] := by
    decide +kernel
  have hfails : ∀ request ∈ (pressed.serve .misled "source = jobs | where ").calls,
      Gateway.misled.Fails request := by
    rw [hcalls, List.forall_mem_singleton]
    exact Or.inr ⟨_, rfl, by decide⟩
  obtain ⟨-, hengine, -, -, hagain⟩ := serve_of_fails hfails
  exact ⟨hcalls, hfails, hengine, (hagain .furnished).trans hcalls⟩

end Engine
end PipedQuery
