import PipedQuery.Proofs.ValueOrigin

/-!
The fields that an engine holds while queries come. There is room for the fields of one index, and
those that are held are of use only if this is the active one (`heldFields`). Most positions that
use fields ask for them when they are missing, so that they are held afterwards
(`Supplied.heldFields_serve`); at every other position they stay as they are
(`heldFields_serve_of_not_renews`). One position uses fields and does not ask: behind the field of a
filter its type is looked up in the fields that are held at the moment. Without them the type stays
unknown, and it stays so until the value of the filter is expected (`Supplied.type_unknown`).
-/

set_option autoImplicit false
set_option relaxedAutoImplicit false

namespace PipedQuery

namespace Position

/-- After a query that is read there the fields of the active index are at hand, or no index is
active. -/
def renewsFields : Position → Bool
  | firstCommand | pipeSeparatorAfterIndex => true
  | position => position.asksField

theorem renewsFields_of_asksField {position : Position} (hasks : position.asksField = true) :
    position.renewsFields = true := by
  cases position <;> first | rfl | cases hasks

/-- The field of a filter that the positions leave behind was recorded before any of them renewed
the fields. -/
def RecordsEarly (passed : List Position) : Prop :=
  ∃ before after, passed = before ++ whereEquals :: after ∧
    (∀ position ∈ before, position.renewsFields = false) ∧
    ∀ position ∈ after, position.keepsField = true

theorem RecordsEarly.concat {passed : List Position} {position : Position}
    (hearly : RecordsEarly passed) (hkeeps : position.keepsField = true) :
    RecordsEarly (passed ++ [position]) := by
  obtain ⟨before, after, rfl, hbefore, hafter⟩ := hearly
  refine ⟨before, after ++ [position], by simp, hbefore, ?_⟩
  intro last hlast
  rcases List.mem_append.mp hlast with hmem | hmem
  · exact hafter last hmem
  · rwa [List.mem_singleton.mp hmem]

end Position

namespace Reading

theorem fields_not_mem_requestsAt {settings : Settings} {catalog : Catalog} {session : Session}
    {position : Position} {index : String} (hfields : position.renewsFields = false) :
    Request.fields index ∉ requestsAt settings catalog session position := by
  have hindices : Request.fields index ∉ indicesRequest catalog := by
    unfold indicesRequest
    split_ifs <;> simp
  have hvalues : Request.fields index ∉ valuesRequest session := by
    unfold valuesRequest
    split
    · split_ifs <;> simp
    · simp
  cases position with
  | whereValue => exact hvalues
  | indexName | inlineIndexName => exact hindices
  | firstCommand | pipeSeparatorAfterIndex | fieldListContinuation | statsFieldArg
  | statsGroupField | fieldsFirst | dedupField | whereField => cases hfields
  | _ => exact List.not_mem_nil

end Reading

namespace Engine

variable {gateway : Gateway} {engine : Engine} {names : List String}

/-- The fields of the active index, if they are resident. -/
def heldFields (engine : Engine) : Option (List Field) :=
  engine.session.activeIndex.bind engine.catalog.fieldsOf

/-- The type that a field of a filter gets is the one in the fields that are held. -/
theorem typeOf_eq_heldFields (engine : Engine) (word : String) :
    engine.session.activeIndex.bind (engine.catalog.typeOf · word) =
      engine.heldFields.bind fun fields ↦ (fields.find? (·.name = word)).map Field.type := by
  unfold heldFields
  cases engine.session.activeIndex with
  | none => rfl
  | some index =>
    simp only [Option.bind_some, Catalog.typeOf]
    cases engine.catalog.fieldsOf index <;> rfl

/-! ### An engine between two queries -/

/-- An engine that waits for the next query, at a backend that answers all of them alike. -/
structure Ready (gateway : Gateway) (engine : Engine) : Prop where
  opened : engine.closed = false
  idle : engine.catalog.inFlight = []
  agrees : engine.catalog.Agrees
  current : engine.catalog.Current gateway
  known : ∀ index, engine.session.activeIndex = some index → engine.catalog.knows index = true

theorem knows_resolve {index : String} (hagrees : engine.catalog.Agrees)
    (hknown : engine.catalog.knows index = true) (sample : List SampledValue)
    (requests : List Request) :
    (engine.resolve gateway sample requests).engine.catalog.knows index = true := by
  cases hloaded : engine.catalog.loaded with
  | none =>
    have hlisted := (hagrees index).mp hknown
    simp [Catalog.indices, hloaded] at hlisted
  | some names => rwa [Catalog.knows, resolve_known hloaded]

theorem Ready.resolve (hready : engine.Ready gateway) (sample : List SampledValue)
    (requests : List Request) : (engine.resolve gateway sample requests).engine.Ready gateway where
  opened := by rw [resolve_closed, hready.opened]
  idle := by rw [resolve_inFlight, hready.idle]
  agrees := resolve_agrees hready.agrees sample requests
  current := resolve_current hready.current sample requests
  known := by
    intro index hactive
    rw [resolve_session] at hactive
    exact knows_resolve hready.agrees (hready.known index hactive) sample requests

theorem Ready.prepare (hready : engine.Ready gateway) (query : String) :
    (engine.prepare query).engine.Ready gateway where
  opened := by rw [prepare_closed, hready.opened]
  idle := by rw [prepare_catalog, hready.idle]
  agrees := by
    rw [prepare_catalog]
    exact hready.agrees
  current := by
    rw [prepare_catalog]
    exact hready.current
  known := by
    intro index hactive
    rw [prepare_of_open hready.opened] at hactive
    rw [prepare_catalog]
    rcases Reading.activeIndex_cases hactive with hbefore | hknown
    · exact hready.known index hbefore
    · exact hknown

theorem Ready.serve (hready : engine.Ready gateway) (query : String) :
    (engine.serve gateway query).engine.Ready gateway := by
  rw [serve_eq hready.opened]
  exact (hready.prepare query).resolve [] _

theorem Ready.select (hready : engine.Ready gateway) (suggestion : Suggestion) :
    (engine.select suggestion).engine.Ready gateway := by
  rcases engine.select_cases suggestion with ⟨hsame, -⟩ | ⟨index, hknown, htaken, -⟩
  · rw [hsame]
    exact hready
  · rw [htaken]
    refine ⟨hready.opened, hready.idle, hready.agrees, hready.current, ?_⟩
    intro active hactive
    obtain rfl := Option.some.inj hactive
    exact hknown

/-- Nothing is known after a reset, and nothing is asked about. -/
theorem Ready.reset (hready : engine.Ready gateway) : engine.reset.Ready gateway where
  opened := hready.opened
  idle := rfl
  agrees := Catalog.agrees_empty
  current := nofun
  known := nofun

theorem ready_new (gateway : Gateway) : ({} : Engine).Ready gateway where
  opened := rfl
  idle := rfl
  agrees := Catalog.agrees_empty
  current := nofun
  known := nofun

/-- The fields that are held are those that the backend reports. -/
theorem Ready.heldFields_cases (hready : engine.Ready gateway) :
    engine.heldFields = none ∨
      engine.heldFields = engine.session.activeIndex.map gateway.fieldsOf := by
  unfold heldFields
  cases hactive : engine.session.activeIndex with
  | none => exact Or.inl rfl
  | some index =>
    cases hresident : engine.catalog.resident with
    | none => exact Or.inl (by simp [Catalog.fieldsOf, hresident])
    | some held =>
      by_cases hindex : held.index = index
      · refine Or.inr ?_
        subst hindex
        simp [Catalog.fieldsOf, hresident, hready.current held hresident]
      · exact Or.inl (by simp [Catalog.fieldsOf, hresident, hindex])

/-! ### What a query does to the fields that are held -/

/-- Fields that are asked for, if they are missing, are there afterwards. -/
theorem Ready.fieldsOf_fetched (hready : engine.Ready gateway) {index : String}
    (hanswers : ∃ fetched, gateway.fetch (.fields index) = .ok fetched) :
    (engine.resolve gateway [] (Reading.fieldsRequest engine.catalog index)).engine.catalog.fieldsOf
      index = some (gateway.fieldsOf index) := by
  obtain ⟨fetched, hfetch⟩ := hanswers
  by_cases hneeds : engine.catalog.needs (.fields index) = true
  · have hfree : engine.Frees (.fields index) := by
      intro key _
      rw [hready.idle]
      exact List.not_mem_nil
    rw [Reading.fieldsRequest, if_pos hneeds, Catalog.fieldsOf,
      resolve_fields hready.opened hfree hfetch]
    simp
  · rw [Reading.fieldsRequest, if_neg hneeds]
    rw [Catalog.needs_fields_iff, hready.idle] at hneeds
    obtain ⟨held, hresident, rfl⟩ : ∃ held, engine.catalog.resident = some held ∧
        held.index = index := by
      by_contra hmissing
      exact hneeds ⟨List.not_mem_nil, fun held hheld hindex ↦ hmissing ⟨held, hheld, hindex⟩⟩
    simp [Engine.resolve, Catalog.fieldsOf, hresident, hready.current held hresident]

/-- The index list is there, and the backend answers for the fields of all that it names. -/
structure Supplied (gateway : Gateway) (names : List String) (engine : Engine) : Prop
    extends Ready gateway engine where
  loaded : engine.catalog.loaded = some names
  answers : ∀ index ∈ names, ∃ fetched, gateway.fetch (.fields index) = .ok fetched

theorem Supplied.resolve (hsupplied : engine.Supplied gateway names) (sample : List SampledValue)
    (requests : List Request) :
    (engine.resolve gateway sample requests).engine.Supplied gateway names where
  toReady := hsupplied.toReady.resolve sample requests
  loaded := resolve_loaded hsupplied.loaded sample requests
  answers := hsupplied.answers

theorem Supplied.serve (hsupplied : engine.Supplied gateway names) (query : String) :
    (engine.serve gateway query).engine.Supplied gateway names := by
  rw [serve_eq hsupplied.opened]
  refine Supplied.resolve ⟨hsupplied.toReady.prepare query, ?_, hsupplied.answers⟩ [] _
  rw [prepare_catalog, hsupplied.loaded]

/-- Where fields are renewed, the held ones are those that the backend reports for the index that
is active then. -/
theorem Supplied.heldFields_serve (hsupplied : engine.Supplied gateway names) {query : String}
    (hrenews : (engine.reading query).position.renewsFields = true) :
    (engine.serve gateway query).engine.heldFields =
      (engine.reading query).session.activeIndex.map gateway.fieldsOf := by
  obtain ⟨hsession, hrequests⟩ := engine.entailed_reading query
  rw [heldFields, serve_session hsupplied.opened, serve_eq hsupplied.opened]
  cases hactive : (engine.reading query).session.activeIndex with
  | none => rfl
  | some index =>
    have hknown : engine.catalog.knows index = true :=
      (Reading.activeIndex_cases hactive).elim (hsupplied.known index) id
    have hlisted : index ∈ names := by
      simpa [Catalog.indices, hsupplied.loaded] using (hsupplied.agrees index).mp hknown
    have hasks : (engine.reading query).requests =
        Reading.fieldsRequest (engine.prepare query).engine.catalog index := by
      rw [prepare_catalog, hrequests]
      cases hposition : (engine.reading query).position with
      | firstCommand =>
        rw [hsession, hposition] at hactive
        cases hactive
      | pipeSeparatorAfterIndex | fieldListContinuation | statsFieldArg | statsGroupField
      | fieldsFirst | dedupField | whereField =>
        simp only [Reading.requestsAt, Reading.activeFieldsRequest, hactive]
      | _ =>
        rw [hposition] at hrenews
        cases hrenews
    rw [resolved, hasks, Option.bind_some]
    exact (hsupplied.toReady.prepare query).fieldsOf_fetched (hsupplied.answers index hlisted)

/-- Elsewhere neither the active index nor the resident fields change. -/
theorem heldFields_serve_of_not_renews (hopen : engine.closed = false) {query : String}
    (hkeeps : (engine.reading query).position.renewsFields = false) :
    (engine.serve gateway query).engine.heldFields = engine.heldFields := by
  obtain ⟨hsession, hrequests⟩ := engine.entailed_reading query
  have hactive : (engine.reading query).session.activeIndex = engine.session.activeIndex := by
    rw [hsession]
    cases hposition : (engine.reading query).position <;>
      first | rfl | (rw [hposition] at hkeeps; cases hkeeps)
  have hresident : (engine.serve gateway query).engine.catalog.resident =
      engine.catalog.resident := by
    rw [serve_eq hopen, resolved, hrequests, resolve_resident
      (fun index ↦ Reading.fields_not_mem_requestsAt hkeeps), prepare_catalog]
  have hfields : (engine.serve gateway query).engine.catalog.fieldsOf =
      engine.catalog.fieldsOf := by
    funext index
    rw [Catalog.fieldsOf, hresident, Catalog.fieldsOf]
  rw [heldFields, serve_session hopen, hactive, hfields, heldFields]

/-- Behind the field of a filter the word is recorded, with its type in the fields that are held. -/
theorem activeField_serve_whereEquals (hopen : engine.closed = false) (gateway : Gateway)
    {query : String} (hposition : (engine.reading query).position = .whereEquals) :
    (engine.serve gateway query).engine.session.activeField =
      (Tokens.ofQuery query).previous.map fun word ↦
        ⟨word, engine.heldFields.bind fun fields ↦
          (fields.find? (·.name = word)).map Field.type⟩ := by
  rw [serve_session hopen, (engine.entailed_reading query).1, hposition]
  simp only [Reading.sessionAt, typeOf_eq_heldFields]

/-- At the beginning of a query and of a segment there is no field of a filter. -/
theorem activeField_serve_of_forgets (hopen : engine.closed = false) (gateway : Gateway)
    {query : String} (hforgets : (engine.reading query).position.keepsField = false)
    (hposition : (engine.reading query).position ≠ .whereEquals) :
    (engine.serve gateway query).engine.session.activeField = none := by
  rw [serve_session hopen, (engine.entailed_reading query).1]
  cases hfound : (engine.reading query).position <;>
    first | rfl | exact absurd hfound hposition | (rw [hfound] at hforgets; cases hforgets)

theorem activeField_serve_of_keeps (hopen : engine.closed = false) (gateway : Gateway)
    {query : String} (hkeeps : (engine.reading query).position.keepsField = true) :
    (engine.serve gateway query).engine.session.activeField = engine.session.activeField := by
  rw [serve_session hopen, (engine.entailed_reading query).1]
  cases hposition : (engine.reading query).position <;>
    first | rfl | (rw [hposition] at hkeeps; cases hkeeps)

/-- Where a value is expected, the session alone says what is sampled. -/
theorem sample_of_whereValue (hopen : engine.closed = false) {query : String}
    (hvalue : (engine.reading query).position = .whereValue) :
    (engine.resolved gateway query).sample =
      (Reading.valuesRequest engine.session).flatMap gateway.sampleOf := by
  obtain ⟨hsession, hrequests⟩ := engine.entailed_reading query
  rw [hsession, hvalue] at hrequests
  have hprepared : (engine.prepare query).engine.closed = false := by rw [prepare_closed, hopen]
  rw [resolved, hrequests]
  simp only [Reading.sessionAt, Reading.requestsAt, Reading.valuesRequest]
  split
  · split_ifs
    · rfl
    · rw [resolve_values hprepared]
      simp
  · rfl

/-- No value is offered for a field whose type is unknown. -/
theorem items_of_type_unknown (hopen : engine.closed = false) {query : String}
    (hvalue : (engine.reading query).position = .whereValue)
    (htype : engine.session.activeField.bind ActiveField.type = none) :
    (engine.serve gateway query).batch.items = [] := by
  have hsample : (engine.resolved gateway query).sample = [] := by
    rw [sample_of_whereValue hopen hvalue, Reading.valuesRequest]
    split
    next active name type _ hfield => simp [hfield] at htype
    next => rfl
  rw [serve_eq hopen, hvalue, hsample]
  rfl

/-! ### Queries in turn -/

/-- The engine after queries that were served one after another. -/
def served (gateway : Gateway) (engine : Engine) (queries : List String) : Engine :=
  queries.foldl (fun engine query ↦ (engine.serve gateway query).engine) engine

/-- The positions that were found for them. -/
def positions (gateway : Gateway) (engine : Engine) : List String → List Position
  | [] => []
  | query :: rest =>
    (engine.reading query).position :: positions gateway (engine.serve gateway query).engine rest

@[simp] theorem served_concat (gateway : Gateway) (engine : Engine) (queries : List String)
    (query : String) :
    engine.served gateway (queries ++ [query]) =
      ((engine.served gateway queries).serve gateway query).engine := by
  simp [served]

@[simp] theorem positions_concat (gateway : Gateway) (engine : Engine) (queries : List String)
    (query : String) :
    engine.positions gateway (queries ++ [query]) =
      engine.positions gateway queries ++
        [((engine.served gateway queries).reading query).position] := by
  induction queries generalizing engine with
  | nil => rfl
  | cons first rest ih =>
    simp only [List.cons_append, positions, ih]
    rfl

theorem Supplied.served (hsupplied : engine.Supplied gateway names) (queries : List String) :
    (engine.served gateway queries).Supplied gateway names := by
  induction queries generalizing engine with
  | nil => exact hsupplied
  | cons query rest ih => exact ih (hsupplied.serve query)

theorem Supplied.heldFields_served (hsupplied : engine.Supplied gateway names)
    {queries : List String}
    (hkeeps : ∀ position ∈ engine.positions gateway queries, position.renewsFields = false) :
    (engine.served gateway queries).heldFields = engine.heldFields := by
  induction queries generalizing engine with
  | nil => rfl
  | cons query rest ih =>
    obtain ⟨hquery, hrest⟩ := List.forall_mem_cons.mp hkeeps
    rw [← heldFields_serve_of_not_renews hsupplied.opened hquery]
    exact ih (hsupplied.serve query) hrest

theorem Supplied.activeField_served (hsupplied : engine.Supplied gateway names)
    {queries : List String}
    (hkeeps : ∀ position ∈ engine.positions gateway queries, position.keepsField = true) :
    (engine.served gateway queries).session.activeField = engine.session.activeField := by
  induction queries generalizing engine with
  | nil => rfl
  | cons query rest ih =>
    obtain ⟨hquery, hrest⟩ := List.forall_mem_cons.mp hkeeps
    rw [← activeField_serve_of_keeps hsupplied.opened gateway hquery]
    exact ih (hsupplied.serve query) hrest

/-- A field that is recorded while the fields of the active index are not held has no type. -/
theorem Supplied.type_unknown (hsupplied : engine.Supplied gateway names) {queries : List String}
    (hheld : engine.heldFields = none)
    (hearly : Position.RecordsEarly (engine.positions gateway queries)) :
    (engine.served gateway queries).session.activeField.bind ActiveField.type = none := by
  obtain ⟨before, after, hpositions, hbefore, hafter⟩ := hearly
  induction queries generalizing engine before with
  | nil => exact absurd hpositions (by simp [positions])
  | cons query rest ih =>
    have hnext := hsupplied.serve query
    cases before with
    | nil =>
      obtain ⟨hposition, rfl⟩ := List.cons.inj hpositions
      have hrecorded := activeField_serve_whereEquals hsupplied.opened gateway hposition
      have hkept := hnext.activeField_served hafter
      change ((engine.serve gateway query).engine.served gateway rest).session.activeField.bind
        ActiveField.type = none
      rw [hkept, hrecorded, hheld]
      cases (Tokens.ofQuery query).previous <;> rfl
    | cons position earlier =>
      obtain ⟨hposition, hrest⟩ := List.cons.inj hpositions
      obtain ⟨hfirst, hearlier⟩ := List.forall_mem_cons.mp hbefore
      refine ih hnext ?_ earlier hrest hearlier
      rw [heldFields_serve_of_not_renews hsupplied.opened (hposition ▸ hfirst), hheld]

end Engine
end PipedQuery
