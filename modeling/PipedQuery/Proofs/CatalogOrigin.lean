import PipedQuery.Proofs.Provenance

/-!
Where the catalog comes from, over any number of sessions. A `Journal` is a desk with the
deliveries since the last reset: the requests that were answered, each with the backend that
answered it. Whatever happens, the index list is the visible part of one delivered listing, and
the field list is the flattened mapping that one delivered response gives for the index that was
asked for (`Delivered`). One turn keeps this, since nothing but an answer files anything and a reset
forgets both sides at once; hence every run does. Every run also keeps the two copies of the index
list in step (`lasting_agrees`), so that a name is found exactly if it is listed (`Sourced`); both
together are `catalog_sourced`. An answer that is of no use changes nothing but that its key is free
again (`settle_of_fails`).
-/

set_option autoImplicit false
set_option relaxedAutoImplicit false

namespace PipedQuery

namespace Gateway

variable {gateway : Gateway} {request : Request}

/-- The call for the request fails, or it asks for the fields of an index that the mapping does not
mention. -/
def Fails (gateway : Gateway) : Request → Prop
  | .indices => ∃ fault, gateway.indices = .error fault
  | .fields index => (∃ fault, gateway.mapping index = .error fault) ∨
      ∃ response, gateway.mapping index = .ok response ∧ response.lookup index = none
  | .values index field _ => ∃ fault, gateway.buckets index field = .error fault

theorem fetch_of_fails (hfails : gateway.Fails request) :
    ∃ fault, gateway.fetch request = .error fault := by
  cases request with
  | indices =>
    obtain ⟨fault, hfault⟩ := hfails
    exact ⟨fault, by simp [fetch, hfault, Except.map]⟩
  | fields index =>
    rcases hfails with ⟨fault, hfault⟩ | ⟨response, hresponse, hmissing⟩
    · exact ⟨fault, by simp [fetch, hfault, bind, Except.bind]⟩
    · exact ⟨.missingIndex index, by simp [fetch, hresponse, MappingResponse.fieldsOf,
        MappingResponse.fields, hmissing, bind, Except.bind]⟩
  | values index field type =>
    obtain ⟨fault, hfault⟩ := hfails
    exact ⟨fault, by simp [fetch, hfault, bind, Except.bind]⟩

end Gateway

/-- What answered a call: its request, and the backend as it was then. -/
structure Delivery where
  request : Request
  gateway : Gateway

namespace Catalog

variable {settings : Settings} {deliveries more : List Delivery} {catalog other : Catalog}

/-- All that the catalog holds was delivered, the index list at once and the field list at once. -/
structure Delivered (settings : Settings) (deliveries : List Delivery) (catalog : Catalog) :
    Prop where
  listed : ∀ names, catalog.loaded = some names → ∃ delivery ∈ deliveries, ∃ listed,
    delivery.request = .indices ∧ delivery.gateway.indices = .ok listed ∧
      names = listed.filter settings.shows
  mapped : ∀ held, catalog.resident = some held → ∃ delivery ∈ deliveries, ∃ response,
    delivery.request = .fields held.index ∧ delivery.gateway.mapping held.index = .ok response ∧
      response.fields held.index = some held.fields

/-- All that the catalog holds was delivered, and a name is found in it exactly if it is listed. -/
structure Sourced (settings : Settings) (deliveries : List Delivery) (catalog : Catalog) : Prop
    extends Delivered settings deliveries catalog where
  known : ∀ name, catalog.knows name = true ↔ name ∈ catalog.indices

theorem delivered_empty (settings : Settings) (deliveries : List Delivery) :
    Delivered settings deliveries {} where
  listed := by simp
  mapped := by simp

theorem Delivered.of_same (hdelivered : catalog.Delivered settings deliveries)
    (hloaded : other.loaded = catalog.loaded) (hresident : other.resident = catalog.resident)
    (hmore : deliveries ⊆ more) : other.Delivered settings more where
  listed := by
    intro names hnames
    obtain ⟨delivery, hdelivery, hlisted⟩ := hdelivered.listed names (hloaded ▸ hnames)
    exact ⟨delivery, hmore hdelivery, hlisted⟩
  mapped := by
    intro held hheld
    obtain ⟨delivery, hdelivery, hmapped⟩ := hdelivered.mapped held (hresident ▸ hheld)
    exact ⟨delivery, hmore hdelivery, hmapped⟩

/-- What an answer brings is filed beside what was there or in its place. -/
theorem Delivered.file {delivery : Delivery} {fetched : Fetched}
    (hdelivered : catalog.Delivered settings deliveries)
    (hfetch : delivery.gateway.fetch delivery.request = .ok fetched)
    (hloaded : other.loaded =
      catalog.loaded.or (fetched.listing.map (·.filter settings.shows)))
    (hresident : other.resident = fetched.held.or catalog.resident) :
    other.Delivered settings (delivery :: deliveries) where
  listed := by
    intro names hnames
    rw [hloaded, Option.or_eq_some_iff] at hnames
    rcases hnames with hbefore | ⟨-, hnow⟩
    · obtain ⟨earlier, hearlier, hlisted⟩ := hdelivered.listed names hbefore
      exact ⟨earlier, List.mem_cons_of_mem _ hearlier, hlisted⟩
    · obtain ⟨listed, hlisting, rfl⟩ := Option.map_eq_some_iff.mp hnow
      obtain ⟨hrequest, hanswer⟩ := Gateway.indices_of_fetch hfetch hlisting
      exact ⟨delivery, List.mem_cons_self, listed, hrequest, hanswer, rfl⟩
  mapped := by
    intro held hheld
    rw [hresident, Option.or_eq_some_iff] at hheld
    rcases hheld with hnow | ⟨-, hbefore⟩
    · obtain ⟨hrequest, response, hanswer⟩ := Gateway.mapping_of_fetch hfetch hnow
      exact ⟨delivery, List.mem_cons_self, response, hrequest, hanswer⟩
    · obtain ⟨earlier, hearlier, hmapped⟩ := hdelivered.mapped held hbefore
      exact ⟨earlier, List.mem_cons_of_mem _ hearlier, hmapped⟩

end Catalog

/-- A desk, and what answered its calls since the last reset. -/
structure Journal where
  desk : Desk
  deliveries : List Delivery := []

namespace Journal

variable {journal : Journal} {settings : Settings}

def opened (settings : Settings) : Journal :=
  { desk := .opened settings }

/-- The deliveries since the last reset, once the event has happened. -/
def noted (journal : Journal) : Event → List Delivery
  | .reset => []
  | .answer place gateway =>
    match journal.desk.waiting[place]? with
    | some errand => ⟨errand.current, gateway⟩ :: journal.deliveries
    | none => journal.deliveries
  | _ => journal.deliveries

def step (journal : Journal) (event : Event) : Journal :=
  ⟨(journal.desk.step event).1, journal.noted event⟩

def run (journal : Journal) (events : List Event) : Journal :=
  events.foldl step journal

def turn (journal : Journal) : Turn → Journal
  | .settles event => ⟨journal.desk.settle event, journal.noted event⟩
  | .claims errand => ⟨journal.desk.turn (.claims errand), journal.deliveries⟩

def turns (journal : Journal) (course : List Turn) : Journal :=
  course.foldl turn journal

theorem run_desk (journal : Journal) (events : List Event) :
    (journal.run events).desk = journal.desk.run events := by
  induction events generalizing journal with
  | nil => rfl
  | cons event events ih => exact ih (journal.step event)

theorem turns_desk (journal : Journal) (course : List Turn) :
    (journal.turns course).desk = journal.desk.turns course := by
  induction course generalizing journal with
  | nil => rfl
  | cons turn course ih =>
    have hdesk : (journal.turn turn).desk = journal.desk.turn turn := by cases turn <;> rfl
    exact (ih (journal.turn turn)).trans (by rw [hdesk]; rfl)

/-- The catalog is made of the deliveries. -/
def Honest (journal : Journal) : Prop :=
  journal.desk.engine.catalog.Delivered journal.desk.engine.settings journal.deliveries

theorem honest_opened (settings : Settings) : (opened settings).Honest :=
  Catalog.delivered_empty settings []

theorem subset_noted {event : Event} (hcontinues : event ≠ .reset) :
    journal.deliveries ⊆ journal.noted event := by
  cases event with
  | reset => exact absurd rfl hcontinues
  | answer place gateway =>
    simp only [noted]
    split
    · exact List.subset_cons_self _ _
    · exact List.Subset.refl _
  | _ => exact List.Subset.refl _

theorem Honest.settle (hhonest : journal.Honest) (event : Event) :
    Honest ⟨journal.desk.settle event, journal.noted event⟩ := by
  unfold Honest
  rw [Desk.settle_settings]
  by_cases hcontinues : event.continues = true
  · rcases @Desk.turn_files journal.desk (.settles event) hcontinues with
      ⟨hloaded, hresident⟩ | ⟨request, fetched, hanswers, hloaded, hresident⟩
    · refine hhonest.of_same hloaded hresident (subset_noted ?_)
      rintro rfl
      cases hcontinues
    · obtain ⟨place, gateway, errand, hevent, -, hplace, rfl, hfetch⟩ := hanswers
      cases hevent
      have hnoted : journal.noted (.answer place gateway) =
          ⟨errand.current, gateway⟩ :: journal.deliveries := by
        simp only [noted, hplace]
      rw [hnoted]
      exact Catalog.Delivered.file hhonest hfetch hloaded hresident
  · cases event with
    | reset => exact Catalog.delivered_empty _ _
    | drop => exact hhonest
    | _ => exact absurd rfl hcontinues

/-- A call that is made files nothing. -/
theorem Honest.enlist (hhonest : journal.Honest) (errand : Errand) :
    Honest ⟨journal.desk.enlist errand, journal.deliveries⟩ :=
  Catalog.Delivered.of_same hhonest rfl rfl (List.Subset.refl _)

theorem Honest.step (hhonest : journal.Honest) (event : Event) : (journal.step event).Honest := by
  have hsettled := hhonest.settle event
  unfold Journal.step
  rcases journal.desk.step_cases event with hstep | ⟨errand, -, -, hstep⟩
  · rw [hstep]
    exact hsettled
  · rw [hstep]
    exact hsettled.enlist errand

theorem Honest.turn (hhonest : journal.Honest) (turn : Turn) : (journal.turn turn).Honest := by
  cases turn with
  | settles event => exact hhonest.settle event
  | claims errand =>
    simp only [Journal.turn]
    rcases journal.desk.turn_claims_cases errand with hturn | ⟨-, hturn⟩
    · rw [hturn]
      exact hhonest
    · rw [hturn]
      exact hhonest.enlist errand

theorem Honest.run (hhonest : journal.Honest) (events : List Event) :
    (journal.run events).Honest := by
  induction events generalizing journal with
  | nil => exact hhonest
  | cons event events ih => exact ih (hhonest.step event)

theorem Honest.turns (hhonest : journal.Honest) (course : List Turn) :
    (journal.turns course).Honest := by
  induction course generalizing journal with
  | nil => exact hhonest
  | cons turn course ih => exact ih (hhonest.turn turn)

end Journal

namespace Desk

/-- While someone holds the engine, an answer that is of no use frees its own key and changes
nothing else. -/
theorem settle_of_fails {desk : Desk} {place : Nat} {errand : Errand} {gateway : Gateway}
    (halive : desk.alive = true) (hplace : desk.waiting[place]? = some errand)
    (hfails : gateway.Fails errand.current) :
    (desk.settle (.answer place gateway)).engine = { desk.engine with
      catalog := { desk.engine.catalog with
        inFlight := desk.engine.catalog.inFlight.filter fun key ↦
          errand.current.key ≠ some key } } := by
  obtain ⟨fault, hfault⟩ := Gateway.fetch_of_fails hfails
  simp only [settle, hplace, receive, if_pos halive, hfault]
  rw [Engine.absorb_error, Engine.release_eq]

/-- In every state of every run, whatever is reset or closed in it and whatever the backend
answers, the catalog is made of the deliveries since the last reset: the index list is what the
settings show of one listing, the names that are looked up are those of the list, and the field list
is the mapping of its index in one response. An answer that fails, or that lacks the index it was
asked for, frees its key and leaves all else. -/
theorem catalog_sourced (settings : Settings) :
    (∀ course, ((opened settings).turns course).engine.catalog.Sourced settings
        ((Journal.opened settings).turns course).deliveries) ∧
      (∀ events, ((opened settings).run events).engine.catalog.Sourced settings
        ((Journal.opened settings).run events).deliveries) ∧
      ∀ (desk : Desk) (place : Nat) (errand : Errand) (gateway : Gateway), desk.alive = true →
        desk.waiting[place]? = some errand → gateway.Fails errand.current →
          (desk.settle (.answer place gateway)).engine = { desk.engine with
            catalog := { desk.engine.catalog with
              inFlight := desk.engine.catalog.inFlight.filter fun key ↦
                errand.current.key ≠ some key } } := by
  have hstart := Journal.honest_opened settings
  have hempty : (opened settings).engine.catalog.Agrees := Catalog.agrees_empty
  refine ⟨?_, ?_, ?_⟩
  · intro course
    have hdelivered := hstart.turns course
    rw [Journal.Honest, Journal.turns_desk, turns_settings] at hdelivered
    exact ⟨hdelivered, lasting_agrees.turns hempty course⟩
  · intro events
    have hdelivered := hstart.run events
    rw [Journal.Honest, Journal.run_desk, run_settings] at hdelivered
    exact ⟨hdelivered, lasting_agrees.run hempty events⟩
  · intro desk place errand gateway halive hplace hfails
    exact settle_of_fails halive hplace hfails

/-- The index list is fetched, forgotten with a reset, and fetched again, the first time in vain.
Then the fields of `logs` arrive, and those of `jobs` are asked for. -/
def refetched : List Event :=
  [.query "s", .answer 0 (.stocked ["old"]), .reset, .query "s", .answer 0 .silent, .query "s",
    .answer 0 (.stocked ["logs", ".kibana", "logs"]), .query "source = logs ",
    .answer 0 (.stocked []), .resolve [.fields "jobs"]]

/-- The list is the visible part of the last listing, with its repetition, and `old` is no longer
known. A mapping without `jobs` then only frees the key of the call. -/
theorem catalog_sourced_refetched :
    ∃ desk, desk = (opened {}).run refetched ∧
      desk.engine.catalog.loaded = some ["logs", "logs"] ∧
      desk.engine.catalog.known = ["logs"] ∧
      (∀ name, desk.engine.catalog.knows name = true ↔ name ∈ ["logs", "logs"]) ∧
      (∃ delivery ∈ ((Journal.opened {}).run refetched).deliveries, ∃ listed,
        delivery.request = .indices ∧ delivery.gateway.indices = .ok listed ∧
          ["logs", "logs"] = listed.filter ({} : Settings).shows) ∧
      desk.engine.catalog.inFlight = [.fields "jobs"] ∧
      (desk.settle (.answer 0 { Gateway.silent with mapping := fun _ ↦ .ok [] })).engine =
        { desk.engine with catalog := { desk.engine.catalog with inFlight := [] } } := by
  have hloaded : ((opened {}).run refetched).engine.catalog.loaded = some ["logs", "logs"] := by
    decide +kernel
  have hflight : ((opened {}).run refetched).engine.catalog.inFlight = [.fields "jobs"] := by
    decide +kernel
  obtain ⟨-, hsourced, hfails⟩ := catalog_sourced {}
  refine ⟨_, rfl, hloaded, by decide +kernel, ?_, (hsourced refetched).listed _ hloaded, hflight,
    ?_⟩
  · intro name
    rw [(hsourced refetched).known name, Catalog.indices, hloaded]
    rfl
  · rw [hfails _ 0 ⟨none, .sample, .fields "jobs", [], []⟩ _ (by decide +kernel)
      (by decide +kernel) (Or.inr ⟨[], rfl, rfl⟩), hflight]
    rfl

end Desk
end PipedQuery
