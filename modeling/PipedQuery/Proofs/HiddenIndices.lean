import PipedQuery.Proofs.Course
import PipedQuery.Proofs.Extension
import PipedQuery.Proofs.Serving

/-!
Hidden indices. The names that the settings hide are left out at one place, when an index list is
filed. They show nowhere else either, because the session can only point into that list:
`Engine.Discreet` says that no listed name is hidden and that the active index is listed. A reading
or a selection makes an index active only if it is known, which is to say listed, an answer never
takes a name off the list, and a reset forgets both, so every turn keeps it (`lasting_discreet`).
What is asked for is about the active index and what is suggested as an index is listed, which is
all that anyone sees (`hidden_stays_hidden`).
-/

set_option autoImplicit false
set_option relaxedAutoImplicit false

namespace PipedQuery

namespace Settings

variable {settings : Settings} {name : String}

/-- System indices are hidden, and the name begins like one. -/
def Hides (settings : Settings) (name : String) : Prop :=
  settings.hideSystemIndices = true ∧ settings.systemLead.toList <+: name.toList

instance (settings : Settings) (name : String) : Decidable (settings.Hides name) :=
  inferInstanceAs (Decidable (_ ∧ _))

theorem shows_iff : settings.shows name = true ↔ ¬ settings.Hides name := by
  rw [shows, Hides, ← Text.beginsWith_iff, Bool.not_eq_true', Bool.and_eq_false_iff, not_and_or,
    Bool.not_eq_true, Bool.not_eq_true]

end Settings

namespace Position

/-- The name of an index is expected, alone or behind its source keyword. -/
def asksIndex : Position → Bool
  | indexName | inlineIndexName _ => true
  | _ => false

end Position

namespace Suggestion

/-- Where an index is expected, every suggestion names a listed one. -/
theorem exists_index {position : Position} {tokens : Tokens} {session : Session}
    {catalog : Catalog} {sample : List SampledValue} {suggestion : Suggestion}
    (hindex : position.asksIndex = true)
    (hmem : suggestion ∈ all position tokens session catalog sample) :
    ∃ name ∈ catalog.indices, suggestion.item = some name := by
  obtain ⟨candidate, hcandidate, hsuggestion⟩ := List.mem_filterMap.mp hmem
  rw [Candidate.suggestion_item hsuggestion]
  cases position with
  | indexName | inlineIndexName keyword =>
    obtain ⟨name, hname, rfl⟩ := List.mem_map.mp hcandidate
    exact ⟨name, hname, rfl⟩
  | _ => cases hindex

end Suggestion

/-- Where an index is expected, no suggestion of the batch names a hidden one. -/
def Batch.Discreet (settings : Settings) (batch : Batch) : Prop :=
  batch.position.asksIndex = true → ∀ suggestion ∈ batch.items, ∀ name,
    suggestion.item = some name → ¬ settings.Hides name

namespace Engine

variable {engine : Engine}

/-- The index list holds no hidden name, and what is active or known is in the list. -/
structure Discreet (engine : Engine) : Prop where
  agrees : engine.catalog.Agrees
  listed : ∀ name ∈ engine.catalog.indices, ¬ engine.settings.Hides name
  active : ∀ index, engine.session.activeIndex = some index → index ∈ engine.catalog.indices

/-- Where nothing is listed and nothing active, nothing shows. -/
theorem discreet_of_none (hcatalog : engine.catalog = {})
    (hsession : engine.session.activeIndex = none) : engine.Discreet where
  agrees := by
    rw [hcatalog]
    exact Catalog.agrees_empty
  listed := by
    intro name hname
    rw [hcatalog] at hname
    cases hname
  active := by
    intro index hactive
    rw [hsession] at hactive
    cases hactive

theorem Discreet.of_same {other : Engine} (hdiscreet : engine.Discreet)
    (hsettings : other.settings = engine.settings) (hagrees : other.catalog.Agrees)
    (hloaded : other.catalog.loaded = engine.catalog.loaded)
    (hactive : ∀ index, other.session.activeIndex = some index →
      engine.session.activeIndex = some index ∨ engine.catalog.knows index = true) :
    other.Discreet := by
  have hindices : other.catalog.indices = engine.catalog.indices := by
    simp only [Catalog.indices, hloaded]
  refine ⟨hagrees, ?_, ?_⟩
  · rw [hindices, hsettings]
    exact hdiscreet.listed
  · intro index hother
    rw [hindices]
    rcases hactive index hother with hbefore | hknown
    · exact hdiscreet.active index hbefore
    · exact (hdiscreet.agrees index).mp hknown

/-- Typing the name of an index makes it active only if it is listed. -/
theorem Discreet.prepare (hdiscreet : engine.Discreet) (text : String) :
    (engine.prepare text).engine.Discreet := by
  have hcatalog := engine.prepare_catalog text
  refine hdiscreet.of_same (engine.prepare_settings text) ?_ (by rw [hcatalog]) ?_
  · rw [hcatalog]
    exact hdiscreet.agrees
  intro index hactive
  cases hclosed : engine.closed with
  | true => exact Or.inl (by simpa [Engine.prepare, hclosed] using hactive)
  | false =>
    rw [prepare_of_open hclosed] at hactive
    exact Reading.activeIndex_cases hactive

theorem Discreet.select (hdiscreet : engine.Discreet) (suggestion : Suggestion) :
    (engine.select suggestion).engine.Discreet := by
  rcases engine.select_cases suggestion with ⟨hsame, -⟩ | ⟨index, hknown, htaken, -⟩
  · rw [hsame]
    exact hdiscreet
  · rw [htaken]
    refine hdiscreet.of_same rfl hdiscreet.agrees rfl ?_
    intro other hother
    obtain rfl : index = other := Option.some.inj hother
    exact Or.inr hknown

theorem Discreet.holding (hdiscreet : engine.Discreet) (request : Request) :
    (engine.holding request).Discreet :=
  hdiscreet.of_same rfl (hdiscreet.agrees.of_same rfl rfl) rfl fun _ hactive ↦ Or.inl hactive

theorem Discreet.absorb (hdiscreet : engine.Discreet) (request : Request)
    (answer : Except Fault Fetched) : (engine.absorb request answer).1.Discreet := by
  have hagrees := agrees_absorb hdiscreet.agrees request answer
  rcases engine.absorb_loaded request answer with hsame | ⟨listed, hnone, hfirst⟩
  · refine hdiscreet.of_same (engine.absorb_settings request answer) hagrees hsame ?_
    intro index hactive
    rw [absorb_session] at hactive
    exact Or.inl hactive
  · refine ⟨hagrees, ?_, ?_⟩
    · intro name hname
      rw [Catalog.indices, hfirst, Option.getD_some, List.mem_filter] at hname
      rw [absorb_settings]
      exact Settings.shows_iff.mp hname.2
    · intro index hactive
      -- Nothing was listed before, so nothing was active.
      rw [absorb_session] at hactive
      have himpossible := hdiscreet.active index hactive
      rw [Catalog.indices, hnone] at himpossible
      cases himpossible

theorem Discreet.close (hdiscreet : engine.Discreet) : engine.close.Discreet :=
  ⟨hdiscreet.agrees, hdiscreet.listed, hdiscreet.active⟩

/-! ### What shows -/

theorem Discreet.not_hides (hdiscreet : engine.Discreet) {index : String}
    (hactive : engine.session.activeIndex = some index) : ¬ engine.settings.Hides index :=
  hdiscreet.listed index (hdiscreet.active index hactive)

theorem Discreet.all (hdiscreet : engine.Discreet) {position : Position} {tokens : Tokens}
    {session : Session} {sample : List SampledValue} {suggestion : Suggestion} {name : String}
    (hindex : position.asksIndex = true)
    (hmem : suggestion ∈ Suggestion.all position tokens session engine.catalog sample)
    (hname : suggestion.item = some name) : ¬ engine.settings.Hides name := by
  obtain ⟨listed, hlisted, hitem⟩ := Suggestion.exists_index hindex hmem
  obtain rfl : listed = name := Option.some.inj (hitem.symm.trans hname)
  exact hdiscreet.listed listed hlisted

theorem Discreet.prepare_batch (hdiscreet : engine.Discreet) (text : String) :
    (engine.prepare text).batch.Discreet engine.settings := by
  intro hindex suggestion hmem name hname
  cases hclosed : engine.closed with
  | true => simp [Engine.prepare, hclosed] at hmem
  | false =>
    rw [prepare_of_open hclosed] at hindex hmem
    exact hdiscreet.all hindex hmem hname

/-- A batch is made again from the list as it is then. -/
theorem Discreet.complete (hdiscreet : engine.Discreet) {batch : Batch}
    (hbatch : batch.Discreet engine.settings) (sample : List SampledValue) :
    (engine.complete batch sample).Discreet engine.settings := by
  unfold Engine.complete
  split_ifs
  · intro hindex suggestion hmem name hname
    exact hdiscreet.all hindex hmem hname
  · exact hbatch

theorem Discreet.prepare_requests (hdiscreet : engine.Discreet) {text index : String}
    {request : Request} (hrequest : request ∈ (engine.prepare text).requests)
    (hindex : request.index = some index) : ¬ engine.settings.Hides index := by
  have hactive := (prepare_mem_requests hrequest).2 index hindex
  have hhidden := (hdiscreet.prepare text).not_hides hactive
  rwa [prepare_settings] at hhidden

theorem Discreet.select_requests (hdiscreet : engine.Discreet) {suggestion : Suggestion}
    {index : String} {request : Request}
    (hrequest : request ∈ (engine.select suggestion).requests)
    (hindex : request.index = some index) : ¬ engine.settings.Hides index := by
  rcases engine.select_cases suggestion with ⟨-, hnone⟩ | ⟨taken, hknown, -, hrequests⟩
  · rw [hnone] at hrequest
    cases hrequest
  · rw [hrequests, Reading.fieldsRequest] at hrequest
    split_ifs at hrequest
    · obtain rfl := List.mem_singleton.mp hrequest
      obtain rfl : taken = index := Option.some.inj hindex
      exact hdiscreet.listed taken ((hdiscreet.agrees taken).mp hknown)
    · cases hrequest

/-- No hidden index is active at the engine, and whatever is typed or taken next, none is asked
about or suggested as an index. -/
structure Conceals (settings : Settings) (engine : Engine) : Prop where
  active : ∀ index, engine.session.activeIndex = some index →
    index ∈ engine.catalog.indices ∧ ¬ settings.Hides index
  reads : ∀ text, ∀ request ∈ (engine.prepare text).requests, ∀ index,
    request.index = some index → ¬ settings.Hides index
  takes : ∀ suggestion, ∀ request ∈ (engine.select suggestion).requests, ∀ index,
    request.index = some index → ¬ settings.Hides index
  offers : ∀ text, (engine.prepare text).batch.Discreet settings

theorem Discreet.conceals (hdiscreet : engine.Discreet) : engine.Conceals engine.settings where
  active := fun index hactive ↦ ⟨hdiscreet.active index hactive, hdiscreet.not_hides hactive⟩
  reads := fun _ _ hrequest _ hindex ↦ hdiscreet.prepare_requests hrequest hindex
  takes := fun _ _ hrequest _ hindex ↦ hdiscreet.select_requests hrequest hindex
  offers := hdiscreet.prepare_batch

end Engine

/-- The batch that an errand is to finish is discreet as it was prepared. -/
def Purpose.Discreet (settings : Settings) : Purpose → Prop
  | .batch prepared => prepared.Discreet settings
  | _ => True

namespace Desk

variable {desk : Desk}

theorem lasting_discreet : Lasting Engine.Discreet where
  prepare := fun text hdiscreet ↦ hdiscreet.prepare text
  select := fun suggestion hdiscreet ↦ hdiscreet.select suggestion
  holding := fun request hdiscreet ↦ hdiscreet.holding request
  absorb := fun request answer hdiscreet ↦ hdiscreet.absorb request answer
  close := Engine.Discreet.close
  reset := fun _ ↦ Engine.discreet_of_none rfl rfl

/-- The engine is discreet, and so are the batches that wait to be finished. -/
structure Discreet (desk : Desk) : Prop where
  engine : desk.engine.Discreet
  waiting : ∀ errand ∈ desk.waiting, errand.purpose.Discreet desk.engine.settings

/-- The desk stays discreet, and so is the batch that is handed over. -/
def StaysDiscreet (settings : Settings) (outcome : Desk × Option Finding) : Prop :=
  outcome.1.Discreet ∧ ∀ batch, outcome.2 = some (.batch batch) → batch.Discreet settings

theorem Discreet.stays (hdiscreet : desk.Discreet) (settings : Settings) :
    StaysDiscreet settings (desk, none) := by
  refine ⟨hdiscreet, ?_⟩
  intro batch hfinding
  cases hfinding

theorem Discreet.settle (hdiscreet : desk.Discreet) (event : Event) :
    (desk.settle event).Discreet where
  engine := lasting_discreet.settle hdiscreet.engine event
  waiting := by
    rw [settle_settings]
    intro errand herrand
    exact hdiscreet.waiting errand (desk.settle_waiting_subset event herrand)

theorem Discreet.carryOn {settings : Settings} {purpose : Purpose} (hdiscreet : desk.Discreet)
    (hsettings : desk.engine.settings = settings) (hpurpose : purpose.Discreet settings)
    (ticket : Option Nat) (queue : List Request) (sample : List SampledValue) :
    StaysDiscreet settings (desk.carryOn ticket purpose queue sample) := by
  subst hsettings
  rcases desk.carryOn_cases ticket purpose queue sample with
    hcarry | ⟨request, rest, -, -, hcarry⟩
  · rw [hcarry]
    refine ⟨hdiscreet, ?_⟩
    intro batch hbatch
    cases purpose with
    | batch prepared =>
      obtain rfl : desk.engine.complete prepared sample = batch := by
        simpa [Purpose.finding] using hbatch
      exact hdiscreet.engine.complete hpurpose sample
    | sample => simp [Purpose.finding] at hbatch
    | background => simp [Purpose.finding] at hbatch
  · rw [hcarry]
    refine Discreet.stays ⟨hdiscreet.engine.holding request, ?_⟩ _
    intro errand herrand
    rw [enlist_waiting, List.mem_append, List.mem_singleton] at herrand
    rcases herrand with hbefore | rfl
    · exact hdiscreet.waiting errand hbefore
    · exact hpurpose

theorem Discreet.step (hdiscreet : desk.Discreet) (event : Event) :
    StaysDiscreet desk.engine.settings (desk.step event) := by
  have hsettled := hdiscreet.settle event
  have hsettings := desk.settle_settings event
  cases event with
  | query text =>
    have hbatch := hdiscreet.engine.prepare_batch text
    simp only [Desk.step, ask]
    split_ifs
    · refine ⟨hsettled, ?_⟩
      intro batch hfinding
      obtain rfl : (desk.engine.prepare text).batch = batch := by simpa using hfinding
      exact hbatch
    · have hpurpose : (Purpose.batch (desk.engine.prepare text).batch).Discreet
          desk.engine.settings := hbatch
      exact hsettled.carryOn hsettings hpurpose _ _ _
  | prepare text =>
    refine ⟨hsettled, ?_⟩
    intro batch hfinding
    obtain rfl : (desk.engine.prepare text).batch = batch := by simpa [Desk.step] using hfinding
    exact hdiscreet.engine.prepare_batch text
  | resolve requests =>
    have hpurpose : Purpose.sample.Discreet desk.engine.settings := trivial
    exact hsettled.carryOn hsettings hpurpose _ _ _
  | spawn requests | take suggestion =>
    have hpurpose : Purpose.background.Discreet desk.engine.settings := trivial
    exact hsettled.carryOn hsettings hpurpose _ _ _
  | answer place gateway =>
    simp only [Desk.settle] at hsettled hsettings
    simp only [Desk.step, answer]
    cases hplace : desk.waiting[place]? with
    | none => exact hdiscreet.stays _
    | some errand =>
      rw [hplace] at hsettled hsettings
      have hpurpose := hdiscreet.waiting errand (List.mem_of_getElem? hplace)
      exact hsettled.carryOn hsettings hpurpose _ _ _
  | select suggestion | reset | close | drop =>
    exact hsettled.stays _

theorem discreet_run (settings : Settings) (events : List Event) :
    ((opened settings).run events).Discreet := by
  induction events using List.reverseRecOn with
  | nil => exact ⟨Engine.discreet_of_none rfl rfl, by simp [run, opened]⟩
  | append_singleton events event ih =>
    rw [run_concat]
    exact (ih.step event).1

/-- At no point of any run does a hidden index show, be its name typed, taken or reported: none is
active, none is asked about by a reading or a selection, and none is suggested where an index is
expected. That holds of a batch as it is prepared, as it is completed at any later point, and as it
is handed over. The active index is always one of the list. -/
theorem hidden_stays_hidden (settings : Settings) :
    (∀ course, ((opened settings).turns course).engine.Conceals settings) ∧
      (∀ events, ((opened settings).run events).engine.Conceals settings) ∧
      (∀ course later text sample,
        (((opened settings).turns (course ++ later)).engine.complete
          (((opened settings).turns course).engine.prepare text).batch sample).Discreet
            settings) ∧
      ∀ events event batch, (((opened settings).run events).step event).2 = some (.batch batch) →
        batch.Discreet settings := by
  have hturns : ∀ course, ((opened settings).turns course).engine.Discreet :=
    lasting_discreet.turns (Engine.discreet_of_none rfl rfl)
  have hsettings : ∀ course, ((opened settings).turns course).engine.settings = settings :=
    (opened settings).turns_settings
  refine ⟨?_, ?_, ?_, ?_⟩
  · intro course
    have hconceals := (hturns course).conceals
    rwa [hsettings] at hconceals
  · intro events
    have hconceals := (discreet_run settings events).engine.conceals
    rwa [run_settings] at hconceals
  · intro course later text sample
    have hprepared := (hturns course).prepare_batch text
    rw [hsettings course, ← hsettings (course ++ later)] at hprepared
    have hcompleted := (hturns (course ++ later)).complete hprepared sample
    rwa [hsettings] at hcompleted
  · intro events event batch hfinding
    have hstep := ((discreet_run settings events).step event).2 batch hfinding
    rwa [run_settings] at hstep

/-- The index list is fetched with a hidden name in it. The visible name is typed, and then the
hidden one. -/
def typedByHand : List Event :=
  [.query "s", .answer 0 (.stocked ["logs", ".kibana"]), .query "source = logs ",
    .query "source = .kibana "]

/-- The hidden name is not taken for an index, and the list offers the visible one alone. -/
theorem hidden_stays_hidden_typed :
    ∃ desk batch, desk = (opened {}).run typedByHand ∧
      ({} : Settings).Hides ".kibana" ∧ ¬ ({} : Settings).Hides "logs" ∧
      desk.engine.session.activeIndex = some "logs" ∧ "logs" ∈ desk.engine.catalog.indices ∧
      (desk.step (.query "source = ")).2 = some (.batch batch) ∧
      batch.position = .indexName ∧ batch.items.map (·.item) = [some "logs"] ∧
      batch.Discreet {} := by
  have hactive : ((opened {}).run typedByHand).engine.session.activeIndex = some "logs" := by
    decide +kernel
  obtain ⟨-, hconceals, -, hdiscreet⟩ := hidden_stays_hidden {}
  obtain ⟨hlisted, hshown⟩ := (hconceals typedByHand).active "logs" hactive
  have hfinding : (((opened {}).run typedByHand).step (.query "source = ")).2 =
      some (.batch (((opened {}).run typedByHand).engine.prepare "source = ").batch) := by
    decide +kernel
  exact ⟨_, _, rfl, by decide +kernel, hshown, hactive, hlisted, hfinding, by decide +kernel,
    by decide +kernel, hdiscreet _ _ _ hfinding⟩

end Desk
end PipedQuery
