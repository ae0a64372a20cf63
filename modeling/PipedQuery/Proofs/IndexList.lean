import PipedQuery.Proofs.Serving
import PipedQuery.Proofs.SingleFlight

/-!
The index list is loaded once. Two guards together see to it. A query asks for the list only if it
is missing and no call for it is under way, and it makes its call before anything else happens; a
call that waits keeps its key, so no other is made beside it. A query or a selection asks for one
thing at most, so an errand has nothing left to call for after its answer (`Brief`), and the two
guards look at the same state (`needs_of_calls`). A call that fails leaves the list missing, and
the next query that wants it calls again (`calls_of_missing`); an answer that brings the list ends
this for good (`loaded_once`).
-/

set_option autoImplicit false
set_option relaxedAutoImplicit false

namespace PipedQuery

namespace Event

/-- A query, a selection, the closing of the engine or an answer. The session goes on, and the host
makes no requests of its own. -/
def serves : Event → Bool
  | .query _ | .prepare _ | .select _ | .take _ | .close | .answer _ _ => true
  | .resolve _ | .spawn _ | .reset | .drop => false

theorem continues_of_serves {event : Event} (hserves : event.serves = true) :
    event.continues = true := by
  cases event <;> simp_all [serves, continues]

end Event

namespace Position

/-- The index list is wanted: an index is expected, or the first command, and the settings have
the list fetched in advance. -/
def wantsIndices (settings : Settings) : Position → Bool
  | firstCommand => settings.prefetchIndices
  | indexName | inlineIndexName _ => true
  | _ => false

theorem requestsAt_of_wantsIndices {settings : Settings} {position : Position}
    (hwants : position.wantsIndices settings = true) (catalog : Catalog) (session : Session) :
    Reading.requestsAt settings catalog session position = Reading.indicesRequest catalog := by
  cases position with
  | firstCommand => exact if_pos hwants
  | indexName | inlineIndexName => rfl
  | _ => cases hwants

end Position

namespace Desk

variable {desk : Desk} {event : Event} {request : Request}

/-- What a query or a selection asks for. -/
def asked (desk : Desk) : Event → List Request
  | .query text => (desk.engine.prepare text).requests
  | .take suggestion => (desk.engine.select suggestion).requests
  | _ => []

/-- In the step an errand calls for what is requested. -/
def Calls (desk : Desk) (event : Event) (request : Request) : Prop :=
  ∃ errand, errand.current = request ∧
    (desk.step event).1.waiting = (desk.settle event).waiting ++ [errand]

/-- The step changes the index list. -/
def Stores (desk : Desk) (event : Event) : Prop :=
  (desk.step event).1.engine.catalog.loaded ≠ desk.engine.catalog.loaded

instance (desk : Desk) (event : Event) : Decidable (desk.Stores event) :=
  inferInstanceAs (Decidable (_ ≠ _))

/-- No errand that waits has anything left to call for after its answer. -/
def Brief (desk : Desk) : Prop :=
  ∀ errand ∈ desk.waiting, errand.rest = []

/-! ### Calls -/

theorem length_asked (desk : Desk) (event : Event) : (desk.asked event).length ≤ 1 := by
  cases event with
  | query text => exact desk.engine.prepare_requests_length text
  | take suggestion =>
    simp only [asked]
    rcases desk.engine.select_cases suggestion with ⟨-, hnone⟩ | ⟨index, -, -, hrequests⟩
    · simp [hnone]
    · rw [hrequests]
      exact Reading.length_fieldsRequest _ index
  | _ => exact Nat.zero_le 1

/-- What is asked for is missing when it is asked for. -/
theorem needs_of_mem_asked (hrequest : request ∈ desk.asked event) :
    (desk.settle event).engine.catalog.needs request = true := by
  cases event with
  | query text =>
    simp only [settle, Engine.prepare_catalog]
    exact (Engine.prepare_mem_requests hrequest).1
  | take suggestion =>
    simp only [asked] at hrequest
    rcases desk.engine.select_cases suggestion with ⟨-, hnone⟩ | ⟨index, -, htaken, hrequests⟩
    · rw [hnone] at hrequest
      cases hrequest
    · simp only [settle, htaken]
      rw [hrequests, Reading.fieldsRequest] at hrequest
      split_ifs at hrequest with hneeds
      · obtain rfl := List.mem_singleton.mp hrequest
        exact hneeds
      · cases hrequest
  | _ => cases hrequest

/-- With one request to make an errand makes its call at once, or it ends. -/
theorem carryOn_brief {queue : List Request} (hqueue : queue.length ≤ 1) (desk : Desk)
    (ticket : Option Nat) (purpose : Purpose) (sample : List SampledValue) :
    (desk.carryOn ticket purpose queue sample).1 = desk ∨
      ∃ request ∈ queue, desk.engine.Frees request ∧
        (desk.carryOn ticket purpose queue sample).1 =
          desk.enlist ⟨ticket, purpose, request, [], sample⟩ := by
  cases queue with
  | nil => exact Or.inl rfl
  | cons request rest =>
    obtain rfl : rest = [] := List.eq_nil_of_length_eq_zero (by simpa using hqueue)
    cases hclaim : desk.engine.claim request with
    | granted claimed =>
      obtain ⟨-, hfree, rfl⟩ := Engine.claim_eq_granted_iff.mp hclaim
      refine Or.inr ⟨request, List.mem_singleton_self request, hfree, ?_⟩
      simp only [carryOn, Engine.proceed, hclaim]
      rfl
    | busy => exact Or.inl (by simp [carryOn, Engine.proceed, hclaim])
    | gone => exact Or.inl (by simp [carryOn, Engine.proceed, hclaim])

/-- What a step can do while nothing is left to call for: it settles, and then a query or a
selection may call for the one thing that it asks for. -/
theorem step_brief_cases (hbrief : desk.Brief) (hserves : event.serves = true) :
    (desk.step event).1 = desk.settle event ∨
      ∃ errand, errand.rest = [] ∧ errand.current ∈ desk.asked event ∧
        (desk.settle event).engine.Frees errand.current ∧
        (desk.step event).1 = (desk.settle event).enlist errand := by
  have hasked := desk.length_asked event
  cases event with
  | query text =>
    simp only [step, ask]
    split_ifs
    · exact Or.inl rfl
    · rcases carryOn_brief hasked (desk.settle (.query text)) none
        (.batch (desk.engine.prepare text).batch) [] with hcarry | ⟨request, hmem, hfree, hcarry⟩
      · exact Or.inl hcarry
      · exact Or.inr ⟨_, rfl, hmem, hfree, hcarry⟩
  | take suggestion =>
    rcases carryOn_brief hasked (desk.settle (.take suggestion)) none .background [] with
      hcarry | ⟨request, hmem, hfree, hcarry⟩
    · exact Or.inl hcarry
    · exact Or.inr ⟨_, rfl, hmem, hfree, hcarry⟩
  | answer place gateway =>
    refine Or.inl ?_
    simp only [step, answer, settle]
    cases hplace : desk.waiting[place]? with
    | none => rfl
    | some errand =>
      have hrest := hbrief errand (List.mem_of_getElem? hplace)
      have hqueue : (desk.receive place errand gateway).2.2 = [] := by
        unfold receive
        split_ifs
        · exact hrest
        · rfl
      simp only [hqueue, carryOn, Engine.proceed]
  | prepare text | select suggestion | close => exact Or.inl rfl
  | resolve requests | spawn requests | reset | drop => cases hserves

theorem Brief.step (hbrief : desk.Brief) (hserves : event.serves = true) :
    (desk.step event).1.Brief := by
  have hsettled : (desk.settle event).Brief := fun errand herrand ↦
    hbrief errand (desk.settle_waiting_subset event herrand)
  rcases step_brief_cases hbrief hserves with hstep | ⟨errand, hrest, -, -, hstep⟩
  · rw [hstep]
    exact hsettled
  · rw [hstep]
    intro other hother
    rw [enlist_waiting, List.mem_append, List.mem_singleton] at hother
    rcases hother with hbefore | rfl
    · exact hsettled other hbefore
    · exact hrest

/-- A call is made for what is missing at that moment. -/
theorem needs_of_calls (hbrief : desk.Brief) (hserves : event.serves = true)
    (hcalls : desk.Calls event request) :
    (desk.settle event).engine.catalog.needs request = true := by
  obtain ⟨errand, rfl, hwaiting⟩ := hcalls
  rcases step_brief_cases hbrief hserves with hstep | ⟨other, -, hasked, -, hstep⟩
  · rw [hstep] at hwaiting
    simp at hwaiting
  · rw [hstep, enlist_waiting] at hwaiting
    obtain rfl : other = errand := by simpa using hwaiting
    exact needs_of_mem_asked hasked

/-! ### The list -/

theorem step_loaded (desk : Desk) (event : Event) :
    (desk.step event).1.engine.catalog.loaded =
      (desk.turn (.settles event)).engine.catalog.loaded := by
  rcases desk.step_cases event with hstep | ⟨errand, -, -, hstep⟩
  · rw [hstep]
    rfl
  · rw [hstep, enlist_engine, Engine.holding_loaded]
    rfl

/-- The list stays as it was loaded, whatever an answer brings. -/
theorem step_loaded_of_some {names : List String} (hcontinues : event.continues = true)
    (hloaded : desk.engine.catalog.loaded = some names) :
    (desk.step event).1.engine.catalog.loaded = some names := by
  rw [step_loaded]
  rcases @turn_files desk (.settles event) hcontinues with
    ⟨hsame, -⟩ | ⟨request, fetched, -, hfiled, -⟩
  · exact hsame.trans hloaded
  · rw [hfiled, hloaded, Option.some_or]

theorem run_loaded_of_some {names : List String} {events : List Event}
    (hcontinues : ∀ event ∈ events, event.continues = true)
    (hloaded : desk.engine.catalog.loaded = some names) :
    (desk.run events).engine.catalog.loaded = some names := by
  induction events generalizing desk with
  | nil => exact hloaded
  | cons event events ih =>
    exact ih (fun other hother ↦ hcontinues other (List.mem_cons_of_mem _ hother))
      (step_loaded_of_some (hcontinues event List.mem_cons_self) hloaded)

/-- Only an answer to a call for the list stores one. -/
theorem answers_of_stores (hcontinues : event.continues = true) (hstores : desk.Stores event) :
    ∃ listed, desk.Answers 0 (.settles event) .indices (.indices listed) ∧
      (desk.step event).1.engine.catalog.loaded =
        some (listed.filter desk.engine.settings.shows) := by
  cases hnames : (desk.step event).1.engine.catalog.loaded with
  | none =>
    cases hbefore : desk.engine.catalog.loaded with
    | none => exact absurd (hnames.trans hbefore.symm) hstores
    | some names => simp [step_loaded_of_some hcontinues hbefore] at hnames
  | some names =>
    have hsettled := (desk.step_loaded event).symm.trans hnames
    have hspares := (desk.sparesThroughout_zero [.settles event]).1
    rcases @turn_loaded desk 0 (.settles event) names hcontinues hspares hsettled with
      hbefore | ⟨listed, rfl, hanswers⟩
    · exact absurd (hnames.trans hbefore.symm) hstores
    · exact ⟨listed, hanswers, rfl⟩

/-! ### Runs -/

theorem run_serves (settings : Settings) {events : List Event}
    (hserves : ∀ event ∈ events, event.serves = true) :
    ((opened settings).run events).Brief ∧ ((opened settings).run events).Accounted 0 := by
  induction events using List.reverseRecOn with
  | nil => exact ⟨by simp [Brief, run, opened], accounted_opened settings⟩
  | append_singleton events event ih =>
    obtain ⟨hbrief, haccounts⟩ := ih fun other hother ↦ hserves other (by simp [hother])
    have hevent := hserves event (by simp)
    rw [run_concat]
    exact ⟨hbrief.step hevent, haccounts.step (Event.continues_of_serves hevent)⟩

/-- The step may call for the index list only while it is missing and no call for it waits. -/
def CallsInNeed (desk : Desk) (event : Event) : Prop :=
  desk.Calls event .indices → (desk.settle event).engine.catalog.loaded = none ∧
    ∀ errand ∈ (desk.settle event).waiting, errand.current ≠ .indices

/-- A call that waits keeps its key, so what is missing waits for no answer. -/
theorem callsInNeed (hbrief : desk.Brief) (haccounts : desk.Accounted 0)
    (hserves : event.serves = true) : desk.CallsInNeed event := by
  intro hcalls
  obtain ⟨hfree, hnone⟩ := Catalog.needs_indices_iff.mp (needs_of_calls hbrief hserves hcalls)
  refine ⟨hnone, ?_⟩
  intro errand herrand hcurrent
  have hsettled := haccounts.settled (Event.continues_of_serves hserves)
  have hwaits : FetchKey.indices ∈ (desk.settle event).outstanding :=
    List.mem_filterMap.mpr ⟨errand, herrand, Request.key_eq_indices_iff.mpr hcurrent⟩
  exact hfree (hsettled.singleFlight.2.subset hwaits)

/-- Where the list is wanted it is called for, be it after a call that failed. -/
theorem calls_of_missing {text : String} (haccounts : desk.Accounted 0)
    (hopen : desk.engine.closed = false)
    (hwants : (desk.engine.prepare text).batch.position.wantsIndices desk.engine.settings = true)
    (hnone : desk.engine.catalog.loaded = none)
    (hwaiting : ∀ errand ∈ desk.waiting, errand.current ≠ .indices) :
    desk.Calls (.query text) .indices := by
  have hkey : FetchKey.indices ∉ desk.engine.catalog.inFlight := by
    intro hbusy
    have houtstanding := haccounts.singleFlight.2.mem_iff.mpr hbusy
    obtain ⟨errand, herrand, hcurrent⟩ := List.mem_filterMap.mp houtstanding
    exact hwaiting errand herrand (Request.key_eq_indices_iff.mp hcurrent)
  have hneeds := Catalog.needs_indices_iff.mpr ⟨hkey, hnone⟩
  have hrequests : (desk.engine.prepare text).requests = [.indices] := by
    rw [Engine.prepare_of_open hopen] at hwants ⊢
    exact (desk.engine.entailed_reading text).2.trans
      ((Position.requestsAt_of_wantsIndices hwants _ _).trans (if_pos hneeds))
  have hopen' : (desk.engine.prepare text).engine.closed = false := by
    rw [Engine.prepare_closed, hopen]
  have hfree : (desk.engine.prepare text).engine.Frees .indices := by
    intro key hindices
    obtain rfl := Option.some.inj hindices
    rwa [Engine.prepare_catalog]
  refine ⟨⟨none, .batch (desk.engine.prepare text).batch, .indices, [], []⟩, rfl, ?_⟩
  simp only [step, ask, hrequests, carryOn, Engine.proceed_cons_of_frees hopen' hfree]
  rfl

/-- Once the list is loaded, a step neither stores it nor calls for it. -/
theorem idle_of_loaded {names : List String} (hneed : desk.CallsInNeed event)
    (hcontinues : event.continues = true) (hloaded : desk.engine.catalog.loaded = some names) :
    ¬ desk.Stores event ∧ ¬ desk.Calls event .indices := by
  have hkept := step_loaded_of_some hcontinues hloaded
  refine ⟨fun hstores ↦ hstores (hkept.trans hloaded.symm), ?_⟩
  intro hcalls
  have hnone : (desk.turn (.settles event)).engine.catalog.loaded = none := (hneed hcalls).1
  rw [← step_loaded, hkept] at hnone
  cases hnone

/-- While queries are read, suggestions taken and calls answered in any order, the index list is
called for only if it is missing and no other call for it waits, and then a query that wants it
does call. What stores it is the answer to such a call, and after that no step stores it or calls
for it again. Once loaded it stays as it is. -/
theorem loaded_once (settings : Settings) {events : List Event}
    (hserves : ∀ event ∈ events, event.serves = true) :
    (∀ before event after, events = before ++ event :: after →
        ((opened settings).run before).CallsInNeed event ∧
          (((opened settings).run before).Stores event → ∃ listed,
            ((opened settings).run before).Answers 0 (.settles event) .indices
              (.indices listed))) ∧
      (∀ before event between later after,
        events = before ++ event :: between ++ later :: after →
          ((opened settings).run before).Stores event →
            ¬ ((opened settings).run (before ++ event :: between)).Stores later ∧
              ¬ ((opened settings).run (before ++ event :: between)).Calls later .indices) ∧
      (∀ before after names, events = before ++ after →
        ((opened settings).run before).engine.catalog.loaded = some names →
          ((opened settings).run events).engine.catalog.loaded = some names) ∧
      ∀ before text after desk, events = before ++ .query text :: after →
        desk = (opened settings).run before → desk.engine.closed = false →
          (desk.engine.prepare text).batch.position.wantsIndices settings = true →
            desk.engine.catalog.loaded = none →
              (∀ errand ∈ desk.waiting, errand.current ≠ .indices) →
                desk.Calls (.query text) .indices := by
  have hcontinues : ∀ event ∈ events, event.continues = true :=
    fun event hevent ↦ Event.continues_of_serves (hserves event hevent)
  have hrun : ∀ before after, events = before ++ after →
      ((opened settings).run before).Brief ∧ ((opened settings).run before).Accounted 0 := by
    rintro before after rfl
    exact run_serves settings fun event hevent ↦ hserves event (List.mem_append_left _ hevent)
  have hneed : ∀ before event after, events = before ++ event :: after →
      ((opened settings).run before).CallsInNeed event := by
    intro before event after hevents
    obtain ⟨hbrief, haccounts⟩ := hrun before _ hevents
    exact callsInNeed hbrief haccounts (hserves event (by simp [hevents]))
  refine ⟨?_, ?_, ?_, ?_⟩
  · intro before event after hevents
    refine ⟨hneed before event after hevents, ?_⟩
    intro hstores
    have hevent : event.continues = true := hcontinues event (by simp [hevents])
    obtain ⟨listed, hanswers, -⟩ := answers_of_stores hevent hstores
    exact ⟨listed, hanswers⟩
  · intro before event between later after hevents hstores
    have hevent : event.continues = true := hcontinues event (by simp [hevents])
    obtain ⟨listed, -, hloaded⟩ := answers_of_stores hevent hstores
    have hbetween : ∀ other ∈ between, other.continues = true :=
      fun other hother ↦ hcontinues other (by simp [hevents, hother])
    have hkept := run_loaded_of_some hbetween hloaded
    rw [← run_cons, ← run_append] at hkept
    exact idle_of_loaded (hneed _ _ _ hevents) (hcontinues later (by simp [hevents])) hkept
  · rintro before after names rfl hloaded
    rw [run_append]
    exact run_loaded_of_some
      (fun event hevent ↦ hcontinues event (List.mem_append_right _ hevent)) hloaded
  · rintro before text after desk hevents rfl hopen hwants hnone hwaiting
    refine calls_of_missing (hrun before _ hevents).2 hopen ?_ hnone hwaiting
    rwa [run_settings]

/-- The first call for the list fails, while a second query has not called. A third query calls
again and gets the list. Then fields are called for, and the backend has another list. -/
def retried : List Event :=
  [.query "s", .query "se", .answer 0 .silent, .query "sea", .answer 0 (.stocked ["logs"]),
    .query "source = logs ", .answer 0 (.stocked ["other"])]

theorem loaded_once_retried :
    (∀ event ∈ retried, event.serves = true) ∧
      (∃ desk, desk = (opened {}).run (retried.take 3) ∧ desk.engine.catalog.loaded = none ∧
        desk.Calls (.query "sea") .indices ∧
        ∀ errand ∈ (desk.settle (.query "sea")).waiting, errand.current ≠ .indices) ∧
      ((opened {}).run (retried.take 4)).Stores (.answer 0 (.stocked ["logs"])) ∧
      ¬ ((opened {}).run (retried.take 5)).Calls (.query "source = logs ") .indices ∧
      ¬ ((opened {}).run (retried.take 6)).Stores (.answer 0 (.stocked ["other"])) ∧
      ((opened {}).run retried).engine.catalog.loaded = some ["logs"] := by
  have hserves : ∀ event ∈ retried, event.serves = true := by decide
  obtain ⟨hneed, honce, hkept, hmissing⟩ := loaded_once {} hserves
  have hnone : ((opened {}).run (retried.take 3)).engine.catalog.loaded = none := by
    decide +kernel
  have hcalls : ((opened {}).run (retried.take 3)).Calls (.query "sea") .indices :=
    hmissing (retried.take 3) "sea" (retried.drop 4) _ rfl rfl (by decide +kernel)
      (by decide +kernel) hnone (by decide +kernel)
  have hstores : ((opened {}).run (retried.take 4)).Stores (.answer 0 (.stocked ["logs"])) := by
    decide +kernel
  refine ⟨hserves, ⟨_, rfl, hnone, hcalls, ((hneed _ _ (retried.drop 4) rfl).1 hcalls).2⟩,
    hstores, ?_, ?_, ?_⟩
  · exact (honce (retried.take 4) _ [] _ (retried.drop 6) rfl hstores).2
  · exact (honce (retried.take 4) _ [.query "source = logs "] _ [] rfl hstores).1
  · exact hkept (retried.take 5) (retried.drop 5) ["logs"] rfl (by decide +kernel)

end Desk
end PipedQuery
