import PipedQuery.Proofs.Course
import PipedQuery.Workbench

/-!
The end of a session. A closed engine is inert: it grants no claim, reads no query, completes no
batch, and the editor accepts nothing from it (`Engine.inert_of_closed`). What may still change is
settled by one turn (`Shut.turn`): calls that were under way come back, and a reset empties the
catalog. So whatever happens later, in whatever order, the catalog is the one of the closing or
empty, and nothing waits that did not wait then (`Shut.turns`).

A host closes its engine by hand or by letting go of the editor (`Workbench.shuts`). From then on
every action is a few turns of a closed desk and makes no call (`Workbench.act_of_closed`).
-/

set_option autoImplicit false
set_option relaxedAutoImplicit false

namespace PipedQuery

/-! ### A closed engine -/

namespace Engine

variable {engine : Engine} {request : Request}

/-- The engine grants nothing, offers nothing and finishes nothing. -/
structure Inert (engine : Engine) : Prop where
  claims : ∀ request, engine.claim request = .gone
  reads : ∀ text, (engine.prepare text).batch.position = .none ∧
    (engine.prepare text).batch.items = [] ∧ (engine.prepare text).requests = []
  completes : ∀ batch sample, engine.complete batch sample = batch
  accepts : ∀ (editor : Editor) (batch : Batch), editor.accept engine batch = none

theorem inert_of_closed (hclosed : engine.closed = true) : engine.Inert where
  claims := by simp [claim, hclosed]
  reads := by simp [prepare, hclosed]
  completes := by simp [complete, hclosed]
  accepts := by simp [Editor.accept, hclosed]

/-- A closed engine frees the key of a call that comes back, and that is all. -/
theorem absorb_of_closed (hclosed : engine.closed = true) (answer : Except Fault Fetched) :
    engine.absorb request answer = (engine.release request, none) := by
  have hreleased : (engine.release request).closed = true := by simpa [release_eq] using hclosed
  simp [absorb, hreleased]

/-- The engine is closed, and since `before` it has only lost keys of calls that came back. -/
structure Lingers (engine before : Engine) : Prop where
  closed : engine.closed = true
  loaded : engine.catalog.loaded = before.catalog.loaded
  known : engine.catalog.known = before.catalog.known
  resident : engine.catalog.resident = before.catalog.resident
  inFlight : engine.catalog.inFlight.Sublist before.catalog.inFlight

theorem lingers_of_catalog {before : Engine} (hclosed : engine.closed = true)
    (hcatalog : engine.catalog = before.catalog) : engine.Lingers before := by
  refine ⟨hclosed, ?_, ?_, ?_, ?_⟩
  · rw [hcatalog]
  · rw [hcatalog]
  · rw [hcatalog]
  · rw [hcatalog]

theorem lingers_release (hclosed : engine.closed = true) (request : Request) :
    (engine.release request).Lingers engine := by
  rw [release_eq]
  exact ⟨hclosed, rfl, rfl, rfl, List.filter_sublist⟩

theorem Inert.proceed (hinert : engine.Inert) (queue : List Request) :
    engine.proceed queue = (engine, none) := by
  cases queue with
  | nil => rfl
  | cons request rest => simp [Engine.proceed, hinert.claims request]

theorem Inert.resolve (hinert : engine.Inert) (gateway : Gateway) (sample : List SampledValue)
    (queue : List Request) : engine.resolve gateway sample queue = ⟨engine, sample, []⟩ := by
  cases queue with
  | nil => rfl
  | cons request rest => simp [Engine.resolve, hinert.claims request]

end Engine

/-! ### What can happen later -/

def Event.resets : Event → Bool
  | .reset => true
  | _ => false

def Turn.resets : Turn → Bool
  | .settles event => event.resets
  | .claims _ => false

namespace Desk

variable {desk closing : Desk} {renewed : Bool}

/-- The desk some time after it was closed, with or without a reset since. -/
structure Shut (desk closing : Desk) (renewed : Bool) : Prop where
  closed : desk.engine.closed = true
  loaded : desk.engine.catalog.loaded = if renewed then none else closing.engine.catalog.loaded
  known : desk.engine.catalog.known = if renewed then [] else closing.engine.catalog.known
  resident : desk.engine.catalog.resident =
    if renewed then none else closing.engine.catalog.resident
  inFlight : desk.engine.catalog.inFlight.Sublist closing.engine.catalog.inFlight
  waiting : desk.waiting.Sublist closing.waiting

theorem shut_close (desk : Desk) : (desk.settle .close).Shut desk false where
  closed := rfl
  loaded := rfl
  known := rfl
  resident := rfl
  inFlight := List.Sublist.refl _
  waiting := List.Sublist.refl _

/-- What an event leaves of a closed desk, unless it is a reset. -/
theorem settle_lingers (hclosed : desk.engine.closed = true) {event : Event}
    (hevent : event.resets = false) : (desk.settle event).engine.Lingers desk.engine := by
  cases event with
  | query text | prepare text =>
    refine Engine.lingers_of_catalog ?_ (desk.engine.prepare_catalog text)
    rw [settle, Engine.prepare_closed, hclosed]
  | select suggestion | take suggestion =>
    obtain ⟨session, hselect⟩ := desk.engine.select_engine suggestion
    simp only [settle, hselect]
    exact Engine.lingers_of_catalog hclosed rfl
  | resolve requests | spawn requests | drop => exact Engine.lingers_of_catalog hclosed rfl
  | close => exact Engine.lingers_of_catalog rfl rfl
  | reset => cases hevent
  | answer place gateway =>
    simp only [settle]
    cases desk.waiting[place]? with
    | none => exact Engine.lingers_of_catalog hclosed rfl
    | some errand =>
      rcases desk.receive_engine_cases place errand gateway with hengine | hengine
      · rw [hengine]
        exact Engine.lingers_of_catalog hclosed rfl
      · rw [hengine, Engine.absorb_of_closed hclosed]
        exact Engine.lingers_release hclosed _

theorem Shut.settle (hshut : desk.Shut closing renewed) (event : Event) :
    (desk.settle event).Shut closing (renewed || event.resets) := by
  have hwaiting := (desk.settle_waiting_sublist event).trans hshut.waiting
  cases hevent : event.resets with
  | true =>
    obtain rfl : event = .reset := by
      cases event <;> first | rfl | cases hevent
    rw [Bool.or_true]
    exact ⟨hshut.closed, rfl, rfl, rfl, List.nil_sublist _, hwaiting⟩
  | false =>
    have hlingers := settle_lingers hshut.closed hevent
    rw [Bool.or_false]
    exact ⟨hlingers.closed, hlingers.loaded.trans hshut.loaded,
      hlingers.known.trans hshut.known, hlingers.resident.trans hshut.resident,
      hlingers.inFlight.trans hshut.inFlight, hwaiting⟩

theorem Shut.turn (hshut : desk.Shut closing renewed) (turn : Turn) :
    (desk.turn turn).Shut closing (renewed || turn.resets) := by
  cases turn with
  | settles event => exact hshut.settle event
  | claims errand =>
    have hgone := (Engine.inert_of_closed hshut.closed).claims errand.current
    simpa [Desk.turn, hgone, Turn.resets] using hshut

theorem Shut.turns (hshut : desk.Shut closing renewed) (later : List Turn) :
    (desk.turns later).Shut closing (renewed || later.any Turn.resets) := by
  induction later generalizing desk renewed with
  | nil => simpa [Desk.turns] using hshut
  | cons turn later ih =>
    have hrest := ih (hshut.turn turn)
    rwa [Bool.or_assoc, ← List.any_cons] at hrest

/-- An errand that goes on at a closed desk has come to its end. -/
theorem carryOn_of_closed (hclosed : desk.engine.closed = true) (ticket : Option Nat)
    (purpose : Purpose) (queue : List Request) (sample : List SampledValue) :
    desk.carryOn ticket purpose queue sample =
      (desk, some (purpose.finding desk.engine sample)) := by
  rw [carryOn, (Engine.inert_of_closed hclosed).proceed queue]

theorem shut_self (hclosed : desk.engine.closed = true) : desk.Shut desk false :=
  ⟨hclosed, rfl, rfl, rfl, List.Sublist.refl _, List.Sublist.refl _⟩

/-- At a closed desk a step settles, and nothing goes on. -/
theorem step_of_closed (hclosed : desk.engine.closed = true) (event : Event) :
    (desk.step event).1 = desk.settle event := by
  rcases desk.step_cases event with hstep | ⟨errand, hopen, -, -⟩
  · exact hstep
  · rw [((shut_self hclosed).settle event).closed] at hopen
    cases hopen

theorem run_of_closed (hclosed : desk.engine.closed = true) (events : List Event) :
    desk.run events = desk.turns (events.map .settles) := by
  induction events generalizing desk with
  | nil => rfl
  | cons event events ih =>
    rw [run_cons, step_of_closed hclosed, ih ((shut_self hclosed).settle event).closed]
    rfl

theorem Shut.run (hshut : desk.Shut closing renewed) (events : List Event) :
    (desk.run events).Shut closing (renewed || events.any Event.resets) := by
  have hturns := hshut.turns (events.map .settles)
  rw [List.any_map] at hturns
  rw [run_of_closed hshut.closed]
  exact hturns

/-! ### Queries that were under way -/

/-- A query that is not served at once waits with its batch behind the others. -/
theorem waiting_of_query {text : String} (hwaits : (desk.step (.query text)).2 = none) :
    ∃ errand, (desk.step (.query text)).1.waiting[desk.waiting.length]? = some errand ∧
      errand.purpose = .batch (desk.engine.prepare text).batch := by
  simp only [step, ask] at hwaits ⊢
  split_ifs at hwaits ⊢
  rcases carryOn_cases { desk with engine := (desk.engine.prepare text).engine } none
    (.batch (desk.engine.prepare text).batch) (desk.engine.prepare text).requests [] with
    hcarry | ⟨request, rest, -, -, hcarry⟩
  · rw [hcarry] at hwaits
    cases hwaits
  · rw [hcarry]
    exact ⟨⟨none, .batch (desk.engine.prepare text).batch, request, rest, []⟩, by simp, rfl⟩

/-- Whatever a call brings back to a closed desk, the batch that waited for it is handed over as it
was prepared. -/
theorem answer_of_closed (hclosed : desk.engine.closed = true) {place : Nat} {errand : Errand}
    (hplace : desk.waiting[place]? = some errand) {batch : Batch}
    (hpurpose : errand.purpose = .batch batch) (gateway : Gateway) :
    (desk.step (.answer place gateway)).2 = some (.batch batch) := by
  have hsettled := ((shut_self hclosed).settle (.answer place gateway)).closed
  simp only [settle, hplace] at hsettled
  simp only [step, answer, hplace]
  rw [carryOn_of_closed hsettled, hpurpose, Purpose.finding,
    (Engine.inert_of_closed hsettled).completes]

theorem answer_of_query {text : String} {between events : List Event} {place : Nat}
    (hwaits : (desk.step (.query text)).2 = none)
    (hfollow : follow desk.waiting.length (between ++ .close :: events) = some place)
    (gateway : Gateway) :
    ((desk.run (.query text :: (between ++ .close :: events))).step (.answer place gateway)).2 =
      some (.batch (desk.engine.prepare text).batch) := by
  obtain ⟨errand, hplace, hpurpose⟩ := waiting_of_query hwaits
  have hclosed :
      (desk.run (.query text :: (between ++ .close :: events))).engine.closed = true := by
    rw [run_cons, run_append, run_cons]
    exact ((shut_close _).run events).closed
  rw [run_cons] at hclosed ⊢
  exact answer_of_closed hclosed (waiting_follow hplace hfollow) hpurpose gateway

end Desk

/-! ### The host of a closed engine -/

/-- The items of a batch are shown. -/
def Outcome.shows : Outcome → Bool
  | .accepted (some _) => true
  | _ => false

/-- The action comes down to a few turns of the desk, calls nobody and shows nothing. -/
structure Report.Idle (report : Report) (action : Action) (desk : Desk) : Prop where
  turns : ∃ later, report.bench.desk = desk.turns later ∧
    (later.any Turn.resets = true → action = .reset)
  calls : report.calls = []
  shows : report.outcome.shows = false

namespace Workbench

variable {bench : Workbench} {action : Action}

/-- The bench after a run of actions. -/
def run (bench : Workbench) (actions : List Action) : Workbench :=
  actions.foldl (fun bench action ↦ (bench.act action).bench) bench

def reports (bench : Workbench) : List Action → List Report
  | [] => []
  | action :: rest => bench.act action :: (bench.act action).bench.reports rest

/-- The action closes the engine: by hand, or with the editor that goes. -/
def shuts (bench : Workbench) : Action → Bool
  | .close => bench.desk.held
  | .openEditor _ => bench.desk.held && bench.editor.isSome
  | .dropEditor | .dropEngine => bench.editor.isSome
  | _ => false

theorem idle_of_turns {report : Report} (later : List Turn)
    (hdesk : report.bench.desk = bench.desk.turns later) (hcalls : report.calls = [])
    (hshows : report.outcome.shows = false) (hlater : later.any Turn.resets = false) :
    report.Idle action bench.desk :=
  ⟨⟨later, hdesk, by simp [hlater]⟩, hcalls, hshows⟩

theorem idle_of_same {report : Report} (hdesk : report.bench.desk = bench.desk)
    (hcalls : report.calls = []) (hshows : report.outcome.shows = false) :
    report.Idle action bench.desk :=
  idle_of_turns [] hdesk hcalls hshows rfl

theorem idle_of_event {report : Report} (event : Event)
    (hdesk : report.bench.desk = bench.desk.settle event) (hcalls : report.calls = [])
    (hshows : report.outcome.shows = false) (hevent : event.resets = false) :
    report.Idle action bench.desk :=
  idle_of_turns [.settles event] hdesk hcalls hshows (by simp [Turn.resets, hevent])

theorem carryOn_of_closed (hclosed : bench.engine.closed = true) (ticket : Option Nat)
    (purpose : Purpose) (queue : List Request) (sample : List SampledValue) :
    bench.carryOn ticket purpose queue sample =
      (bench, some (purpose.finding bench.engine sample), []) := by
  unfold carryOn
  split_ifs
  · rw [Desk.carryOn_of_closed hclosed]
    simp [engine]
  · rw [(Engine.inert_of_closed hclosed).resolve]
    rfl

theorem record_desk (bench : Workbench) (found : Finding) :
    (bench.record found).1.desk = bench.desk := by
  cases found <;> rfl

theorem idle_await (hclosed : bench.engine.closed = true) (purpose : Purpose)
    (queue : List Request) : (bench.await purpose queue).Idle action bench.desk := by
  unfold await
  rw [carryOn_of_closed hclosed]
  exact idle_of_same (bench.record_desk _) rfl rfl

theorem idle_get (hclosed : bench.engine.closed = true) (query : String) :
    (bench.get query).Idle action bench.desk := by
  have hnone : (bench.engine.prepare query).requests = [] :=
    ((Engine.inert_of_closed hclosed).reads query).2.2
  unfold get
  simp only [hnone, List.isEmpty_nil, if_true]
  exact idle_of_event (.prepare query) (record_desk _ _) rfl rfl rfl

theorem take_of_closed (hclosed : bench.engine.closed = true) (suggestion : Suggestion)
    (background : Bool) :
    bench.take suggestion background =
      (bench.withEngine (bench.engine.select suggestion).engine,
        (bench.engine.select suggestion).query, []) := by
  have hselected : (bench.withEngine (bench.engine.select suggestion).engine).engine.closed =
      true := by
    obtain ⟨session, hselect⟩ := bench.engine.select_engine suggestion
    rw [hselect]
    exact hclosed
  unfold take
  split_ifs
  · simp only [carryOn_of_closed hselected]
  · rfl

theorem idle_release (hclosed : bench.engine.closed = true) (place : Nat) :
    (bench.release place).Idle action bench.desk := by
  unfold release
  cases hplace : bench.desk.waiting[place]? with
  | none => exact idle_of_same rfl rfl rfl
  | some errand =>
    have hdesk : (bench.desk.receive place errand bench.cluster.gateway).1 =
        bench.desk.settle (.answer place bench.cluster.gateway) := by
      simp only [Desk.settle, hplace]
    have hsettled : { bench with
        desk := (bench.desk.receive place errand bench.cluster.gateway).1 }.engine.closed =
          true := by
      simp only [engine, hdesk]
      exact ((Desk.shut_self hclosed).settle _).closed
    dsimp only
    rw [carryOn_of_closed hsettled]
    cases errand.ticket with
    | none => exact idle_of_event _ hdesk rfl rfl rfl
    | some ticket => exact idle_of_event _ ((record_desk _ _).trans hdesk) rfl rfl rfl

/-- The editor that goes closes the engine, and without one nothing happens. -/
theorem dropEditor_desk (bench : Workbench) :
    bench.dropEditor.desk =
      if bench.editor.isSome then bench.desk.settle .close else bench.desk := by
  unfold dropEditor
  cases bench.editor <;> rfl

theorem idle_of_dropEditor {report : Report} (hdesk : report.bench.desk = bench.dropEditor.desk)
    (hcalls : report.calls = []) (hshows : report.outcome.shows = false) :
    report.Idle action bench.desk := by
  rw [dropEditor_desk] at hdesk
  split_ifs at hdesk
  · exact idle_of_event .close hdesk hcalls hshows rfl
  · exact idle_of_same hdesk hcalls hshows

theorem idle_editorAction (hclosed : bench.engine.closed = true) (editor : Editor)
    (action : Action) : (bench.editorAction editor action).Idle action bench.desk := by
  cases action with
  | input text =>
    have hstays : (bench.setText editor text).1.engine.closed = true := hclosed
    obtain ⟨hturns, hcalls, hshows⟩ :
        ((bench.setText editor text).1.get text).Idle (.input text) bench.desk :=
      idle_get hstays text
    exact ⟨hturns, hcalls, hshows⟩
  | suggest => exact idle_get hclosed editor.query
  | accept number =>
    simp only [editorAction]
    cases bench.batch? number with
    | none => exact idle_of_same rfl rfl rfl
    | some batch =>
      have hrefused : (Outcome.accepted (editor.accept bench.engine batch)).shows = false := by
        rw [(Engine.inert_of_closed hclosed).accepts]
        rfl
      exact idle_of_same rfl rfl hrefused
  | editorTake choice =>
    simp only [editorAction]
    cases bench.choose choice with
    | error obstacle => exact idle_of_same rfl rfl rfl
    | ok suggestion =>
      simp only [take_of_closed hclosed]
      exact idle_of_event (.select suggestion) rfl rfl rfl rfl
  | _ => exact idle_of_same rfl rfl rfl

theorem idle_engineAction (hclosed : bench.engine.closed = true) (action : Action) :
    (bench.engineAction action).Idle action bench.desk := by
  cases action with
  | get query => exact idle_get hclosed query
  | prepare query => exact idle_of_event (.prepare query) rfl rfl rfl rfl
  | resolve requests => exact idle_await hclosed _ _
  | spawnResolve requests =>
    simp only [engineAction]
    split_ifs
    · exact idle_of_same rfl rfl rfl
    · exact idle_await hclosed _ _
  | select choice =>
    simp only [engineAction]
    cases bench.choose choice with
    | error obstacle => exact idle_of_same rfl rfl rfl
    | ok suggestion => exact idle_of_event (.select suggestion) rfl rfl rfl rfl
  | take choice background =>
    simp only [engineAction]
    cases bench.choose choice with
    | error obstacle => exact idle_of_same rfl rfl rfl
    | ok suggestion =>
      simp only [take_of_closed hclosed]
      exact idle_of_event (.select suggestion) rfl rfl rfl rfl
  | isCurrent number =>
    simp only [engineAction]
    cases bench.batch? number with
    | none => exact idle_of_same rfl rfl rfl
    | some batch => exact idle_of_same rfl rfl rfl
  | close => exact idle_of_event .close rfl rfl rfl rfl
  | reset => exact ⟨⟨[.settles .reset], rfl, fun _ ↦ rfl⟩, rfl, rfl⟩
  | openEditor reports => exact idle_of_dropEditor rfl rfl rfl
  | _ => exact idle_of_same rfl rfl rfl

/-- Whatever the host of a closed engine does, no call is made and no batch is accepted. -/
theorem act_of_closed (hclosed : bench.engine.closed = true) (action : Action) :
    (bench.act action).Idle action bench.desk := by
  have heditor : ∀ editor, (bench.editorAction editor action).Idle action bench.desk :=
    fun editor ↦ idle_editorAction hclosed editor action
  have hengine := idle_engineAction hclosed action
  cases action with
  | isFor number query =>
    simp only [act]
    cases bench.batch? number <;> exact idle_of_same rfl rfl rfl
  | setCluster cluster => exact idle_of_same rfl rfl rfl
  | gate on => exact idle_of_same rfl rfl rfl
  | release place => exact idle_release hclosed place
  | dropEditor => exact idle_of_dropEditor rfl rfl rfl
  | dropEngine =>
    have hdesk : (bench.act .dropEngine).bench.desk = bench.dropEditor.desk.settle .drop := rfl
    rw [dropEditor_desk] at hdesk
    split_ifs at hdesk
    · exact idle_of_turns [.settles .close, .settles .drop] hdesk rfl rfl rfl
    · exact idle_of_event .drop hdesk rfl rfl rfl
  | setText text | text | input text | suggest | editorIndex =>
    simp only [act]
    cases bench.editor with
    | none => exact idle_of_same rfl rfl rfl
    | some editor => exact heditor editor
  | accept number =>
    simp only [act]
    cases bench.batch? number with
    | none => exact idle_of_same rfl rfl rfl
    | some batch =>
      cases bench.editor with
      | none => exact idle_of_same rfl rfl rfl
      | some editor => exact heditor editor
  | editorTake choice =>
    simp only [act]
    cases bench.choose choice with
    | error obstacle => exact idle_of_same rfl rfl rfl
    | ok suggestion =>
      cases bench.editor with
      | none => exact idle_of_same rfl rfl rfl
      | some editor => exact heditor editor
  | take choice background =>
    simp only [act]
    cases bench.choose choice with
    | error obstacle => exact idle_of_same rfl rfl rfl
    | ok suggestion =>
      cases bench.desk.held with
      | false => exact idle_of_same rfl rfl rfl
      | true => exact hengine
  | get | prepare | resolve | spawnResolve | select | isCurrent | close | isClosed | reset | inspect
  | openEditor =>
    simp only [act]
    split_ifs
    · exact hengine
    · exact idle_of_same rfl rfl rfl

/-- The action that closes the engine does nothing else to the desk, but that the host may let go
of it. -/
theorem act_of_shuts (hshuts : bench.shuts action = true) :
    ∃ later, (bench.act action).bench.desk = (bench.desk.settle .close).turns later ∧
      later.any Turn.resets = false := by
  have hdrop : bench.editor.isSome = true → bench.dropEditor.desk = bench.desk.settle .close := by
    intro hsome
    rw [dropEditor_desk, if_pos hsome]
  cases action with
  | close =>
    have hact : bench.act .close = bench.engineAction .close := if_pos hshuts
    exact ⟨[], by rw [hact]; rfl, rfl⟩
  | openEditor reports =>
    obtain ⟨hheld, hsome⟩ := Bool.and_eq_true_iff.mp hshuts
    have hact : bench.act (.openEditor reports) = bench.engineAction (.openEditor reports) :=
      if_pos hheld
    exact ⟨[], by rw [hact]; exact hdrop hsome, rfl⟩
  | dropEditor => exact ⟨[], hdrop hshuts, rfl⟩
  | dropEngine => exact ⟨[.settles .drop], congrArg (Desk.settle · .drop) (hdrop hshuts), rfl⟩
  | _ => cases hshuts

theorem run_of_closed (hclosed : bench.engine.closed = true) (actions : List Action) :
    (∃ later, (bench.run actions).desk = bench.desk.turns later ∧
        (later.any Turn.resets = true → .reset ∈ actions)) ∧
      ∀ report ∈ bench.reports actions,
        report.calls = [] ∧ report.outcome.shows = false := by
  induction actions generalizing bench with
  | nil => exact ⟨⟨[], rfl, by simp⟩, by simp [reports]⟩
  | cons action actions ih =>
    obtain ⟨⟨now, hnow, hreset⟩, hcalls, hshows⟩ := act_of_closed hclosed action
    have hstays : (bench.act action).bench.engine.closed = true := by
      rw [engine, hnow]
      exact ((Desk.shut_self hclosed).turns now).closed
    obtain ⟨⟨later, hlater, hresets⟩, hreports⟩ := ih hstays
    refine ⟨⟨now ++ later, ?_, ?_⟩, ?_⟩
    · rw [Desk.turns_append, ← hnow, ← hlater]
      rfl
    · rw [List.any_append, Bool.or_eq_true, List.mem_cons]
      exact Or.imp (fun hany ↦ (hreset hany).symm) hresets
    · rw [reports, List.forall_mem_cons]
      exact ⟨⟨hcalls, hshows⟩, hreports⟩

end Workbench

/-! ### Closing is final -/

namespace Desk

/-- Whatever waits when a desk is closed, and whatever happens later in whatever order: the engine
is inert, no errand and no key is added to those of the closing, and the catalog is the one of the
closing or, after a reset, empty. A query that was under way hands over its batch as it was
prepared, wherever it had come to. The same holds if the host closes the engine by letting go of the
editor, and its later actions call nobody and show nothing. -/
theorem close_final (desk : Desk) :
    (∀ later, ((desk.settle .close).turns later).Shut desk (later.any Turn.resets) ∧
        ((desk.settle .close).turns later).engine.Inert ∧
        ∀ ticket batch queue sample,
          (((desk.settle .close).turns later).carryOn ticket (.batch batch) queue sample).2 =
            some (.batch batch)) ∧
      (∀ events, ((desk.step .close).1.run events).Shut desk (events.any Event.resets) ∧
        ((desk.step .close).1.run events).engine.Inert) ∧
      (∀ text between events place gateway, (desk.step (.query text)).2 = none →
        follow desk.waiting.length (between ++ .close :: events) = some place →
          ((desk.run (.query text :: (between ++ .close :: events))).step
            (.answer place gateway)).2 = some (.batch (desk.engine.prepare text).batch)) ∧
      ∀ (bench : Workbench) (action : Action) (actions : List Action), bench.desk = desk →
        bench.shuts action = true →
          (∃ later, (bench.run (action :: actions)).desk = (desk.settle .close).turns later ∧
              (later.any Turn.resets = true → .reset ∈ actions)) ∧
            ∀ report ∈ (bench.act action).bench.reports actions,
              report.calls = [] ∧ report.outcome.shows = false := by
  have hturns : ∀ later, ((desk.settle .close).turns later).Shut desk (later.any Turn.resets) :=
    fun later ↦ desk.shut_close.turns later
  have hrun : ∀ events, ((desk.step .close).1.run events).Shut desk (events.any Event.resets) :=
    fun events ↦ desk.shut_close.run events
  refine ⟨?_, ?_, ?_, ?_⟩
  · intro later
    have hinert := Engine.inert_of_closed (hturns later).closed
    refine ⟨hturns later, hinert, ?_⟩
    intro ticket batch queue sample
    rw [carryOn_of_closed (hturns later).closed, Purpose.finding, hinert.completes]
  · intro events
    exact ⟨hrun events, Engine.inert_of_closed (hrun events).closed⟩
  · intro text between events place gateway hwaits hfollow
    exact answer_of_query hwaits hfollow gateway
  · rintro bench action actions rfl hshuts
    obtain ⟨now, hnow, hkept⟩ := Workbench.act_of_shuts hshuts
    have hclosed : (bench.act action).bench.engine.closed = true := by
      rw [Workbench.engine, hnow]
      exact (hturns now).closed
    obtain ⟨⟨later, hlater, hresets⟩, hreports⟩ := Workbench.run_of_closed hclosed actions
    refine ⟨⟨now ++ later, ?_, ?_⟩, hreports⟩
    · rw [turns_append, ← hnow, ← hlater]
      rfl
    · rw [List.any_append, hkept, Bool.false_or]
      exact hresets

/-- A field in which a query waits for the index list. -/
def unanswered : Workbench where
  desk := (opened {}).run [.query "s"]
  gated := true
  editor := some { query := "s" }

/-- The editor goes while its query waits, and the index list comes too late. -/
theorem close_final_unanswered :
    ((opened {}).step (.query "s")).2 = none ∧
      follow 0 [.close, .reset] = some 0 ∧
      (((opened {}).run [.query "s", .close, .reset]).step (.answer 0 (.stocked ["logs"]))).2 =
        some (.batch ((opened {}).engine.prepare "s").batch) ∧
      unanswered.shuts .dropEditor = true ∧
      (∃ later, (unanswered.run [.dropEditor, .release 0, .get "source = "]).desk =
        (unanswered.desk.settle .close).turns later ∧ later.any Turn.resets = false) ∧
      ((unanswered.act .dropEditor).bench.reports [.release 0, .get "source = "]).map
        Report.calls = [[], []] := by
  have hwaits : ((opened {}).step (.query "s")).2 = none := by decide +kernel
  have hfollow : follow 0 [.close, .reset] = some 0 := rfl
  have hshuts : unanswered.shuts .dropEditor = true := rfl
  obtain ⟨-, -, hlate, -⟩ := close_final (opened {})
  obtain ⟨-, -, -, hhost⟩ := close_final unanswered.desk
  obtain ⟨⟨later, hlater, hreset⟩, hreports⟩ :=
    hhost unanswered .dropEditor [.release 0, .get "source = "] rfl hshuts
  refine ⟨hwaits, hfollow, hlate "s" [] [.reset] 0 _ hwaits hfollow, hshuts,
    ⟨later, hlater, ?_⟩, ?_⟩
  · simpa using hreset
  · simp only [Workbench.reports, List.forall_mem_cons] at hreports
    obtain ⟨⟨hfirst, -⟩, ⟨hsecond, -⟩, -⟩ := hreports
    simp only [Workbench.reports, List.map_cons, List.map_nil, hfirst, hsecond]

end Desk
end PipedQuery
