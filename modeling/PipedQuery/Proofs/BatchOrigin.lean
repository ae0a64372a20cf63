import PipedQuery.Proofs.Extension
import PipedQuery.Proofs.Provenance
import PipedQuery.Proofs.Reading

/-!
Whose fields a batch names. A query that expects a field and misses the fields of its index waits
for them, and its suggestions are made from the session and the catalog as they are after the
answer, which other queries may have changed. If the answer brings the fields, these are the
resident ones, and the batch names some of them or nothing. If it is a fault, the batch is made
of whatever is resident for the index that is active by then. `batch_keeps_iff` states that a
batch keeps to the fields of its own index except for this: the call failed, another index has
become active with its fields resident, and one of them passes for a suggestion that the own
index does not have.
-/

set_option autoImplicit false
set_option relaxedAutoImplicit false

namespace PipedQuery

namespace Candidate

variable {session : Session} {catalog : Catalog} {field : Field}

/-- The candidates that fields make at a position where a field is expected. -/
def ofFields (position : Position) (fields : List Field) : List Candidate :=
  match position with
  | .statsFieldArg => (fields.filter (·.type.isNumeric)).map argument
  | _ => fields.map Candidate.field

theorem exists_field {position : Position} {fields : List Field} {candidate : Candidate}
    (hmem : candidate ∈ ofFields position fields) :
    ∃ field ∈ fields, candidate.item = some field.name := by
  unfold ofFields at hmem
  split at hmem
  · obtain ⟨field, hfield, rfl⟩ := List.mem_map.mp hmem
    exact ⟨field, (List.mem_filter.mp hfield).1, rfl⟩
  · obtain ⟨field, hfield, rfl⟩ := List.mem_map.mp hmem
    exact ⟨field, hfield, rfl⟩

theorem activeFields_of_resident {held : IndexFields}
    (hactive : session.activeIndex = some held.index)
    (hresident : catalog.resident = some held) : activeFields session catalog = held.fields := by
  simp [activeFields, hactive, Catalog.fieldsOf, hresident]

/-- Only the resident fields are offered, and only while their index is active. -/
theorem exists_resident_of_mem (hmem : field ∈ activeFields session catalog) :
    ∃ held, session.activeIndex = some held.index ∧ catalog.resident = some held ∧
      field ∈ held.fields := by
  cases hactive : session.activeIndex with
  | none => simp [activeFields, hactive] at hmem
  | some index =>
    cases hresident : catalog.resident with
    | none => simp [activeFields, hactive, Catalog.fieldsOf, hresident] at hmem
    | some held =>
      by_cases hindex : held.index = index
      · subst hindex
        rw [activeFields_of_resident hactive hresident] at hmem
        exact ⟨held, rfl, rfl, hmem⟩
      · simp [activeFields, hactive, Catalog.fieldsOf, hresident, hindex] at hmem

theorem activeFields_congr {other : Catalog} (hresident : other.resident = catalog.resident)
    (session : Session) : activeFields session other = activeFields session catalog := by
  have hfields : other.fieldsOf = catalog.fieldsOf := by
    funext index
    simp only [Catalog.fieldsOf, hresident]
  rw [activeFields, activeFields, hfields]

end Candidate

namespace Suggestion

/-- The suggestions that fields make at a position where a field is expected. -/
def ofFields (position : Position) (tokens : Tokens) (fields : List Field) : List Suggestion :=
  (Candidate.ofFields position fields).filterMap (Candidate.suggestion tokens)

theorem all_eq_ofFields {position : Position} (hfield : position.asksField = true)
    (tokens : Tokens) (session : Session) (catalog : Catalog) (sample : List SampledValue) :
    all position tokens session catalog sample =
      ofFields position tokens (Candidate.activeFields session catalog) := by
  cases position <;> first | rfl | cases hfield

theorem exists_field {position : Position} {tokens : Tokens} {fields : List Field}
    {suggestion : Suggestion} (hmem : suggestion ∈ ofFields position tokens fields) :
    ∃ field ∈ fields, suggestion.item = some field.name := by
  obtain ⟨candidate, hcandidate, hsuggestion⟩ := List.mem_filterMap.mp hmem
  obtain ⟨field, hfield, hitem⟩ := Candidate.exists_field hcandidate
  exact ⟨field, hfield, (Candidate.suggestion_item hsuggestion).trans hitem⟩

end Suggestion

namespace Engine

theorem complete_of_asksField {engine : Engine} {batch : Batch} (hopen : engine.closed = false)
    (hfield : batch.position.asksField = true) (sample : List SampledValue) :
    engine.complete batch sample = { batch with
      items := Suggestion.ofFields batch.position (Tokens.ofQuery batch.input)
        (Candidate.activeFields engine.session engine.catalog) } := by
  simp [complete, Position.usesMetadata_of_asksField hfield, hopen,
    Suggestion.all_eq_ofFields hfield]

theorem prepare_items_of_asksField {engine : Engine} {text : String}
    (hfield : (engine.prepare text).batch.position.asksField = true) :
    (engine.prepare text).batch.items =
      Suggestion.ofFields (engine.prepare text).batch.position (Tokens.ofQuery text)
        (Candidate.activeFields (engine.prepare text).engine.session engine.catalog) := by
  rcases engine.prepare_reading text with
    ⟨_, hposition, _⟩ | ⟨reading, _, hsession, _, hposition, hitems⟩
  · simp [hposition, Position.asksField] at hfield
  · rw [hposition] at hfield
    rw [hitems, hposition, hsession, Suggestion.all_eq_ofFields hfield]

end Engine

namespace Desk

variable {desk start : Desk} {events : List Event} {index : String} {field : Field}
  {settings : Settings}

/-! ### Reports -/

/-- In the run the backend reported the field as one of the index. -/
def Reported (start : Desk) (events : List Event) (index : String) (field : Field) : Prop :=
  ∃ before event after fields, events = before ++ event :: after ∧
    (start.run before).Answers 0 (.settles event) (.fields index) (.fields index fields) ∧
    field ∈ fields

theorem Reported.append (hreported : start.Reported events index field) (more : List Event) :
    start.Reported (events ++ more) index field := by
  obtain ⟨before, event, after, fields, rfl, hanswers, hmem⟩ := hreported
  exact ⟨before, event, after ++ more, fields, by simp, hanswers, hmem⟩

theorem step_resident {event : Event} {held : IndexFields} (hcontinues : event.continues = true)
    (hheld : (desk.step event).1.engine.catalog.resident = some held) :
    desk.engine.catalog.resident = some held ∨
      desk.Answers 0 (.settles event) (.fields held.index) (.fields held.index held.fields) := by
  have hsettled : (desk.turn (.settles event)).engine.catalog.resident = some held := by
    rcases desk.step_cases event with hstep | ⟨errand, _, _, hstep⟩
    · rw [hstep] at hheld
      exact hheld
    · rw [hstep, enlist_engine, Engine.holding_resident] at hheld
      exact hheld
  exact turn_resident hcontinues (desk.sparesThroughout_zero [.settles event]).1 hsettled

/-- Every resident field was reported for the index of the list that it stands in. -/
theorem reported_of_resident {held : IndexFields}
    (hcontinues : ∀ event ∈ events, event.continues = true)
    (hheld : ((opened settings).run events).engine.catalog.resident = some held)
    (hfield : field ∈ held.fields) : (opened settings).Reported events held.index field := by
  rcases exists_beginning (fun desk event ↦ (step desk event).1)
      (fun desk ↦ desk.engine.catalog.resident = some held) hheld with
    hstart | ⟨before, event, after, rfl, hbefore, hafter⟩
  · cases hstart
  · rcases step_resident (hcontinues event (by simp)) hafter with hresident | hanswers
    · exact absurd hresident hbefore
    · exact ⟨before, event, after, held.fields, rfl, hanswers, hfield⟩

/-- Every suggestion names a field that was reported for the index. Where there is no index there
is no suggestion. -/
def Keeps (start : Desk) (events : List Event) (own : Option String) (items : List Suggestion) :
    Prop :=
  ∀ item ∈ items, ∃ index field, own = some index ∧ start.Reported events index field ∧
    item.item = some field.name

/-- The suggestions from the active fields keep to the active index. -/
theorem keeps_activeFields (hcontinues : ∀ event ∈ events, event.continues = true)
    (position : Position) (tokens : Tokens) (session : Session) :
    (opened settings).Keeps events session.activeIndex
      (Suggestion.ofFields position tokens (Candidate.activeFields session
        ((opened settings).run events).engine.catalog)) := by
  intro item hitem
  obtain ⟨field, hfield, hname⟩ := Suggestion.exists_field hitem
  obtain ⟨held, hactive, hresident, hmem⟩ := Candidate.exists_resident_of_mem hfield
  exact ⟨held.index, field, hactive, reported_of_resident hcontinues hresident hmem, hname⟩

/-! ### A query that expects a field -/

/-- The batch of a query that expects a field is handed over at once, or its errand waits for the
fields of the active index. -/
theorem step_query_of_asksField {text : String} (hopen : desk.engine.closed = false)
    (hfield : (desk.engine.prepare text).batch.position.asksField = true) :
    (desk.step (.query text)).2 = some (.batch (desk.engine.prepare text).batch) ∨
      ∃ index, (desk.engine.prepare text).engine.session.activeIndex = some index ∧
        desk.step (.query text) =
          ((desk.settle (.query text)).enlist
            ⟨none, .batch (desk.engine.prepare text).batch, .fields index, [], []⟩, none) := by
  obtain ⟨hactive, hrequests⟩ := Engine.prepare_asksField hfield
  cases hindex : desk.engine.session.activeIndex with
  | none =>
    simp only [Reading.activeFieldsRequest, hindex] at hrequests
    exact Or.inl (by simp [step, ask, hrequests])
  | some index =>
    simp only [Reading.activeFieldsRequest, hindex] at hrequests
    by_cases hneeds : desk.engine.catalog.needs (.fields index) = true
    · refine Or.inr ⟨index, hactive.trans hindex, ?_⟩
      have hfree : (desk.engine.prepare text).engine.Frees (.fields index) := by
        intro key hkey
        obtain rfl := Option.some.inj hkey
        rw [Engine.prepare_catalog]
        exact (Catalog.needs_fields_iff.mp hneeds).1
      have hopen' : (desk.engine.prepare text).engine.closed = false := by
        rw [Engine.prepare_closed, hopen]
      rw [Reading.fieldsRequest, if_pos hneeds] at hrequests
      simp only [step, ask, hrequests, carryOn, Engine.proceed_cons_of_frees hopen' hfree]
      rfl
    · rw [Reading.fieldsRequest, if_neg hneeds] at hrequests
      exact Or.inl (by simp [step, ask, hrequests])

/-- An errand with nothing left to ask hands its batch over with the answer. -/
theorem step_answer_of_batch {place : Nat} {ticket : Option Nat} {prepared : Batch}
    {request : Request} (hheld : desk.held = true)
    (hplace : desk.waiting[place]? = some ⟨ticket, .batch prepared, request, [], []⟩)
    (gateway : Gateway) :
    ∃ sample, (desk.step (.answer place gateway)).2 =
      some (.batch ((desk.engine.absorb request (gateway.fetch request)).1.complete prepared
        sample)) := by
  have halive : desk.alive = true := by simp [alive, hheld]
  refine ⟨(desk.engine.absorb request (gateway.fetch request)).2.getD [], ?_⟩
  simp [step, answer, hplace, receive, halive, carryOn, Engine.proceed, Purpose.finding]

/-! ### The answer -/

/-- The call for the fields of the index fails while another index is active with its fields
resident, and these make a suggestion that names no field of the index. -/
def Strays (start : Desk) (events : List Event) (index : String) (position : Position)
    (tokens : Tokens) (gateway : Gateway) : Prop :=
  (∃ fault, gateway.fetch (.fields index) = .error fault) ∧
    ∃ held, (start.run events).engine.session.activeIndex = some held.index ∧
      (start.run events).engine.catalog.resident = some held ∧ held.index ≠ index ∧
      ∃ item ∈ Suggestion.ofFields position tokens held.fields,
        ∀ field, start.Reported events index field → item.item ≠ some field.name

variable {place : Nat} {gateway : Gateway}

/-- Fields that arrive are the resident ones, so the suggestions are made of them or there are
none. -/
theorem keeps_of_fetch {errand : Errand} {fetched : Fetched}
    (hopen : (start.run events).engine.closed = false)
    (hplace : (start.run events).waiting[place]? = some errand)
    (hcurrent : errand.current = .fields index)
    (hfetch : gateway.fetch (.fields index) = .ok fetched) (position : Position)
    (tokens : Tokens) (session : Session) :
    start.Keeps (events ++ [.answer place gateway]) (some index)
      (Suggestion.ofFields position tokens (Candidate.activeFields session
        ((start.run events).engine.absorb (.fields index) (.ok fetched)).1.catalog)) := by
  obtain ⟨fields, rfl⟩ := Gateway.fetch_fields_eq_ok hfetch
  intro item hitem
  obtain ⟨field, hfield, hname⟩ := Suggestion.exists_field hitem
  obtain ⟨held, _, hresident, hmem⟩ := Candidate.exists_resident_of_mem hfield
  rw [Engine.absorb_ok hopen, Engine.store_resident] at hresident
  obtain rfl : ⟨index, fields⟩ = held := Option.some.inj hresident
  refine ⟨index, field, rfl, ?_, hname⟩
  exact ⟨events, .answer place gateway, [], fields, rfl,
    ⟨place, gateway, errand, rfl, Nat.zero_le place, hplace, hcurrent, hfetch⟩, hmem⟩

/-- A call for the fields of the index that fails reports nothing of them. -/
theorem Reported.of_fault {fault : Fault}
    (hreported : start.Reported (events ++ [.answer place gateway]) index field)
    (hfault : gateway.fetch (.fields index) = .error fault) :
    start.Reported events index field := by
  obtain ⟨before, event, after, fields, hsplit, hanswers, hmem⟩ := hreported
  rcases after.eq_nil_or_concat' with rfl | ⟨init, last, rfl⟩
  · obtain ⟨_, hlast⟩ := List.append_inj' hsplit rfl
    obtain rfl := List.singleton_inj.mp hlast
    obtain ⟨other, reply, errand, hevent, _, _, _, hfetch⟩ := hanswers
    cases hevent
    rw [hfault] at hfetch
    cases hfetch
  · rw [← List.cons_append, ← List.append_assoc] at hsplit
    obtain ⟨hevents, _⟩ := List.append_inj' hsplit rfl
    exact ⟨before, event, init, fields, hevents, hanswers, hmem⟩

/-- After a fault the suggestions are made of what is resident for the index that is active by
then. -/
theorem keeps_iff_of_fault {fault : Fault}
    (hcontinues : ∀ event ∈ events, event.continues = true)
    (hfault : gateway.fetch (.fields index) = .error fault) (position : Position)
    (tokens : Tokens) :
    (opened settings).Keeps (events ++ [.answer place gateway]) (some index)
        (Suggestion.ofFields position tokens
          (Candidate.activeFields ((opened settings).run events).engine.session
            ((opened settings).run events).engine.catalog)) ↔
      ¬ (opened settings).Strays events index position tokens gateway := by
  constructor
  · rintro hkeeps ⟨_, held, hactive, hresident, _, item, hitem, hstrange⟩
    rw [Candidate.activeFields_of_resident hactive hresident] at hkeeps
    obtain ⟨own, field, hown, hreported, hname⟩ := hkeeps item hitem
    obtain rfl := Option.some.inj hown
    exact hstrange field (hreported.of_fault hfault) hname
  · intro hkept item hitem
    obtain ⟨field, hfield, hname⟩ := Suggestion.exists_field hitem
    obtain ⟨held, hactive, hresident, hmem⟩ := Candidate.exists_resident_of_mem hfield
    have hreported := reported_of_resident hcontinues hresident hmem
    by_cases hindex : held.index = index
    · exact ⟨index, field, rfl, (hindex ▸ hreported).append _, hname⟩
    · by_contra hnone
      rw [Candidate.activeFields_of_resident hactive hresident] at hitem
      refine hkept ⟨⟨fault, hfault⟩, held, hactive, hresident, hindex, item, hitem, ?_⟩
      intro other hother hitem'
      exact hnone ⟨index, other, rfl, hother.append _, hitem'⟩

/-- The batch that an errand for the fields of an index hands over keeps to that index exactly
unless it strays. -/
theorem step_answer_keeps_iff {prepared : Batch}
    (htyping : ∀ event ∈ events, event.isTyping = true)
    (hplace : ((opened settings).run events).waiting[place]? =
      some ⟨none, .batch prepared, .fields index, [], []⟩)
    (hfield : prepared.position.asksField = true) (gateway : Gateway) :
    ∃ batch, (((opened settings).run events).step (.answer place gateway)).2 =
        some (.batch batch) ∧
      batch.input = prepared.input ∧ batch.position = prepared.position ∧
      ((opened settings).Keeps (events ++ [.answer place gateway]) (some index) batch.items ↔
        ¬ (opened settings).Strays events index prepared.position
          (Tokens.ofQuery prepared.input) gateway) := by
  have hkeepsOpen : ∀ event ∈ events, event.keepsOpen = true := fun event hevent ↦
    Event.keepsOpen_of_isTyping (htyping event hevent)
  have hopen : ((opened settings).run events).engine.closed = false := run_closed hkeepsOpen
  obtain ⟨sample, hstep⟩ := step_answer_of_batch (run_held hkeepsOpen) hplace gateway
  rw [Engine.complete_of_asksField (by rw [Engine.absorb_closed, hopen]) hfield] at hstep
  refine ⟨_, hstep, rfl, rfl, ?_⟩
  dsimp only
  rw [Engine.absorb_session]
  cases hfetch : gateway.fetch (.fields index) with
  | ok fetched =>
    refine iff_of_true (keeps_of_fetch hopen hplace rfl hfetch _ _ _) ?_
    rintro ⟨⟨fault, hfault⟩, _⟩
    rw [hfetch] at hfault
    cases hfault
  | error fault =>
    have hresident : (((opened settings).run events).engine.absorb (.fields index)
        (.error fault)).1.catalog.resident =
          ((opened settings).run events).engine.catalog.resident := by
      rw [Engine.absorb_error, Engine.release_eq]
    rw [Candidate.activeFields_congr hresident]
    refine keeps_iff_of_fault (fun event hevent ↦ ?_) hfetch _ _
    exact Event.continues_of_isTyping (htyping event hevent)

/-- A query that expects a field gets its batch at once, and then it names fields of the index
that the query left active. Or it waits for the fields of that index. Whatever queries and
answers come meanwhile, its call is answered with a batch for the same query, and this names
fields of the same index exactly unless it strays. -/
theorem batch_keeps_iff (settings : Settings) (before : List Event) (text : String)
    (hbefore : ∀ event ∈ before, event.isTyping = true)
    (hdesk : desk = (opened settings).run before)
    (hfield : (desk.engine.prepare text).batch.position.asksField = true) :
    (∃ batch, (desk.step (.query text)).2 = some (.batch batch) ∧ batch.input = text ∧
        (opened settings).Keeps before
          (desk.engine.prepare text).engine.session.activeIndex batch.items) ∨
      ∃ index, (desk.engine.prepare text).engine.session.activeIndex = some index ∧
        (desk.step (.query text)).2 = none ∧
        ∀ after place gateway, (∀ event ∈ after, event.isTyping = true) →
          follow desk.waiting.length after = some place →
          ∃ batch, (((opened settings).run (before ++ .query text :: after)).step
              (.answer place gateway)).2 = some (.batch batch) ∧
            batch.input = text ∧
            batch.position = (desk.engine.prepare text).batch.position ∧
            ((opened settings).Keeps
                (before ++ .query text :: after ++ [.answer place gateway]) (some index)
                batch.items ↔
              ¬ (opened settings).Strays (before ++ .query text :: after) index batch.position
                (Tokens.ofQuery text) gateway) := by
  subst hdesk
  have hopen : ((opened settings).run before).engine.closed = false :=
    run_closed fun event hevent ↦ Event.keepsOpen_of_isTyping (hbefore event hevent)
  rcases step_query_of_asksField hopen hfield with hbatch | ⟨index, hactive, hstep⟩
  · refine Or.inl ⟨_, hbatch, Engine.prepare_input _ _, ?_⟩
    rw [Engine.prepare_items_of_asksField hfield]
    exact keeps_activeFields
      (fun event hevent ↦ Event.continues_of_isTyping (hbefore event hevent)) _ _ _
  · refine Or.inr ⟨index, hactive, by rw [hstep], ?_⟩
    intro after place gateway hafter hfollow
    have htyping : ∀ event ∈ before ++ .query text :: after, event.isTyping = true := by
      intro event hevent
      rcases List.mem_append.mp hevent with hevent | hevent
      · exact hbefore event hevent
      · rcases List.mem_cons.mp hevent with rfl | hevent
        · rfl
        · exact hafter event hevent
    have hplace : ((opened settings).run (before ++ .query text :: after)).waiting[place]? =
        some ⟨none, .batch (((opened settings).run before).engine.prepare text).batch,
          .fields index, [], []⟩ := by
      rw [run_append, run_cons]
      refine waiting_follow ?_ hfollow
      rw [hstep, enlist_waiting, settle_waiting]
      exact List.getElem?_concat_length
    obtain ⟨batch, hanswer, hinput, hposition, hkeeps⟩ :=
      step_answer_keeps_iff htyping hplace hfield gateway
    rw [Engine.prepare_input] at hinput hkeeps
    exact ⟨batch, hanswer, hinput, hposition, hposition ▸ hkeeps⟩

/-- An index is named and the call for its fields fails. -/
def unmapped : List Event :=
  [.query "s", .answer 0 (.stocked ["a", "b"]), .query "source = a ", .answer 0 .silent]

/-- Another index is named and its fields arrive, and then the first one is named again. -/
def detour : List Event :=
  [.query "source = b ", .answer 1 (.stocked ["a", "b"]), .query "source = a "]

theorem batch_keeps_detour :
    (∀ event ∈ unmapped, event.isTyping = true) ∧ (∀ event ∈ detour, event.isTyping = true) ∧
      ∃ batch, (((opened {}).run (unmapped ++ .query "source = a | fields " :: detour)).step
          (.answer 0 (.stocked ["a", "b"]))).2 = some (.batch batch) ∧
        batch.items.map Suggestion.item = [some "a"] ∧
        (opened {}).Keeps (unmapped ++ .query "source = a | fields " :: detour ++
          [.answer 0 (.stocked ["a", "b"])]) (some "a") batch.items := by
  have hbefore : ∀ event ∈ unmapped, event.isTyping = true := by decide
  have hafter : ∀ event ∈ detour, event.isTyping = true := by decide
  have hwaits : (((opened {}).run unmapped).step (.query "source = a | fields ")).2 = none := by
    decide +kernel
  have hactive : (((opened {}).run unmapped).engine.prepare
      "source = a | fields ").engine.session.activeIndex = some "a" := by
    decide +kernel
  have hanswer : (((opened {}).run (unmapped ++ .query "source = a | fields " :: detour)).step
      (.answer 0 (.stocked ["a", "b"]))).2 = some (.batch
        ⟨"source = a | fields ", 3, .fieldsFirst,
          [⟨"source = a | fields a", "source = a | fields ", "a", some "a",
            some { type := some .string }⟩]⟩) := by
    decide +kernel
  refine ⟨hbefore, hafter, _, hanswer, rfl, ?_⟩
  rcases batch_keeps_iff {} unmapped "source = a | fields " hbefore rfl (by decide +kernel) with
    ⟨_, hnow, _⟩ | ⟨index, hindex, _, hlater⟩
  · rw [hwaits] at hnow
    cases hnow
  · obtain rfl := Option.some.inj (hactive.symm.trans hindex)
    obtain ⟨batch, hbatch, _, _, hkeeps⟩ :=
      hlater detour 0 (.stocked ["a", "b"]) hafter (by decide +kernel)
    rw [hanswer] at hbatch
    cases hbatch
    refine hkeeps.mpr ?_
    rintro ⟨⟨fault, hfault⟩, _⟩
    rw [Gateway.fetch_stocked_fields] at hfault
    cases hfault

/-- Some batches do stray. The query leaves `a` active and waits for its fields. Meanwhile `b` is
named and its fields arrive; then the call for those of `a` fails, and the batch of the query
offers the field of `b`, which `a` does not have. -/
theorem batch_strays :
    ∃ desk, desk = (opened {}).run unmapped ∧
      (desk.engine.prepare "source = a | fields ").engine.session.activeIndex = some "a" ∧
      (((opened {}).run (unmapped ++ [.query "source = a | fields ", .query "source = b ",
        .answer 1 (.stocked ["a", "b"])])).step (.answer 0 .silent)).2 = some (.batch
          ⟨"source = a | fields ", 3, .fieldsFirst,
            [⟨"source = a | fields b", "source = a | fields ", "b", some "b",
              some { type := some .string }⟩]⟩) ∧
      (Gateway.stocked ["a", "b"]).fetch (.fields "a") =
        .ok (.fields "a" [⟨"a", .string⟩]) :=
  ⟨_, rfl, by decide +kernel, by decide +kernel, Gateway.fetch_stocked_fields _ _⟩

end Desk
end PipedQuery
