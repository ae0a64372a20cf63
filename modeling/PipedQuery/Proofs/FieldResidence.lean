import PipedQuery.Proofs.Intake

/-!
Which fields are resident. The catalog keeps one field list, that of the last answer that brought
one, so the list may be of an index that the user has left. `Attended` says what is done for the
active index at any time: its fields are under way, or an errand is about to ask for them, or
they have arrived and are resident unless a list displaced them that came when the index was
active already. Every move keeps this as long as no call fails (`attended_run`). So once nothing
waits, the resident list is that of the active index unless a late answer for another one has
displaced it, and then every query that expects a field asks for the missing list again
(`resident_of_idle`).
-/

set_option autoImplicit false
set_option relaxedAutoImplicit false

namespace PipedQuery

namespace Gateway

/-- Every call has an answer, and the mapping of an index names the index. -/
def Succeeds (gateway : Gateway) : Prop :=
  ∀ request, ∃ fetched, gateway.fetch request = .ok fetched

theorem succeeds_stocked (names : List String) : (stocked names).Succeeds := by
  intro request
  cases request with
  | indices => exact ⟨_, rfl⟩
  | fields index => exact ⟨_, fetch_stocked_fields names index⟩
  | values index field type => exact ⟨_, rfl⟩

end Gateway

namespace Intake

variable {settings : Settings} {moves : List Move} {index : String} {held : IndexFields}
  {current : Option String}

/-- An answer of the run brought the field list, while `current` was the active index. -/
def Brought (start : Intake) (moves : List Move) (held : IndexFields)
    (current : Option String) : Prop :=
  ∃ before place gateway after errand, moves = before ++ .answers place gateway :: after ∧
    (start.run before).desk.waiting[place]? = some errand ∧
    errand.current = .fields held.index ∧
    gateway.fetch (.fields held.index) = .ok (.fields held.index held.fields) ∧
    (start.run before).desk.engine.session.activeIndex = current

theorem Brought.concat {start : Intake} (hbrought : start.Brought moves held current)
    (next : Move) : start.Brought (moves ++ [next]) held current := by
  obtain ⟨before, place, gateway, after, errand, rfl, hanswer⟩ := hbrought
  exact ⟨before, place, gateway, after ++ [next], errand, by simp, hanswer⟩

/-- The fields of the index have arrived. They are resident, or others have displaced them that
came when the index was active already. -/
def Serves (start : Intake) (moves : List Move) (index : String) : Prop :=
  ∃ held current, (start.run moves).desk.engine.catalog.resident = some held ∧
    start.Brought moves held current ∧
    (held.index = index ∨
      current = some index ∧ ∃ fields earlier, start.Brought moves ⟨index, fields⟩ earlier)

/-- What is done for the active index in a run. -/
structure Attended (start : Intake) (moves : List Move) : Prop where
  brought : ∀ held, (start.run moves).desk.engine.catalog.resident = some held →
    ∃ current, start.Brought moves held current
  attended : ∀ index, (start.run moves).desk.engine.session.activeIndex = some index →
    .fields index ∈ (start.run moves).desk.engine.catalog.inFlight ∨
      (∃ errand ∈ (start.run moves).unclaimed, errand.current = .fields index) ∨
      start.Serves moves index

theorem attended_opened (settings : Settings) : (opened settings).Attended [] where
  brought := fun _ hheld ↦ nomatch hheld
  attended := fun _ hactive ↦ nomatch hactive

variable {start : Intake}

theorem Serves.arrived (hserves : start.Serves moves index) :
    ∃ fields earlier, start.Brought moves ⟨index, fields⟩ earlier := by
  obtain ⟨held, current, _, hbrought, rfl | ⟨_, harrived⟩⟩ := hserves
  · exact ⟨held.fields, current, hbrought⟩
  · exact harrived

/-- A move that leaves the resident list alone has only to attend to the active index. -/
theorem Attended.concat {next : Move} (hattended : start.Attended moves)
    (hresident : ((start.run moves).move next).desk.engine.catalog.resident =
      (start.run moves).desk.engine.catalog.resident)
    (hactive : ∀ index,
      ((start.run moves).move next).desk.engine.session.activeIndex = some index →
        .fields index ∈ ((start.run moves).move next).desk.engine.catalog.inFlight ∨
          (∃ errand ∈ ((start.run moves).move next).unclaimed,
            errand.current = .fields index) ∨
          start.Serves moves index) :
    start.Attended (moves ++ [next]) := by
  constructor
  · intro held hheld
    rw [run_concat, hresident] at hheld
    obtain ⟨current, hbrought⟩ := hattended.brought held hheld
    exact ⟨current, hbrought.concat next⟩
  · intro index hindex
    rw [run_concat] at hindex ⊢
    refine (hactive index hindex).imp_right (Or.imp_right ?_)
    rintro ⟨held, current, hheld, hbrought, hserved⟩
    refine ⟨held, current, by rw [run_concat, hresident, hheld], hbrought.concat next, ?_⟩
    refine hserved.imp_right (And.imp_right ?_)
    rintro ⟨fields, earlier, harrived⟩
    exact ⟨fields, earlier, harrived.concat next⟩

/-- A list that need not be fetched is under way or resident. -/
theorem Attended.of_not_needs (hattended : start.Attended moves)
    (hneeds : ¬ (start.run moves).desk.engine.catalog.needs (.fields index) = true) :
    .fields index ∈ (start.run moves).desk.engine.catalog.inFlight ∨
      start.Serves moves index := by
  rw [Catalog.needs_fields_iff] at hneeds
  by_cases hflight : .fields index ∈ (start.run moves).desk.engine.catalog.inFlight
  · exact Or.inl hflight
  · have hresident : ∃ held, (start.run moves).desk.engine.catalog.resident = some held ∧
        held.index = index := by
      by_contra hnone
      exact hneeds ⟨hflight, fun held hheld hindex ↦ hnone ⟨held, hheld, hindex⟩⟩
    obtain ⟨held, hheld, hindex⟩ := hresident
    obtain ⟨current, hbrought⟩ := hattended.brought held hheld
    exact Or.inr ⟨held, current, hheld, hbrought, Or.inl hindex⟩

/-- A query that makes an index the active one asks for its fields, unless they are under way or
resident. -/
theorem Attended.reads (hattended : start.Attended moves) (text : String) :
    start.Attended (moves ++ [.reads text]) := by
  have hcatalog : ((start.run moves).move (.reads text)).desk.engine.catalog =
      (start.run moves).desk.engine.catalog := by
    simp [move, Desk.settle]
  refine hattended.concat (by rw [hcatalog]) ?_
  intro index hactive
  rw [hcatalog]
  rcases Engine.prepare_active hactive with hbefore | hrequests
  · rcases hattended.attended index hbefore with hflight | ⟨errand, hmem, hcurrent⟩ | hserves
    · exact Or.inl hflight
    · exact Or.inr (Or.inl ⟨errand, List.mem_append_left _ hmem, hcurrent⟩)
    · exact Or.inr (Or.inr hserves)
  · by_cases hneeds : (start.run moves).desk.engine.catalog.needs (.fields index) = true
    · rw [Reading.fieldsRequest, if_pos hneeds] at hrequests
      have herrand : ((start.run moves).desk.engine.prepare text).errand =
          some ⟨none, .batch ((start.run moves).desk.engine.prepare text).batch,
            .fields index, [], []⟩ := by
        simp only [Prepared.errand, hrequests]
      exact Or.inr (Or.inl ⟨_, List.mem_append_right _ (Option.mem_toList.mpr herrand), rfl⟩)
    · exact (hattended.of_not_needs hneeds).imp_right Or.inr

/-- An errand that makes its claim has its call under way afterwards. -/
theorem Attended.claims (hattended : start.Attended moves)
    (hopen : (start.run moves).desk.engine.closed = false) (place : Nat) :
    start.Attended (moves ++ [.claims place]) := by
  cases hplace : (start.run moves).unclaimed[place]? with
  | none =>
    have hmove : (start.run moves).move (.claims place) = start.run moves := by
      simp [move, hplace]
    refine hattended.concat (by rw [hmove]) ?_
    rw [hmove]
    exact hattended.attended
  | some claimant =>
    have hmove : (start.run moves).move (.claims place) =
        ⟨(start.run moves).desk.turn (.claims claimant),
          (start.run moves).unclaimed.eraseIdx place⟩ := by
      simp [move, hplace]
    refine hattended.concat (by rw [hmove, Desk.turn_claims_resident]) ?_
    rw [hmove]
    intro index hactive
    rw [Desk.turn_claims_session] at hactive
    rcases hattended.attended index hactive with hflight | ⟨errand, hmem, hcurrent⟩ | hserves
    · exact Or.inl (Desk.subset_turn_claims _ _ hflight)
    · obtain ⟨hlength, hclaimant⟩ := List.getElem?_eq_some_iff.mp hplace
      rw [← (List.getElem_cons_eraseIdx_perm hlength).mem_iff, hclaimant] at hmem
      rcases List.mem_cons.mp hmem with rfl | hrest
      · exact Or.inl (Desk.key_mem_turn_claims hopen (by rw [hcurrent]; rfl))
      · exact Or.inr (Or.inl ⟨errand, hrest, hcurrent⟩)
    · exact Or.inr (Or.inr hserves)

section Answers

variable {place : Nat} {gateway : Gateway} {errand : Errand} {fetched : Fetched}

/-- An answer to another call leaves the fields of an index under way. -/
theorem inFlight_of_answers
    (hengine : ((start.run moves).move (.answers place gateway)).desk.engine =
      ((start.run moves).desk.engine.release errand.current).store fetched)
    (hother : errand.current ≠ .fields index)
    (hflight : .fields index ∈ (start.run moves).desk.engine.catalog.inFlight) :
    .fields index ∈
      ((start.run moves).move (.answers place gateway)).desk.engine.catalog.inFlight := by
  rw [hengine, Engine.store_inFlight, Engine.release_eq]
  refine List.mem_filter.mpr ⟨hflight, decide_eq_true ?_⟩
  exact fun hkey ↦ hother (Request.key_eq_fields_iff.mp hkey)

/-- An answer that brings no fields was not asked for any. -/
theorem Attended.answers_of_held_eq_none (hattended : start.Attended moves)
    (hengine : ((start.run moves).move (.answers place gateway)).desk.engine =
      ((start.run moves).desk.engine.release errand.current).store fetched)
    (hfetch : gateway.fetch errand.current = .ok fetched) (hbrings : fetched.held = none) :
    start.Attended (moves ++ [.answers place gateway]) := by
  refine hattended.concat ?_ ?_
  · rw [hengine, Engine.store_resident, hbrings, Option.none_or, Engine.release_eq]
  · intro index hactive
    rw [hengine, Engine.store_session, Engine.release_eq] at hactive
    refine (hattended.attended index hactive).imp_left (inFlight_of_answers hengine ?_)
    intro hcurrent
    obtain ⟨fields, rfl⟩ := Gateway.fetch_fields_eq_ok (hcurrent ▸ hfetch)
    cases hbrings

/-- A field list that arrives is that of the active index, or it came when that index was active
already, and what was done for that index before is not undone. -/
theorem Attended.answers_of_fields {name : String} {fields : List Field}
    (hattended : start.Attended moves)
    (hengine : ((start.run moves).move (.answers place gateway)).desk.engine =
      ((start.run moves).desk.engine.release errand.current).store (.fields name fields))
    (hplace : (start.run moves).desk.waiting[place]? = some errand)
    (hfetch : gateway.fetch errand.current = .ok (.fields name fields)) :
    start.Attended (moves ++ [.answers place gateway]) := by
  have hcurrent := Gateway.eq_fields_of_fetch hfetch
  have hresident : (start.run (moves ++
      [.answers place gateway])).desk.engine.catalog.resident = some ⟨name, fields⟩ := by
    rw [run_concat, hengine]
    rfl
  have hbrought : start.Brought (moves ++ [.answers place gateway]) ⟨name, fields⟩
      (start.run moves).desk.engine.session.activeIndex :=
    ⟨moves, place, gateway, [], errand, rfl, hplace, hcurrent, hcurrent ▸ hfetch, rfl⟩
  constructor
  · intro held hheld
    obtain rfl := Option.some.inj (hresident.symm.trans hheld)
    exact ⟨_, hbrought⟩
  · intro index hactive
    rw [run_concat, hengine, Engine.store_session, Engine.release_eq] at hactive
    by_cases hname : name = index
    · exact Or.inr (Or.inr ⟨_, _, hresident, hbrought, Or.inl hname⟩)
    · rcases hattended.attended index hactive with hflight | hunclaimed | hserves
      · refine Or.inl ?_
        rw [run_concat]
        exact inFlight_of_answers hengine (by simpa [hcurrent] using hname) hflight
      · refine Or.inr (Or.inl ?_)
        rw [run_concat]
        exact hunclaimed
      · obtain ⟨own, earlier, harrived⟩ := hserves.arrived
        exact Or.inr (Or.inr ⟨_, _, hresident, hbrought,
          Or.inr ⟨hactive, own, earlier, harrived.concat _⟩⟩)

theorem Attended.answers (hattended : start.Attended moves)
    (hheld : (start.run moves).desk.held = true)
    (hopen : (start.run moves).desk.engine.closed = false) (place : Nat)
    (hsucceeds : gateway.Succeeds) : start.Attended (moves ++ [.answers place gateway]) := by
  cases hplace : (start.run moves).desk.waiting[place]? with
  | none =>
    have hmove : (start.run moves).move (.answers place gateway) = start.run moves := by
      simp [move, Desk.settle, hplace]
    refine hattended.concat (by rw [hmove]) ?_
    rw [hmove]
    exact hattended.attended
  | some errand =>
    obtain ⟨fetched, hfetch⟩ := hsucceeds errand.current
    have hengine : ((start.run moves).move (.answers place gateway)).desk.engine =
        ((start.run moves).desk.engine.release errand.current).store fetched := by
      simp only [move, Desk.settle, hplace]
      rw [Desk.receive_engine hheld, hfetch, Engine.absorb_ok hopen]
    cases fetched with
    | fields name fields => exact hattended.answers_of_fields hengine hplace hfetch
    | indices names => exact hattended.answers_of_held_eq_none hengine hfetch rfl
    | values sample => exact hattended.answers_of_held_eq_none hengine hfetch rfl

end Answers

/-- Typing attends to the active index as long as no call fails. -/
theorem attended_run (settings : Settings) {moves : List Move}
    (hsucceeds : ∀ place gateway, .answers place gateway ∈ moves → gateway.Succeeds) :
    (opened settings).Attended moves := by
  induction moves using List.reverseRecOn with
  | nil => exact attended_opened settings
  | append_singleton moves next ih =>
    have hattended := ih fun place gateway hmem ↦
      hsucceeds place gateway (List.mem_append_left _ hmem)
    have hopen := run_closed settings moves
    cases next with
    | reads text => exact hattended.reads text
    | claims place => exact hattended.claims hopen place
    | answers place gateway =>
      exact hattended.answers (run_accounted settings moves).held hopen place
        (hsucceeds place gateway (by simp))

/-- Once every call of a run was answered with success and none is about to be made, the resident
fields are those of the active index, or these have arrived too and a late answer for another
index has displaced them while the active index was active already. In that case the next query
that expects a field asks for them again. -/
theorem resident_of_idle (settings : Settings) (moves : List Move)
    (hsucceeds : ∀ place gateway, .answers place gateway ∈ moves → gateway.Succeeds)
    (hidle : ((opened settings).run moves).desk.waiting = [])
    (hclaimed : ((opened settings).run moves).unclaimed = []) (index : String)
    (hactive : ((opened settings).run moves).desk.engine.session.activeIndex = some index) :
    ∃ held current,
      ((opened settings).run moves).desk.engine.catalog.resident = some held ∧
      (opened settings).Brought moves held current ∧
      (held.index = index ∨
        held.index ≠ index ∧ current = some index ∧
          (∃ fields earlier, (opened settings).Brought moves ⟨index, fields⟩ earlier) ∧
          ∀ text, (((opened settings).run moves).desk.engine.prepare
              text).batch.position.asksField = true →
            (((opened settings).run moves).desk.engine.prepare text).requests =
              [.fields index]) := by
  have hflight := inFlight_of_idle hidle
  have hattended := (attended_run settings hsucceeds).attended index hactive
  rw [hflight, hclaimed] at hattended
  obtain ⟨held, current, hheld, hbrought, hserved⟩ : (opened settings).Serves moves index := by
    simpa using hattended
  refine ⟨held, current, hheld, hbrought, ?_⟩
  by_cases hindex : held.index = index
  · exact Or.inl hindex
  · obtain ⟨hlate, harrived⟩ := hserved.resolve_left hindex
    refine Or.inr ⟨hindex, hlate, harrived, ?_⟩
    intro text hfield
    have hneeds : ((opened settings).run moves).desk.engine.catalog.needs (.fields index) =
        true := by
      rw [Catalog.needs_fields_iff, hflight]
      refine ⟨List.not_mem_nil, ?_⟩
      intro other hother
      rw [hheld] at hother
      obtain rfl := Option.some.inj hother
      exact hindex
    rw [(Engine.prepare_asksField hfield).2, Reading.activeFieldsRequest, hactive]
    exact if_pos hneeds

/-- Two indices are named before either errand has made its claim, and the answers come in the
order of the calls. -/
def renamed : List Move :=
  [.reads "s", .claims 0, .answers 0 (.stocked ["a", "b"]), .reads "source = a ",
    .reads "source = b ", .claims 0, .claims 0, .answers 0 (.stocked ["a", "b"]),
    .answers 0 (.stocked ["a", "b"])]

theorem resident_of_idle_renamed :
    ((opened {}).run renamed).desk.waiting = [] ∧ ((opened {}).run renamed).unclaimed = [] ∧
      ((opened {}).run renamed).desk.engine.session.activeIndex = some "b" ∧
      ∃ current, (opened {}).Brought renamed ⟨"b", [⟨"b", .string⟩]⟩ current := by
  have hsucceeds : ∀ place gateway, .answers place gateway ∈ renamed → gateway.Succeeds := by
    intro place gateway hmem
    have hgateway : gateway = .stocked ["a", "b"] := by
      simp only [renamed, List.mem_cons, reduceCtorEq, Move.answers.injEq, List.not_mem_nil,
        or_false, false_or] at hmem
      rcases hmem with ⟨_, hgateway⟩ | ⟨_, hgateway⟩ | ⟨_, hgateway⟩ <;> exact hgateway
    rw [hgateway]
    exact Gateway.succeeds_stocked _
  have hidle : ((opened {}).run renamed).desk.waiting = [] := by decide +kernel
  have hclaimed : ((opened {}).run renamed).unclaimed = [] := by decide +kernel
  have hactive : ((opened {}).run renamed).desk.engine.session.activeIndex = some "b" := by
    decide +kernel
  obtain ⟨held, current, hheld, hbrought, _⟩ :=
    resident_of_idle {} renamed hsucceeds hidle hclaimed "b" hactive
  have hresident : ((opened {}).run renamed).desk.engine.catalog.resident =
      some ⟨"b", [⟨"b", .string⟩]⟩ := by
    decide +kernel
  obtain rfl := Option.some.inj (hheld.symm.trans hresident)
  exact ⟨hidle, hclaimed, hactive, current, hbrought⟩

end Intake

/-- A late answer does displace the fields of the active index. The user names `a` and then `b`;
the call for the fields of `b` is answered first, that for the fields of `a` last. -/
theorem Desk.resident_displaced :
    ∃ desk, desk = (opened {}).run
        [.query "s", .answer 0 (.stocked ["a", "b"]), .query "source = a ",
          .query "source = b ", .answer 1 (.stocked ["a", "b"]),
          .answer 0 (.stocked ["a", "b"])] ∧
      (Gateway.stocked ["a", "b"]).Succeeds ∧ desk.waiting = [] ∧
      desk.engine.session.activeIndex = some "b" ∧
      desk.engine.catalog.resident = some ⟨"a", [⟨"a", .string⟩]⟩ :=
  ⟨_, rfl, Gateway.succeeds_stocked _, by decide +kernel, by decide +kernel, by decide +kernel⟩

end PipedQuery
