import Mathlib.Data.List.Perm.Basic
import PipedQuery.Proofs.Provenance

/-!
Single flight. The catalog keeps the keys under which a fetch is under way, the desk keeps the
calls that wait for their answer, and nothing in either refers to the other. `Accounted` says
that the two agree: the keys in flight are the keys of the waiting calls, each once. A claim adds
the same key on both sides, an answer takes it away on both, and no other step touches either
(`Accounted.turn`), so they agree along every run of a session (`single_flight`).

The accounts are kept from a place on. With the place 0 they are those of all calls. With the
number of errands that waited at a reset they are those of the new session, and they stay so as
long as every answer to an older call finds its key free.
-/

set_option autoImplicit false
set_option relaxedAutoImplicit false

namespace PipedQuery.Desk

variable {desk : Desk} {event : Event} {first : Nat}

/-- The keys of the calls that wait at a place or behind it. -/
def claimed (desk : Desk) (first : Nat) : List FetchKey :=
  (desk.waiting.drop first).filterMap (·.current.key)

/-- The keys of the calls that wait. Samples of values have none. -/
def outstanding (desk : Desk) : List FetchKey :=
  desk.waiting.filterMap (·.current.key)

/-- The keys in flight are those of the calls that wait from the place `first` on. -/
structure Accounted (desk : Desk) (first : Nat) : Prop where
  held : desk.held = true
  first_le : first ≤ desk.waiting.length
  nodup : desk.engine.catalog.inFlight.Nodup
  perm : (desk.claimed first).Perm desk.engine.catalog.inFlight

theorem accounted_opened (settings : Settings) : (opened settings).Accounted 0 where
  held := rfl
  first_le := Nat.zero_le _
  nodup := List.nodup_nil
  perm := List.Perm.nil

/-- A reset forgets every claim, so none of the calls that wait is accounted for. -/
theorem accounted_reset (hheld : desk.held = true) :
    (desk.settle .reset).Accounted desk.waiting.length where
  held := hheld
  first_le := Nat.le_refl _
  nodup := List.nodup_nil
  perm := by
    have hnone : (desk.settle .reset).claimed desk.waiting.length = [] := by
      simp [claimed, settle]
    rw [hnone]
    exact List.Perm.nil

theorem Accounted.enlist {errand : Errand} (haccounts : desk.Accounted first)
    (hfree : desk.engine.Frees errand.current) : (desk.enlist errand).Accounted first where
  held := haccounts.held
  first_le := by
    have hle := haccounts.first_le
    rw [enlist_waiting, List.length_append]
    omega
  nodup := by
    rw [enlist_engine, Engine.holding_inFlight]
    cases hkey : errand.current.key with
    | none => exact haccounts.nodup
    | some key => exact List.nodup_cons.mpr ⟨hfree key hkey, haccounts.nodup⟩
  perm := by
    have hclaimed : (desk.enlist errand).claimed first =
        desk.claimed first ++ errand.current.key.toList := by
      rw [claimed, enlist_waiting, List.drop_append_of_le_length haccounts.first_le,
        List.filterMap_append]
      cases hkey : errand.current.key <;> simp [claimed, hkey]
    rw [hclaimed, enlist_engine, Engine.holding_inFlight]
    exact (haccounts.perm.append_right _).trans List.perm_append_comm

/-- An answer to an older call leaves the accounts as they are if it finds its key free. -/
theorem Accounted.receive_older {place : Nat} {errand : Errand} (haccounts : desk.Accounted first)
    (holder : place < first) (hfree : desk.engine.Frees errand.current) (gateway : Gateway) :
    (desk.receive place errand gateway).1.Accounted (first - 1) := by
  have hlength := haccounts.first_le
  have hkeys : (desk.receive place errand gateway).1.engine.catalog.inFlight =
      desk.engine.catalog.inFlight := by
    rw [receive_engine haccounts.held, Engine.absorb_inFlight, List.filter_eq_self]
    intro key hmem
    simpa using fun hkey ↦ hfree key hkey hmem
  have hclaimed : (desk.receive place errand gateway).1.claimed (first - 1) =
      desk.claimed first := by
    rw [claimed, claimed, receive_waiting, drop_eraseIdx_of_lt holder hlength]
  refine ⟨?_, ?_, ?_, ?_⟩
  · rw [receive_held, haccounts.held]
  · rw [receive_waiting, List.length_eraseIdx_of_lt (by omega)]
    omega
  · rw [hkeys]
    exact haccounts.nodup
  · rw [hkeys, hclaimed]
    exact haccounts.perm

/-- An answer to an accounted call takes its key off both sides. -/
theorem Accounted.receive_own {place : Nat} {errand : Errand} (haccounts : desk.Accounted first)
    (hown : first ≤ place) (hplace : desk.waiting[place]? = some errand) (gateway : Gateway) :
    (desk.receive place errand gateway).1.Accounted first := by
  obtain ⟨hlength, herrand⟩ := List.getElem?_eq_some_iff.mp hplace
  -- The claimed keys are those of the errand and those that stay.
  have hsplit : (errand.current.key.toList ++
      (desk.receive place errand gateway).1.claimed first).Perm (desk.claimed first) := by
    have hown' : (desk.waiting.drop first)[place - first]? = some errand := by
      rw [List.getElem?_drop, Nat.add_sub_cancel' hown, hplace]
    obtain ⟨hplace', herrand'⟩ := List.getElem?_eq_some_iff.mp hown'
    have hperm := List.getElem_cons_eraseIdx_perm hplace'
    have hdrop : (desk.receive place errand gateway).1.waiting.drop first =
        (desk.waiting.drop first).eraseIdx (place - first) := by
      rw [receive_waiting, drop_eraseIdx_of_le hown hlength]
    have hmapped := hperm.filterMap fun errand ↦ errand.current.key
    rw [herrand', ← hdrop] at hmapped
    cases hkey : errand.current.key <;> simpa [claimed, hkey] using hmapped
  have hboth := hsplit.trans haccounts.perm
  have hnodup := hboth.nodup_iff.mpr haccounts.nodup
  refine ⟨?_, ?_, ?_, ?_⟩
  · rw [receive_held, haccounts.held]
  · rw [receive_waiting, List.length_eraseIdx_of_lt hlength]
    omega
  · rw [receive_engine haccounts.held, Engine.absorb_inFlight]
    exact haccounts.nodup.filter _
  · rw [receive_engine haccounts.held, Engine.absorb_inFlight]
    refine List.Perm.trans ?_ (hboth.filter _)
    cases hkey : errand.current.key with
    | none => simp
    | some key =>
      rw [hkey] at hnodup
      have hgone := (List.nodup_cons.mp hnodup).1
      have hstays : ((desk.receive place errand gateway).1.claimed first).filter
          (fun other ↦ some key ≠ some other) =
            (desk.receive place errand gateway).1.claimed first := by
        rw [List.filter_eq_self]
        intro other hmem
        have hne : key ≠ other := fun heq ↦ hgone (heq ▸ hmem)
        simpa using hne
      simp only [Option.toList_some, List.cons_append, List.nil_append]
      rw [List.filter_cons_of_neg (by simp), hstays]

theorem Accounted.of_same {other : Desk} (haccounts : desk.Accounted first)
    (hheld : other.held = desk.held) (hwaiting : other.waiting = desk.waiting)
    (hcatalog : other.engine.catalog = desk.engine.catalog) : other.Accounted first where
  held := hheld.trans haccounts.held
  first_le := hwaiting ▸ haccounts.first_le
  nodup := hcatalog ▸ haccounts.nodup
  perm := by
    rw [claimed, hwaiting, hcatalog]
    exact haccounts.perm

theorem Accounted.settle (haccounts : desk.Accounted first)
    (hcontinues : event.continues = true) (hspares : desk.Spares first (.settles event)) :
    (desk.settle event).Accounted (Turn.left first (.settles event)) := by
  cases event with
  | query text => exact haccounts.of_same rfl rfl (desk.engine.prepare_catalog text)
  | prepare text => exact haccounts.of_same rfl rfl (desk.engine.prepare_catalog text)
  | select suggestion | take suggestion =>
    obtain ⟨session, hselect⟩ := desk.engine.select_engine suggestion
    exact haccounts.of_same rfl rfl (by simp only [Desk.settle, hselect])
  | resolve requests => exact haccounts
  | spawn requests => exact haccounts
  | close => exact haccounts.of_same rfl rfl rfl
  | reset => simp [Event.continues] at hcontinues
  | drop => simp [Event.continues] at hcontinues
  | answer place gateway =>
    simp only [Desk.settle, Turn.left]
    cases hplace : desk.waiting[place]? with
    | none =>
      have hbeyond := List.getElem?_eq_none_iff.mp hplace
      have hle := haccounts.first_le
      rw [if_neg (by omega)]
      exact haccounts
    | some errand =>
      split_ifs with holder
      · exact haccounts.receive_older holder (hspares.unaffected holder hplace).1 gateway
      · exact haccounts.receive_own (Nat.le_of_not_lt holder) hplace gateway

/-- One turn of a session keeps the accounts. -/
theorem Accounted.turn {turn : Turn} (haccounts : desk.Accounted first)
    (hcontinues : turn.continues = true) (hspares : desk.Spares first turn) :
    (desk.turn turn).Accounted (turn.left first) := by
  cases turn with
  | settles event => exact haccounts.settle hcontinues hspares
  | claims errand =>
    rcases desk.turn_claims_cases errand with hturn | ⟨hfree, hturn⟩
    · rw [hturn]
      exact haccounts
    · rw [hturn]
      exact haccounts.enlist hfree

/-- A run of turns of a session keeps the accounts. -/
theorem Accounted.turns {course : List Turn} (haccounts : desk.Accounted first)
    (hcontinues : ∀ turn ∈ course, turn.continues = true)
    (hspares : desk.SparesThroughout first course) :
    (desk.turns course).Accounted (remaining first course) := by
  induction course generalizing desk first with
  | nil => exact haccounts
  | cons turn course ih =>
    obtain ⟨hturn, hcourse⟩ := hspares
    exact ih (haccounts.turn (hcontinues turn List.mem_cons_self) hturn)
      (fun other hother ↦ hcontinues other (List.mem_cons_of_mem turn hother)) hcourse

theorem Accounted.settled (haccounts : desk.Accounted 0) (hcontinues : event.continues = true) :
    (desk.settle event).Accounted 0 := by
  have hleft : Turn.left 0 (.settles event) = 0 := remaining_zero [.settles event]
  have hsettled := haccounts.settle hcontinues (desk.sparesThroughout_zero [.settles event]).1
  rwa [hleft] at hsettled

theorem Accounted.step (haccounts : desk.Accounted 0) (hcontinues : event.continues = true) :
    (desk.step event).1.Accounted 0 := by
  have hsettled := haccounts.settled hcontinues
  rcases desk.step_cases event with hstep | ⟨errand, -, hfree, hstep⟩
  · rw [hstep]
    exact hsettled
  · rw [hstep]
    exact hsettled.enlist hfree

/-- From an open desk on, all calls are accounted for. -/
theorem accounted_turns_opened (settings : Settings) {course : List Turn}
    (hcontinues : ∀ turn ∈ course, turn.continues = true) :
    ((opened settings).turns course).Accounted 0 := by
  have hturns := (accounted_opened settings).turns hcontinues (sparesThroughout_zero _ course)
  rwa [remaining_zero] at hturns

/-- The calls that wait for the index list or for the fields of an index have distinct keys, and
the keys in flight are exactly theirs. -/
def SingleFlight (desk : Desk) : Prop :=
  desk.outstanding.Nodup ∧ desk.outstanding.Perm desk.engine.catalog.inFlight

theorem Accounted.singleFlight (haccounts : desk.Accounted 0) : desk.SingleFlight := by
  have hperm : desk.outstanding.Perm desk.engine.catalog.inFlight := haccounts.perm
  exact ⟨hperm.nodup_iff.mpr haccounts.nodup, hperm⟩

/-- Every state of a session has single flight. A run of turns may read queries, take
suggestions, close the engine, claim any request for any errand, and answer any call with any
outcome, in any order; a run of steps is one in which every errand claims as soon as it can. -/
theorem single_flight (settings : Settings) :
    (∀ course, (∀ turn ∈ course, turn.continues = true) →
        ((opened settings).turns course).SingleFlight) ∧
      ∀ events, (∀ event ∈ events, event.continues = true) →
        ((opened settings).run events).SingleFlight := by
  constructor
  · intro course hcontinues
    exact (accounted_turns_opened settings hcontinues).singleFlight
  · intro events hcontinues
    obtain ⟨course, hrun, hcourse⟩ := (opened settings).run_eq_turns events
    rw [hrun]
    refine (accounted_turns_opened settings fun turn hturn ↦ ?_).singleFlight
    rcases hcourse turn hturn with ⟨event, hevent, rfl⟩ | ⟨errand, rfl⟩
    · exact hcontinues event hevent
    · rfl

/-- Two queries are read before either of them claims, so both ask for the index list; a third
errand asks for fields. Then the engine is closed and the call for the list fails. -/
def overlapping : List Turn :=
  [.settles (.query "s"), .settles (.query "se"),
    .claims ⟨none, .background, .indices, [.fields "logs"], []⟩,
    .claims ⟨none, .sample, .indices, [], []⟩,
    .claims ⟨none, .sample, .fields "logs", [], []⟩,
    .settles .close, .settles (.answer 0 .silent)]

/-- A background errand for fields meets a query that has the index list under way, and then both
are answered on a closed engine. -/
def interrupted : List Event :=
  [.query "s", .spawn [.indices, .fields "logs"], .close, .answer 0 (.stocked ["logs"]),
    .answer 0 .silent]

theorem single_flight_overlapping :
    (∀ turn ∈ overlapping, turn.continues = true) ∧
      ((opened {}).turns overlapping).outstanding = [.fields "logs"] ∧
      ((opened {}).turns overlapping).SingleFlight ∧
      (∀ event ∈ interrupted, event.continues = true) ∧
      ((opened {}).run interrupted).SingleFlight := by
  have hturns : ∀ turn ∈ overlapping, turn.continues = true := by decide
  have hevents : ∀ event ∈ interrupted, event.continues = true := by decide
  exact ⟨hturns, by decide +kernel, (single_flight {}).1 overlapping hturns, hevents,
    (single_flight {}).2 interrupted hevents⟩

end PipedQuery.Desk
