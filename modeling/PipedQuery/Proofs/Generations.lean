import Mathlib.Data.List.InsertIdx
import Mathlib.Data.List.Perm.Basic
import PipedQuery.Proofs.Course

/-!
The order of batches. Every query that is started gets the next number of a count that nothing else
touches, and its batch keeps this number until it is handed over, whatever happens in between and in
whichever order the answers come.

A `Ledger` is a desk with the place in the run of the event that started each errand on it, and with
the batches that were handed over, each with the place of its query. Its invariant is `Faithful`:
the count is the number of queries started so far, every batch on its way or handed over is stamped
with the number of queries started up to its own (`Dates`), and no place stands twice. One step
keeps it (`Faithful.step`), so every run does, and the order of batches is read off from it
(`generations_order_batches`).
-/

set_option autoImplicit false
set_option relaxedAutoImplicit false

namespace PipedQuery

/-! ### Queries that are started -/

namespace Event

/-- The query that the event starts. -/
def started : Event → Option String
  | .query text | .prepare text => some text
  | _ => none

/-- The number of queries that are started in a run. -/
def starts (events : List Event) : Nat :=
  events.countP (·.started.isSome)

theorem starts_append (before after : List Event) :
    starts (before ++ after) = starts before + starts after :=
  List.countP_append

/-- The place is that of the event which starts the query of the stamp, and the number on the stamp
counts the queries up to that one. -/
def Dates (events : List Event) (place : Nat) (stamp : String × UInt64) : Prop :=
  events[place]?.bind started = some stamp.1 ∧
    stamp.2 = UInt64.ofNat (starts (events.take (place + 1)))

namespace Dates

variable {events : List Event} {place : Nat} {stamp : String × UInt64}

theorem lt_length (hdates : Dates events place stamp) : place < events.length := by
  obtain ⟨event, hevent, -⟩ := Option.bind_eq_some_iff.mp hdates.1
  exact (List.getElem?_eq_some_iff.mp hevent).1

theorem append (hdates : Dates events place stamp) (more : List Event) :
    Dates (events ++ more) place stamp := by
  have hplace := hdates.lt_length
  rw [Dates, List.getElem?_append_left hplace, List.take_append_of_le_length hplace]
  exact hdates

end Dates

/-- The query of a new event is stamped with the next number. -/
theorem dates_concat {event : Event} {text : String} (hstarted : event.started = some text)
    (events : List Event) :
    Dates (events ++ [event]) events.length (text, UInt64.ofNat (starts events) + 1) := by
  have hone : starts [event] = 1 := by simp [starts, hstarted]
  refine ⟨by simp [hstarted], ?_⟩
  rw [List.take_of_length_le (by simp), starts_append, hone, UInt64.ofNat_add]
  rfl

/-- A query that is started later counts the earlier one. -/
theorem starts_lt_of_dates {events : List Event} {first last : Nat} {stamp : String × UInt64}
    (hlast : Dates events last stamp) (hlater : first < last) :
    starts (events.take (first + 1)) < starts (events.take (last + 1)) := by
  obtain ⟨event, hevent, hstarted⟩ := Option.bind_eq_some_iff.mp hlast.1
  have htake : events.take (last + 1) = events.take last ++ [event] := by
    rw [List.take_add_one, hevent]
    rfl
  have hone : starts [event] = 1 := by simp [starts, hstarted]
  have hfewer : starts (events.take (first + 1)) ≤ starts (events.take last) :=
    List.Sublist.countP_le (List.take_sublist_take_left hlater)
  rw [htake, starts_append, hone]
  omega

/-- While the count has not run through all its numbers, the stamps of queries are in the order in
which the queries were started. -/
theorem Dates.lt_iff {events : List Event} {first last : Nat} {stamp other : String × UInt64}
    (hfew : starts events < UInt64.size) (hfirst : Dates events first stamp)
    (hlast : Dates events last other) : first < last ↔ stamp.2 < other.2 := by
  have hbound (place : Nat) : starts (events.take place) < UInt64.size :=
    Nat.lt_of_le_of_lt (List.take_sublist place events).countP_le hfew
  rw [hfirst.2, hlast.2, UInt64.ofNat_lt_iff_lt (hbound _) (hbound _)]
  constructor
  · exact starts_lt_of_dates hlast
  · intro hfewer
    by_contra hnot
    rcases Nat.eq_or_lt_of_le (Nat.le_of_not_lt hnot) with rfl | hbefore
    · exact absurd hfewer (Nat.lt_irrefl _)
    · exact absurd (starts_lt_of_dates hfirst hbefore) (Nat.lt_asymm hfewer)

theorem starts_eq_zero_iff {events : List Event} :
    starts events = 0 ↔ ∀ place : Nat, events[place]?.bind started = none := by
  rw [starts, List.countP_eq_zero]
  constructor
  · intro hnone place
    rw [Option.bind_eq_none_iff]
    intro event hevent
    simpa using hnone event (List.mem_of_getElem? hevent)
  · intro hnone event hevent
    obtain ⟨place, hplace⟩ := List.mem_iff_getElem?.mp hevent
    simpa [hplace] using hnone place

/-- The count still is at the number of a query exactly if no query was started after that one. -/
theorem Dates.eq_iff {events : List Event} {place : Nat} {stamp : String × UInt64}
    (hfew : starts events < UInt64.size) (hdates : Dates events place stamp) :
    UInt64.ofNat (starts events) = stamp.2 ↔
      ∀ later, place < later → events[later]?.bind started = none := by
  have hsplit : starts events =
      starts (events.take (place + 1)) + starts (events.drop (place + 1)) := by
    rw [← starts_append, List.take_append_drop]
  have hfirst : starts (events.take (place + 1)) < UInt64.size := by omega
  rw [hdates.2, ← UInt64.toNat_inj, UInt64.toNat_ofNat_of_lt' hfew,
    UInt64.toNat_ofNat_of_lt' hfirst, hsplit, Nat.add_eq_left, starts_eq_zero_iff]
  constructor
  · intro hnone later hlater
    have hshifted := hnone (later - (place + 1))
    rwa [List.getElem?_drop, Nat.add_sub_cancel' hlater] at hshifted
  · intro hnone later
    rw [List.getElem?_drop]
    exact hnone _ (by omega)

end Event

/-! ### Stamps on batches -/

/-- The query of a batch and its place in the order of queries. -/
def Batch.stamp (batch : Batch) : String × UInt64 :=
  (batch.input, batch.generation)

/-- The stamp of the batch that an errand is to finish. -/
def Purpose.stamp : Purpose → Option (String × UInt64)
  | .batch prepared => some prepared.stamp
  | _ => none

namespace Finding

def batch? : Finding → Option Batch
  | .batch made => some made
  | _ => none

def stamp (found : Finding) : Option (String × UInt64) :=
  found.batch?.map Batch.stamp

end Finding

namespace Engine

theorem prepare_generation (engine : Engine) (text : String) :
    (engine.prepare text).engine.generation = engine.generation + 1 := by
  unfold prepare
  dsimp only
  split_ifs <;> rfl

theorem prepare_stamp (engine : Engine) (text : String) :
    (engine.prepare text).batch.stamp = (text, engine.generation + 1) := by
  unfold prepare
  dsimp only
  split_ifs <;> rfl

theorem complete_stamp (engine : Engine) (batch : Batch) (sample : List SampledValue) :
    (engine.complete batch sample).stamp = batch.stamp := by
  unfold complete
  split_ifs <;> rfl

theorem isCurrent_iff {engine : Engine} {batch : Batch} :
    engine.isCurrent batch = true ↔ engine.generation = batch.generation :=
  decide_eq_true_iff

theorem absorb_generation (engine : Engine) (request : Request) (answer : Except Fault Fetched) :
    (engine.absorb request answer).1.generation = engine.generation := by
  rcases absorb_cases engine request answer with habsorb | ⟨fetched, -, -, habsorb⟩
  · rw [habsorb, release_eq]
  · rw [habsorb, release_eq]
    cases fetched <;> rfl

end Engine

theorem Purpose.finding_stamp (purpose : Purpose) (engine : Engine)
    (sample : List SampledValue) : (purpose.finding engine sample).stamp = purpose.stamp := by
  cases purpose with
  | batch prepared => exact congrArg some (engine.complete_stamp prepared sample)
  | sample => rfl
  | background => rfl

namespace Desk

/-- The count of queries moves on with every query that is started, and with nothing else. -/
theorem step_generation (desk : Desk) (event : Event) :
    (desk.step event).1.engine.generation =
      desk.engine.generation + UInt64.ofNat (Event.starts [event]) := by
  have hsettle : (desk.settle event).engine.generation =
      desk.engine.generation + UInt64.ofNat (Event.starts [event]) := by
    cases event with
    | query text => exact desk.engine.prepare_generation text
    | prepare text => exact desk.engine.prepare_generation text
    | select suggestion | take suggestion =>
      obtain ⟨session, hselect⟩ := desk.engine.select_engine suggestion
      simp [settle, hselect, Event.starts, Event.started]
    | answer place gateway =>
      simp only [settle, Event.starts, Event.started]
      cases desk.waiting[place]? with
      | none => simp
      | some errand =>
        rcases desk.receive_engine_cases place errand gateway with hengine | hengine
        · simp [hengine]
        · simp [hengine, Engine.absorb_generation]
    | _ => simp [settle, Event.starts, Event.started, Engine.reset, Engine.close]
  rcases desk.step_cases event with hstep | ⟨errand, -, -, hstep⟩
  · rw [hstep, hsettle]
  · rw [hstep, ← hsettle]
    rfl

/-- The stamp of the batch that an event is about: that of the query which it starts, or of the
errand which it answers. -/
def stampAt (desk : Desk) : Event → Option (String × UInt64)
  | .query text | .prepare text => some (text, desk.engine.generation + 1)
  | .answer place _ => desk.waiting[place]?.bind (·.purpose.stamp)
  | _ => none

/-- The outcome leaves the errands as they were, perhaps with a finding under the stamp, or it adds
one errand under the stamp. -/
def Stamped (kept : List Errand) (stamp : Option (String × UInt64))
    (outcome : Desk × Option Finding) : Prop :=
  (outcome.1.waiting = kept ∧ ∀ found, outcome.2 = some found → found.stamp = stamp) ∨
    ∃ errand, errand.purpose.stamp = stamp ∧ outcome.1.waiting = kept ++ [errand] ∧
      outcome.2 = none

theorem stamped_found (desk : Desk) {found : Finding} {stamp : Option (String × UInt64)}
    (hstamp : found.stamp = stamp) : Stamped desk.waiting stamp (desk, some found) := by
  refine Or.inl ⟨rfl, ?_⟩
  intro other hother
  obtain rfl := Option.some.inj hother
  exact hstamp

theorem stamped_carryOn (desk : Desk) (ticket : Option Nat) (purpose : Purpose)
    (queue : List Request) (sample : List SampledValue) :
    Stamped desk.waiting purpose.stamp (desk.carryOn ticket purpose queue sample) := by
  rcases desk.carryOn_cases ticket purpose queue sample with
    hcarry | ⟨request, rest, -, -, hcarry⟩
  · rw [hcarry]
    exact stamped_found desk (purpose.finding_stamp desk.engine sample)
  · rw [hcarry]
    exact Or.inr ⟨_, rfl, rfl, rfl⟩

theorem stamped_step (desk : Desk) (event : Event) :
    Stamped (desk.kept event) (desk.stampAt event) (desk.step event) := by
  cases event with
  | query text =>
    have hstamp := desk.engine.prepare_stamp text
    simp only [step, ask, stampAt]
    split_ifs
    · exact stamped_found _ (congrArg some hstamp)
    · rw [← hstamp]
      exact stamped_carryOn _ none (.batch _) _ []
  | prepare text => exact stamped_found _ (congrArg some (desk.engine.prepare_stamp text))
  | resolve requests => exact stamped_carryOn _ _ _ _ _
  | spawn requests => exact stamped_carryOn _ _ _ _ _
  | take suggestion => exact stamped_carryOn _ _ _ _ _
  | answer place gateway =>
    simp only [step, answer, stampAt]
    cases hplace : desk.waiting[place]? with
    | none =>
      refine Or.inl ⟨?_, by simp⟩
      exact (List.eraseIdx_of_length_le (List.getElem?_eq_none_iff.mp hplace)).symm
    | some errand =>
      have hkept := desk.receive_waiting place errand gateway
      rw [kept, ← hkept]
      exact stamped_carryOn _ _ _ _ _
  | select suggestion => exact Or.inl ⟨rfl, by simp [step]⟩
  | reset => exact Or.inl ⟨rfl, by simp [step]⟩
  | close => exact Or.inl ⟨rfl, by simp [step]⟩
  | drop => exact Or.inl ⟨rfl, by simp [step]⟩

/-- The batches that are handed over in a run. -/
def handed (desk : Desk) : List Event → List Batch
  | [] => []
  | event :: rest =>
    ((desk.step event).2.bind Finding.batch?).toList ++ handed (desk.step event).1 rest

end Desk

/-! ### A desk with its history -/

structure Ledger where
  desk : Desk
  /-- The errands on the desk, each with the place in the run of the event that started it. -/
  owned : List (Nat × Errand) := []
  /-- The batches that were handed over, each with the place of the event that started its query. -/
  issued : List (Nat × Batch) := []
  /-- The number of events so far. -/
  clock : Nat := 0

namespace Ledger

variable {ledger : Ledger} {events : List Event}

def opened (settings : Settings) : Ledger :=
  { desk := .opened settings }

/-- The place of the event that started what an event is about. An answer is about the errand that
it answers, and any other event is about what it starts itself. -/
def origin (ledger : Ledger) : Event → Nat
  | .answer place _ => (ledger.owned[place]?.map Prod.fst).getD ledger.clock
  | _ => ledger.clock

/-- The errands that an event leaves on the desk. -/
def kept (ledger : Ledger) : Event → List (Nat × Errand)
  | .answer place _ => ledger.owned.eraseIdx place
  | _ => ledger.owned

def step (ledger : Ledger) (event : Event) : Ledger where
  desk := (ledger.desk.step event).1
  owned := ledger.kept event ++
    ((ledger.desk.step event).1.waiting.drop (ledger.kept event).length).map
      (ledger.origin event, ·)
  issued := ledger.issued ++
    ((ledger.desk.step event).2.bind Finding.batch?).toList.map (ledger.origin event, ·)
  clock := ledger.clock + 1

def run (ledger : Ledger) (events : List Event) : Ledger :=
  events.foldl step ledger

theorem run_desk (ledger : Ledger) (events : List Event) :
    (ledger.run events).desk = ledger.desk.run events := by
  induction events generalizing ledger with
  | nil => rfl
  | cons event events ih => exact ih (ledger.step event)

theorem run_issued (ledger : Ledger) (events : List Event) :
    (ledger.run events).issued.map Prod.snd =
      ledger.issued.map Prod.snd ++ ledger.desk.handed events := by
  induction events generalizing ledger with
  | nil => simp [run, Desk.handed]
  | cons event events ih =>
    have hstep := ih (ledger.step event)
    simp only [run, List.foldl_cons] at hstep ⊢
    rw [hstep]
    simp [step, Desk.handed, Function.comp_def]

/-- The places that the ledger knows of. -/
def places (ledger : Ledger) : List Nat :=
  ledger.owned.map Prod.fst ++ ledger.issued.map Prod.fst

/-- The ledger is true to the run of these events. -/
structure Faithful (events : List Event) (ledger : Ledger) : Prop where
  clock : ledger.clock = events.length
  count : ledger.desk.engine.generation = UInt64.ofNat (Event.starts events)
  errands : ledger.owned.map Prod.snd = ledger.desk.waiting
  distinct : ledger.places.Nodup
  past : ∀ place ∈ ledger.places, place < events.length
  waiting : ∀ entry ∈ ledger.owned, ∀ stamp, entry.2.purpose.stamp = some stamp →
    Event.Dates events entry.1 stamp
  issued : ∀ entry ∈ ledger.issued, Event.Dates events entry.1 entry.2.stamp

theorem faithful_opened (settings : Settings) : (opened settings).Faithful [] where
  clock := rfl
  count := rfl
  errands := rfl
  distinct := List.nodup_nil
  past := by simp [opened, places]
  waiting := by simp [opened]
  issued := by simp [opened]

/-- An event is about an errand that it takes off the desk, or about something new. -/
theorem origin_cases (ledger : Ledger) (event : Event) :
    (ledger.kept event = ledger.owned ∧ ledger.origin event = ledger.clock) ∨
      ∃ place gateway errand, event = .answer place gateway ∧
        ledger.owned[place]? = some (ledger.origin event, errand) ∧
        ledger.kept event = ledger.owned.eraseIdx place := by
  cases event with
  | answer place gateway =>
    cases howned : ledger.owned[place]? with
    | none =>
      refine Or.inl ⟨?_, by simp [origin, howned]⟩
      exact List.eraseIdx_of_length_le (List.getElem?_eq_none_iff.mp howned)
    | some entry =>
      refine Or.inr ⟨place, gateway, entry.2, rfl, ?_, rfl⟩
      rw [howned]
      simp [origin, howned]
  | _ => exact Or.inl ⟨rfl, rfl⟩

namespace Faithful

theorem kept_errands (hfaithful : ledger.Faithful events) (event : Event) :
    (ledger.kept event).map Prod.snd = ledger.desk.kept event := by
  cases event with
  | answer place gateway =>
    rw [kept, Desk.kept, ← hfaithful.errands, List.eraseIdx_map]
  | _ => exact hfaithful.errands

theorem length_kept (hfaithful : ledger.Faithful events) (event : Event) :
    (ledger.kept event).length = (ledger.desk.kept event).length := by
  rw [← hfaithful.kept_errands, List.length_map]

/-- The place that an event is about stands nowhere else, once the event has happened. -/
theorem nodup_origin (hfaithful : ledger.Faithful events) (event : Event) :
    (ledger.origin event ::
      ((ledger.kept event).map Prod.fst ++ ledger.issued.map Prod.fst)).Nodup := by
  rcases ledger.origin_cases event with ⟨hsame, hnew⟩ | ⟨place, _, errand, -, howned, herased⟩
  · rw [hsame, hnew, hfaithful.clock, List.nodup_cons]
    refine ⟨?_, hfaithful.distinct⟩
    intro hmem
    exact absurd (hfaithful.past _ hmem) (Nat.lt_irrefl _)
  · -- The place of the errand that is answered moves to the front.
    obtain ⟨hplace, hentry⟩ := List.getElem?_eq_some_iff.mp howned
    have hperm := (List.getElem_cons_eraseIdx_perm hplace).map Prod.fst
    rw [hentry, List.map_cons, ← herased] at hperm
    exact ((hperm.append_right _).nodup_iff).mpr hfaithful.distinct

/-- The place that an event is about dates the batch that it is about. -/
theorem dates_origin (hfaithful : ledger.Faithful events) {event : Event} {stamp : String × UInt64}
    (hstamp : ledger.desk.stampAt event = some stamp) :
    Event.Dates (events ++ [event]) (ledger.origin event) stamp := by
  cases event with
  | query text | prepare text =>
    obtain rfl := Option.some.inj hstamp
    change Event.Dates _ ledger.clock _
    rw [hfaithful.count, hfaithful.clock]
    exact Event.dates_concat rfl events
  | answer place gateway =>
    obtain ⟨errand, hplace, hpurpose⟩ := Option.bind_eq_some_iff.mp hstamp
    rw [← hfaithful.errands, List.getElem?_map] at hplace
    obtain ⟨entry, howned, rfl⟩ := Option.map_eq_some_iff.mp hplace
    have hentry : ledger.origin (.answer place gateway) = entry.1 := by simp [origin, howned]
    rw [hentry]
    exact (hfaithful.waiting entry (List.mem_of_getElem? howned) stamp hpurpose).append _
  | _ => cases hstamp

/-- What a step writes into the ledger: nothing, or a batch that is handed over, or an errand that
waits. -/
theorem step_cases (hfaithful : ledger.Faithful events) (event : Event) :
    ((ledger.step event).owned = ledger.kept event ∧
        (ledger.step event).issued = ledger.issued) ∨
      (∃ batch, ledger.desk.stampAt event = some batch.stamp ∧
        (ledger.step event).owned = ledger.kept event ∧
        (ledger.step event).issued = ledger.issued ++ [(ledger.origin event, batch)]) ∨
      ∃ errand, errand.purpose.stamp = ledger.desk.stampAt event ∧
        (ledger.step event).owned = ledger.kept event ++ [(ledger.origin event, errand)] ∧
        (ledger.step event).issued = ledger.issued := by
  have hlength := hfaithful.length_kept event
  rcases ledger.desk.stamped_step event with ⟨hwaiting, hfound⟩ | ⟨errand, hstamp, hwaiting, hnone⟩
  · have howned : (ledger.step event).owned = ledger.kept event := by
      simp [step, hwaiting, hlength]
    cases hbatch : (ledger.desk.step event).2.bind Finding.batch? with
    | none => exact Or.inl ⟨howned, by simp [step, hbatch]⟩
    | some batch =>
      obtain ⟨found, hstep, hmade⟩ := Option.bind_eq_some_iff.mp hbatch
      refine Or.inr (Or.inl ⟨batch, ?_, howned, by simp [step, hbatch]⟩)
      rw [← hfound found hstep, Finding.stamp, hmade, Option.map_some]
  · refine Or.inr (Or.inr ⟨errand, hstamp, ?_, by simp [step, hnone]⟩)
    simp [step, hwaiting, hlength]

theorem kept_subset (ledger : Ledger) (event : Event) : ledger.kept event ⊆ ledger.owned := by
  cases event with
  | answer place gateway => exact List.eraseIdx_subset
  | _ => exact List.Subset.refl _

theorem origin_le (hfaithful : ledger.Faithful events) (event : Event) :
    ledger.origin event ≤ events.length := by
  rcases ledger.origin_cases event with ⟨-, hnew⟩ | ⟨place, _, errand, -, howned, -⟩
  · exact Nat.le_of_eq (hnew.trans hfaithful.clock)
  · refine Nat.le_of_lt (hfaithful.past _ (List.mem_append_left _ ?_))
    exact List.mem_map.mpr ⟨_, List.mem_of_getElem? howned, rfl⟩

/-- A step writes no place but the one that its event is about, and that one once. -/
theorem places_step (hfaithful : ledger.Faithful events) (event : Event) :
    (ledger.step event).places.Subperm
      (ledger.origin event ::
        ((ledger.kept event).map Prod.fst ++ ledger.issued.map Prod.fst)) := by
  unfold places
  rcases hfaithful.step_cases event with
    ⟨howned, hissued⟩ | ⟨batch, -, howned, hissued⟩ | ⟨errand, -, howned, hissued⟩
  · rw [howned, hissued]
    exact (List.sublist_cons_self _ _).subperm
  · rw [howned, hissued, List.map_append, ← List.append_assoc]
    exact (List.perm_append_singleton _ _).subperm
  · rw [howned, hissued, List.map_append, List.append_assoc]
    exact List.perm_middle.subperm

/-- One step keeps the ledger. -/
theorem step (hfaithful : ledger.Faithful events) (event : Event) :
    (ledger.step event).Faithful (events ++ [event]) where
  clock := by rw [Ledger.step, hfaithful.clock, List.length_append, List.length_singleton]
  count := by
    rw [Ledger.step, Desk.step_generation, hfaithful.count, Event.starts_append, UInt64.ofNat_add]
  errands := by
    obtain ⟨fresh, hfresh⟩ := ledger.desk.step_waiting event
    simp [Ledger.step, hfresh, hfaithful.length_kept, hfaithful.kept_errands, Function.comp_def]
  distinct := by
    obtain ⟨list, hperm, hsublist⟩ := hfaithful.places_step event
    exact hperm.nodup_iff.mp ((hfaithful.nodup_origin event).sublist hsublist)
  past := by
    intro place hplace
    rw [List.length_append, List.length_singleton]
    rcases List.mem_cons.mp ((hfaithful.places_step event).subset hplace) with rfl | hmem
    · exact Nat.lt_succ_of_le (hfaithful.origin_le event)
    · have hold : place ∈ ledger.places := by
        rcases List.mem_append.mp hmem with howned | hissued
        · exact List.mem_append_left _ (List.map_subset _ (kept_subset ledger event) howned)
        · exact List.mem_append_right _ hissued
      exact Nat.lt_succ_of_lt (hfaithful.past place hold)
  waiting := by
    intro entry hentry stamp hstamp
    have hold : entry ∈ ledger.kept event → Event.Dates (events ++ [event]) entry.1 stamp :=
      fun hmem ↦ (hfaithful.waiting entry (kept_subset ledger event hmem) stamp hstamp).append _
    rcases hfaithful.step_cases event with
      ⟨howned, -⟩ | ⟨-, -, howned, -⟩ | ⟨errand, hnew, howned, -⟩
    · exact hold (howned ▸ hentry)
    · exact hold (howned ▸ hentry)
    · rw [howned, List.mem_append, List.mem_singleton] at hentry
      rcases hentry with hmem | rfl
      · exact hold hmem
      · exact hfaithful.dates_origin (hnew ▸ hstamp)
  issued := by
    intro entry hentry
    have hold : entry ∈ ledger.issued →
        Event.Dates (events ++ [event]) entry.1 entry.2.stamp :=
      fun hmem ↦ (hfaithful.issued entry hmem).append _
    rcases hfaithful.step_cases event with
      ⟨-, hissued⟩ | ⟨batch, hnew, -, hissued⟩ | ⟨-, -, -, hissued⟩
    · exact hold (hissued ▸ hentry)
    · rw [hissued, List.mem_append, List.mem_singleton] at hentry
      rcases hentry with hmem | rfl
      · exact hold hmem
      · exact hfaithful.dates_origin hnew
    · exact hold (hissued ▸ hentry)

end Faithful

/-- Every run keeps the ledger. -/
theorem faithful_run (settings : Settings) (events : List Event) :
    ((opened settings).run events).Faithful events := by
  induction events using List.reverseRecOn with
  | nil => exact faithful_opened settings
  | append_singleton events event ih =>
    rw [run, List.foldl_append]
    exact ih.step event

namespace Faithful

variable (hfaithful : ledger.Faithful events) (hfew : Event.starts events < UInt64.size)

include hfaithful hfew

/-- Batches are in the order of the places of their queries. -/
theorem place_lt_iff {first last : Nat × Batch} (hfirst : first ∈ ledger.issued)
    (hlast : last ∈ ledger.issued) :
    first.1 < last.1 ↔ first.2.generation < last.2.generation :=
  (hfaithful.issued first hfirst).lt_iff hfew (hfaithful.issued last hlast)

theorem eq_of_generation {entry other : Nat × Batch} (hentry : entry ∈ ledger.issued)
    (hother : other ∈ ledger.issued) (hsame : entry.2.generation = other.2.generation) :
    entry = other := by
  have hbefore : ¬ entry.1 < other.1 := by
    rw [hfaithful.place_lt_iff hfew hentry hother, hsame]
    exact UInt64.lt_irrefl _
  have hbehind : ¬ other.1 < entry.1 := by
    rw [hfaithful.place_lt_iff hfew hother hentry, hsame]
    exact UInt64.lt_irrefl _
  exact List.inj_on_of_nodup_map hfaithful.distinct.of_append_right hentry hother (by omega)

/-- Of all the batches that were handed over at most one is current. -/
theorem current_unique :
    (ledger.issued.filter fun entry ↦ ledger.desk.engine.isCurrent entry.2).length ≤ 1 := by
  have hnodup : (ledger.issued.filter fun entry ↦ ledger.desk.engine.isCurrent entry.2).Nodup :=
    (hfaithful.distinct.of_append_right.of_map _).filter _
  have hcurrent : ∀ entry ∈ ledger.issued.filter fun entry ↦
      ledger.desk.engine.isCurrent entry.2,
        entry ∈ ledger.issued ∧ ledger.desk.engine.generation = entry.2.generation := by
    intro entry hentry
    obtain ⟨hissued, hcurrent⟩ := List.mem_filter.mp hentry
    exact ⟨hissued, Engine.isCurrent_iff.mp hcurrent⟩
  generalize ledger.issued.filter (fun entry ↦ ledger.desk.engine.isCurrent entry.2) = current
    at hnodup hcurrent
  match current with
  | [] | [_] => simp
  | entry :: other :: rest =>
    -- Both have the number at which the count stands, so they belong to one query.
    obtain ⟨hentry, hgeneration⟩ := hcurrent entry (by simp)
    obtain ⟨hother, hsame⟩ := hcurrent other (by simp)
    have hequal : entry = other :=
      hfaithful.eq_of_generation hfew hentry hother (hgeneration.symm.trans hsame)
    simp [hequal] at hnodup

end Faithful

/-- In a run of fewer than 2^64 queries the batches that are handed over, each the one batch of a
query that was started, have generations in the order in which their queries were started. A batch
is current exactly while no query is started after its own, so that at most one is current. -/
theorem generations_order_batches (settings : Settings) {events : List Event}
    (hfew : Event.starts events < UInt64.size) :
    ∃ ledger, ledger = (opened settings).run events ∧
      ledger.desk = (Desk.opened settings).run events ∧
      ledger.issued.map Prod.snd = (Desk.opened settings).handed events ∧
      (ledger.issued.map Prod.fst).Nodup ∧
      (∀ entry ∈ ledger.issued, events[entry.1]?.bind Event.started = some entry.2.input) ∧
      (∀ first ∈ ledger.issued, ∀ last ∈ ledger.issued,
        first.1 < last.1 ↔ first.2.generation < last.2.generation) ∧
      (∀ entry ∈ ledger.issued, ledger.desk.engine.isCurrent entry.2 = true ↔
        ∀ later, entry.1 < later → events[later]?.bind Event.started = none) ∧
      (ledger.issued.filter fun entry ↦ ledger.desk.engine.isCurrent entry.2).length ≤ 1 := by
  have hfaithful := faithful_run settings events
  refine ⟨_, rfl, run_desk _ events, run_issued _ events, ?_, ?_, ?_, ?_, ?_⟩
  · exact hfaithful.distinct.of_append_right
  · exact fun entry hentry ↦ (hfaithful.issued entry hentry).1
  · exact fun first hfirst last hlast ↦ hfaithful.place_lt_iff hfew hfirst hlast
  · intro entry hentry
    rw [Engine.isCurrent_iff, hfaithful.count]
    exact (hfaithful.issued entry hentry).eq_iff hfew
  · exact hfaithful.current_unique hfew

/-- Two queries wait when a third is read at once; the second is answered first, and the first after
the engine was closed. -/
def crossed : List Event :=
  [.query "s", .reset, .query "so", .prepare "source", .answer 1 (.stocked ["logs"]), .close,
    .answer 0 .silent, .query "t"]

/-- The batches come in another order than their queries, and the last of these is current. -/
theorem generations_order_batches_crossed :
    Event.starts crossed < UInt64.size ∧
      ∃ ledger, ledger = (opened {}).run crossed ∧
        (ledger.issued.map fun entry ↦
          (entry.1, entry.2.generation, ledger.desk.engine.isCurrent entry.2)) =
            [(3, 3, false), (2, 2, false), (0, 1, false), (7, 4, true)] ∧
        (∀ first ∈ ledger.issued, ∀ last ∈ ledger.issued,
          first.1 < last.1 ↔ first.2.generation < last.2.generation) ∧
        (ledger.issued.filter fun entry ↦ ledger.desk.engine.isCurrent entry.2).length ≤ 1 := by
  have hfew : Event.starts crossed < UInt64.size := by decide
  obtain ⟨ledger, hledger, -, -, -, -, horder, -, hunique⟩ := generations_order_batches {} hfew
  refine ⟨hfew, ledger, hledger, ?_, horder, hunique⟩
  rw [hledger]
  decide +kernel

end Ledger
end PipedQuery
