import PipedQuery.Desk
import PipedQuery.Proofs.Fetch

/-!
The course of a desk. A step first settles: a query is read, a suggestion taken, an answer
received. Then at most one errand goes on, and it goes on by one claim, behind all the others
(`step_cases`). So nothing but an answer takes an errand off the desk, and the place of every
other errand is a function of the answers alone (`waiting_follow`).

Settling and claiming are the turns at the engine. In a run of turns anything may happen between
the reading of a query and its first claim, or between an answer and the next claim, and a
request may be claimed long after it was asked for. A run of steps is a run of turns
(`run_eq_turns`).

What everything that a desk can do to its engine keeps, every run keeps (`Lasting`). One such
property is that both copies of the index list hold the same names (`lasting_agrees`).
-/

set_option autoImplicit false
set_option relaxedAutoImplicit false

namespace PipedQuery

namespace Event

/-- The session goes on and the host keeps the engine. -/
def continues : Event → Bool
  | .reset | .drop => false
  | _ => true

/-- The engine stays open and the host keeps it. -/
def keepsOpen : Event → Bool
  | .close | .drop => false
  | _ => true

/-- Only queries and answers to their calls. -/
def isTyping : Event → Bool
  | .query _ | .answer _ _ => true
  | _ => false

/-- Where the errand at a place stands afterwards, unless it is the one that is answered. -/
def shift (place : Nat) : Event → Option Nat
  | .answer other _ =>
    if other = place then none else some (if other < place then place - 1 else place)
  | _ => some place

theorem continues_of_isTyping {event : Event} (htyping : event.isTyping = true) :
    event.continues = true := by
  cases event <;> simp_all [isTyping, continues]

theorem keepsOpen_of_isTyping {event : Event} (htyping : event.isTyping = true) :
    event.keepsOpen = true := by
  cases event <;> simp_all [isTyping, keepsOpen]

end Event

/-- One turn at the engine. -/
inductive Turn where
  | settles (event : Event)
  /-- The errand asks leave for its current request and waits if it gets it. -/
  | claims (errand : Errand)

namespace Turn

/-- The session goes on and the host keeps the engine. -/
def continues : Turn → Bool
  | .settles event => event.continues
  | .claims _ => true

/-- The engine stays open and the host keeps it. -/
def keepsOpen : Turn → Bool
  | .settles event => event.keepsOpen
  | .claims _ => true

/-- The errand that asks leave in the turn. -/
def claimant : Turn → Option Errand
  | .settles _ => none
  | .claims errand => some errand

/-- How many of the first `count` errands are left. -/
def left (count : Nat) : Turn → Nat
  | .settles (.answer place _) => if place < count then count - 1 else count
  | _ => count

end Turn

namespace Desk

variable {desk : Desk} {event : Event}

/-- A desk at which nothing has happened. -/
def opened (settings : Settings) : Desk :=
  { engine := { settings } }

/-- What a step does before any errand goes on. -/
def settle (desk : Desk) : Event → Desk
  | .query text | .prepare text => { desk with engine := (desk.engine.prepare text).engine }
  | .resolve _ | .spawn _ => desk
  | .select suggestion | .take suggestion =>
    { desk with engine := (desk.engine.select suggestion).engine }
  | .reset => { desk with engine := desk.engine.reset }
  | .close => { desk with engine := desk.engine.close }
  | .drop => { desk with held := false }
  | .answer place gateway =>
    match desk.waiting[place]? with
    | some errand => (desk.receive place errand gateway).1
    | none => desk

/-- The desk once an errand has claimed its request and waits behind the others. -/
def enlist (desk : Desk) (errand : Errand) : Desk :=
  { desk with
    engine := desk.engine.holding errand.current
    waiting := desk.waiting ++ [errand] }

def turn (desk : Desk) : Turn → Desk
  | .settles event => desk.settle event
  | .claims errand =>
    match desk.engine.claim errand.current with
    | .granted engine => { desk with engine, waiting := desk.waiting ++ [errand] }
    | _ => desk

/-- The desk after a run of turns. -/
def turns (desk : Desk) (course : List Turn) : Desk :=
  course.foldl turn desk

/-- The errands that an event leaves on the desk. -/
def kept (desk : Desk) : Event → List Errand
  | .answer place _ => desk.waiting.eraseIdx place
  | _ => desk.waiting

/-! ### One step -/

theorem carryOn_cases (desk : Desk) (ticket : Option Nat) (purpose : Purpose)
    (queue : List Request) (sample : List SampledValue) :
    desk.carryOn ticket purpose queue sample =
        (desk, some (purpose.finding desk.engine sample)) ∨
      ∃ request rest, desk.engine.closed = false ∧ desk.engine.Frees request ∧
        desk.carryOn ticket purpose queue sample =
          (desk.enlist ⟨ticket, purpose, request, rest, sample⟩, none) := by
  unfold carryOn
  rcases desk.engine.proceed_cases queue with hproceed | ⟨request, rest, hopen, hfree, hproceed⟩
  · exact Or.inl (by rw [hproceed])
  · exact Or.inr ⟨request, rest, hopen, hfree, by rw [hproceed]; rfl⟩

/-- What becomes of a desk when errands go on from a settled one. -/
def Advances (settled next : Desk) : Prop :=
  next = settled ∨ ∃ errand, settled.engine.closed = false ∧
    settled.engine.Frees errand.current ∧ next = settled.enlist errand

theorem advances_carryOn (desk : Desk) (ticket : Option Nat) (purpose : Purpose)
    (queue : List Request) (sample : List SampledValue) :
    Advances desk (desk.carryOn ticket purpose queue sample).1 := by
  rcases desk.carryOn_cases ticket purpose queue sample with
    hcarry | ⟨request, rest, hopen, hfree, hcarry⟩
  · exact Or.inl (by rw [hcarry])
  · exact Or.inr ⟨_, hopen, hfree, by rw [hcarry]⟩

/-- The whole of what a step can do: it settles, and then at most one errand claims a free
request and waits. -/
theorem step_cases (desk : Desk) (event : Event) :
    Advances (desk.settle event) (desk.step event).1 := by
  cases event with
  | query text =>
    simp only [step, ask, settle]
    split_ifs
    · exact Or.inl rfl
    · exact advances_carryOn _ _ _ _ _
  | resolve requests => exact advances_carryOn _ _ _ _ _
  | spawn requests => exact advances_carryOn _ _ _ _ _
  | take suggestion => exact advances_carryOn _ _ _ _ _
  | answer place gateway =>
    simp only [step, answer, settle]
    cases desk.waiting[place]? with
    | none => exact Or.inl rfl
    | some errand => exact advances_carryOn _ _ _ _ _
  | prepare text => exact Or.inl rfl
  | select suggestion => exact Or.inl rfl
  | reset => exact Or.inl rfl
  | close => exact Or.inl rfl
  | drop => exact Or.inl rfl

@[simp] theorem enlist_waiting (desk : Desk) (errand : Errand) :
    (desk.enlist errand).waiting = desk.waiting ++ [errand] := rfl

@[simp] theorem enlist_engine (desk : Desk) (errand : Errand) :
    (desk.enlist errand).engine = desk.engine.holding errand.current := rfl

@[simp] theorem enlist_held (desk : Desk) (errand : Errand) :
    (desk.enlist errand).held = desk.held := rfl

theorem receive_waiting (desk : Desk) (place : Nat) (errand : Errand) (gateway : Gateway) :
    (desk.receive place errand gateway).1.waiting = desk.waiting.eraseIdx place := by
  unfold receive
  dsimp only
  split_ifs <;> rfl

theorem receive_held (desk : Desk) (place : Nat) (errand : Errand) (gateway : Gateway) :
    (desk.receive place errand gateway).1.held = desk.held := by
  unfold receive
  dsimp only
  split_ifs <;> rfl

/-- While the host holds the engine no answer is lost. -/
theorem receive_engine (hheld : desk.held = true) (place : Nat) (errand : Errand)
    (gateway : Gateway) :
    (desk.receive place errand gateway).1.engine =
      (desk.engine.absorb errand.current (gateway.fetch errand.current)).1 := by
  have halive : desk.alive = true := by simp [alive, hheld]
  unfold receive
  rw [if_pos halive]

theorem receive_engine_cases (desk : Desk) (place : Nat) (errand : Errand) (gateway : Gateway) :
    (desk.receive place errand gateway).1.engine = desk.engine ∨
      (desk.receive place errand gateway).1.engine =
        (desk.engine.absorb errand.current (gateway.fetch errand.current)).1 := by
  unfold receive
  dsimp only
  split_ifs
  · exact Or.inr rfl
  · exact Or.inl rfl

theorem settle_waiting (desk : Desk) (event : Event) :
    (desk.settle event).waiting = desk.kept event := by
  cases event with
  | answer place gateway =>
    simp only [settle, kept]
    cases hplace : desk.waiting[place]? with
    | none => exact (List.eraseIdx_of_length_le (List.getElem?_eq_none_iff.mp hplace)).symm
    | some errand => exact desk.receive_waiting place errand gateway
  | _ => rfl

theorem settle_waiting_sublist (desk : Desk) (event : Event) :
    (desk.settle event).waiting.Sublist desk.waiting := by
  rw [settle_waiting]
  cases event with
  | answer place gateway => exact List.eraseIdx_sublist _ _
  | _ => exact List.Sublist.refl _

theorem settle_waiting_subset (desk : Desk) (event : Event) :
    (desk.settle event).waiting ⊆ desk.waiting :=
  (desk.settle_waiting_sublist event).subset

theorem step_waiting (desk : Desk) (event : Event) :
    ∃ fresh, (desk.step event).1.waiting = desk.kept event ++ fresh := by
  rcases desk.step_cases event with hstep | ⟨errand, _, _, hstep⟩
  · exact ⟨[], by rw [hstep, settle_waiting, List.append_nil]⟩
  · exact ⟨[errand], by rw [hstep, enlist_waiting, settle_waiting]⟩

theorem settle_held (hopen : event.keepsOpen = true) :
    (desk.settle event).held = desk.held := by
  cases event with
  | drop => simp [Event.keepsOpen] at hopen
  | answer place gateway =>
    simp only [settle]
    cases desk.waiting[place]? with
    | none => rfl
    | some errand => exact desk.receive_held place errand gateway
  | _ => rfl

theorem settle_settings (desk : Desk) (event : Event) :
    (desk.settle event).engine.settings = desk.engine.settings := by
  cases event with
  | query text => exact desk.engine.prepare_settings text
  | prepare text => exact desk.engine.prepare_settings text
  | select suggestion | take suggestion =>
    obtain ⟨session, hselect⟩ := desk.engine.select_engine suggestion
    simp only [settle, hselect]
  | answer place gateway =>
    simp only [settle]
    cases desk.waiting[place]? with
    | none => rfl
    | some errand =>
      rcases desk.receive_engine_cases place errand gateway with hengine | hengine <;>
        simp [hengine]
  | _ => rfl

theorem settle_closed (hopen : event.keepsOpen = true) :
    (desk.settle event).engine.closed = desk.engine.closed := by
  cases event with
  | query text => exact desk.engine.prepare_closed text
  | prepare text => exact desk.engine.prepare_closed text
  | select suggestion | take suggestion =>
    obtain ⟨session, hselect⟩ := desk.engine.select_engine suggestion
    simp only [settle, hselect]
  | answer place gateway =>
    simp only [settle]
    cases desk.waiting[place]? with
    | none => rfl
    | some errand =>
      rcases desk.receive_engine_cases place errand gateway with hengine | hengine <;>
        simp [hengine]
  | close => simp [Event.keepsOpen] at hopen
  | drop => simp [Event.keepsOpen] at hopen
  | resolve requests => rfl
  | spawn requests => rfl
  | reset => rfl

/-! ### Runs -/

theorem run_append (desk : Desk) (before after : List Event) :
    desk.run (before ++ after) = (desk.run before).run after := by
  simp [run, List.foldl_append]

theorem run_cons (desk : Desk) (event : Event) (events : List Event) :
    desk.run (event :: events) = (desk.step event).1.run events := rfl

theorem run_concat (desk : Desk) (events : List Event) (event : Event) :
    desk.run (events ++ [event]) = ((desk.run events).step event).1 := by
  rw [run_append]
  rfl

/-! ### Turns -/

theorem turns_concat (desk : Desk) (course : List Turn) (turn : Turn) :
    desk.turns (course ++ [turn]) = (desk.turns course).turn turn := by
  simp [turns]

theorem turns_append (desk : Desk) (before after : List Turn) :
    desk.turns (before ++ after) = (desk.turns before).turns after := by
  simp [turns]

theorem turn_claims_of_frees {errand : Errand} (hopen : desk.engine.closed = false)
    (hfree : desk.engine.Frees errand.current) :
    desk.turn (.claims errand) = desk.enlist errand := by
  simp only [turn, Engine.claim_of_frees hopen hfree]
  rfl

/-- A claim changes nothing, or takes a free key and puts its errand on the desk. -/
theorem turn_claims_cases (desk : Desk) (errand : Errand) :
    desk.turn (.claims errand) = desk ∨
      desk.engine.Frees errand.current ∧ desk.turn (.claims errand) = desk.enlist errand := by
  cases hclaim : desk.engine.claim errand.current with
  | granted engine =>
    obtain ⟨hopen, hfree, _⟩ := Engine.claim_eq_granted_iff.mp hclaim
    exact Or.inr ⟨hfree, turn_claims_of_frees hopen hfree⟩
  | busy => exact Or.inl (by simp [turn, hclaim])
  | gone => exact Or.inl (by simp [turn, hclaim])

theorem turn_claims_session (desk : Desk) (errand : Errand) :
    (desk.turn (.claims errand)).engine.session = desk.engine.session := by
  rcases desk.turn_claims_cases errand with hturn | ⟨_, hturn⟩ <;> simp [hturn]

theorem turn_claims_resident (desk : Desk) (errand : Errand) :
    (desk.turn (.claims errand)).engine.catalog.resident = desk.engine.catalog.resident := by
  rcases desk.turn_claims_cases errand with hturn | ⟨_, hturn⟩ <;> simp [hturn]

theorem subset_turn_claims (desk : Desk) (errand : Errand) :
    desk.engine.catalog.inFlight ⊆ (desk.turn (.claims errand)).engine.catalog.inFlight := by
  rcases desk.turn_claims_cases errand with hturn | ⟨_, hturn⟩ <;> simp [hturn]

/-- After a claim a call under the key is under way, be it the claimant's or another one. -/
theorem key_mem_turn_claims {errand : Errand} {key : FetchKey} (hopen : desk.engine.closed = false)
    (hkey : errand.current.key = some key) :
    key ∈ (desk.turn (.claims errand)).engine.catalog.inFlight := by
  by_cases hbusy : key ∈ desk.engine.catalog.inFlight
  · exact desk.subset_turn_claims errand hbusy
  · have hfree : desk.engine.Frees errand.current := by
      intro other hother
      rw [hkey] at hother
      obtain rfl := Option.some.inj hother
      exact hbusy
    simp [turn_claims_of_frees hopen hfree, hkey]

theorem step_eq_turns (desk : Desk) (event : Event) :
    ∃ claims : List Errand,
      (desk.step event).1 = desk.turns (.settles event :: claims.map .claims) := by
  rcases desk.step_cases event with hstep | ⟨errand, hopen, hfree, hstep⟩
  · exact ⟨[], hstep⟩
  · exact ⟨[errand], by rw [hstep, ← turn_claims_of_frees hopen hfree]; rfl⟩

/-- Every run of steps is a run of turns that settles the same events. -/
theorem run_eq_turns (desk : Desk) (events : List Event) :
    ∃ course, desk.run events = desk.turns course ∧
      ∀ turn ∈ course,
        (∃ event ∈ events, turn = .settles event) ∨ ∃ errand, turn = .claims errand := by
  induction events using List.reverseRecOn with
  | nil => exact ⟨[], rfl, by simp⟩
  | append_singleton events event ih =>
    obtain ⟨course, hrun, hcourse⟩ := ih
    obtain ⟨claims, hstep⟩ := (desk.run events).step_eq_turns event
    refine ⟨course ++ .settles event :: claims.map .claims, ?_, ?_⟩
    · rw [run_concat, hstep, hrun, turns_append]
    · intro turn hturn
      rcases List.mem_append.mp hturn with hbefore | hnow
      · refine (hcourse turn hbefore).imp_left ?_
        rintro ⟨other, hother, hturn⟩
        exact ⟨other, List.mem_append_left _ hother, hturn⟩
      · rcases List.mem_cons.mp hnow with hsettles | hclaims
        · exact Or.inl ⟨event, by simp, hsettles⟩
        · obtain ⟨errand, _, hclaim⟩ := List.mem_map.mp hclaims
          exact Or.inr ⟨errand, hclaim.symm⟩

/-- What no turn of a run changes is the same after it. -/
theorem turns_eq_of_turn {View : Type} (view : Desk → View) {course : List Turn}
    (hturn : ∀ turn ∈ course, ∀ desk : Desk, view (desk.turn turn) = view desk) :
    view (desk.turns course) = view desk := by
  induction course using List.reverseRecOn with
  | nil => rfl
  | append_singleton course turn ih =>
    rw [turns_concat, hturn turn (by simp)]
    exact ih fun other hother ↦ hturn other (List.mem_append_left _ hother)

theorem turn_settings (desk : Desk) (turn : Turn) :
    (desk.turn turn).engine.settings = desk.engine.settings := by
  cases turn with
  | settles event => exact desk.settle_settings event
  | claims errand => rcases desk.turn_claims_cases errand with hturn | ⟨_, hturn⟩ <;> simp [hturn]

theorem turn_closed {turn : Turn} (hopen : turn.keepsOpen = true) (desk : Desk) :
    (desk.turn turn).engine.closed = desk.engine.closed := by
  cases turn with
  | settles event => exact settle_closed hopen
  | claims errand => rcases desk.turn_claims_cases errand with hturn | ⟨_, hturn⟩ <;> simp [hturn]

theorem turn_held {turn : Turn} (hopen : turn.keepsOpen = true) (desk : Desk) :
    (desk.turn turn).held = desk.held := by
  cases turn with
  | settles event => exact settle_held hopen
  | claims errand => rcases desk.turn_claims_cases errand with hturn | ⟨_, hturn⟩ <;> simp [hturn]

theorem turns_settings (desk : Desk) (course : List Turn) :
    (desk.turns course).engine.settings = desk.engine.settings :=
  turns_eq_of_turn (fun desk ↦ desk.engine.settings) fun turn _ desk ↦ desk.turn_settings turn

theorem turns_closed {course : List Turn} (hopen : ∀ turn ∈ course, turn.keepsOpen = true) :
    (desk.turns course).engine.closed = desk.engine.closed :=
  turns_eq_of_turn (fun desk ↦ desk.engine.closed) fun turn hturn ↦ turn_closed (hopen turn hturn)

theorem turns_held {course : List Turn} (hopen : ∀ turn ∈ course, turn.keepsOpen = true) :
    (desk.turns course).held = desk.held :=
  turns_eq_of_turn held fun turn hturn ↦ turn_held (hopen turn hturn)

theorem run_closed {events : List Event} (hopen : ∀ event ∈ events, event.keepsOpen = true) :
    (desk.run events).engine.closed = desk.engine.closed := by
  obtain ⟨course, hrun, hcourse⟩ := desk.run_eq_turns events
  rw [hrun]
  refine turns_closed fun turn hturn ↦ ?_
  rcases hcourse turn hturn with ⟨event, hevent, rfl⟩ | ⟨errand, rfl⟩
  · exact hopen event hevent
  · rfl

theorem run_held {events : List Event} (hopen : ∀ event ∈ events, event.keepsOpen = true) :
    (desk.run events).held = desk.held := by
  obtain ⟨course, hrun, hcourse⟩ := desk.run_eq_turns events
  rw [hrun]
  refine turns_held fun turn hturn ↦ ?_
  rcases hcourse turn hturn with ⟨event, hevent, rfl⟩ | ⟨errand, rfl⟩
  · exact hopen event hevent
  · rfl

theorem run_settings (desk : Desk) (events : List Event) :
    (desk.run events).engine.settings = desk.engine.settings := by
  obtain ⟨course, hrun, -⟩ := desk.run_eq_turns events
  rw [hrun, turns_settings]

/-! ### What lasts -/

/-- Whatever a desk can do to its engine keeps the property. -/
structure Lasting (motive : Engine → Prop) : Prop where
  prepare : ∀ {engine : Engine} (text : String),
    motive engine → motive (engine.prepare text).engine
  select : ∀ {engine : Engine} (suggestion : Suggestion),
    motive engine → motive (engine.select suggestion).engine
  holding : ∀ {engine : Engine} (request : Request),
    motive engine → motive (engine.holding request)
  absorb : ∀ {engine : Engine} (request : Request) (answer : Except Fault Fetched),
    motive engine → motive (engine.absorb request answer).1
  close : ∀ {engine : Engine}, motive engine → motive engine.close
  reset : ∀ {engine : Engine}, motive engine → motive engine.reset

section Lasting

variable {motive : Engine → Prop} (hlasting : Lasting motive)

include hlasting

theorem Lasting.settle (hengine : motive desk.engine) (event : Event) :
    motive (desk.settle event).engine := by
  cases event with
  | query text | prepare text => exact hlasting.prepare text hengine
  | select suggestion | take suggestion => exact hlasting.select suggestion hengine
  | resolve requests | spawn requests | drop => exact hengine
  | reset => exact hlasting.reset hengine
  | close => exact hlasting.close hengine
  | answer place gateway =>
    simp only [Desk.settle]
    split
    next errand _ =>
      rcases desk.receive_engine_cases place errand gateway with hsame | hfiled
      · rwa [hsame]
      · rw [hfiled]
        exact hlasting.absorb _ _ hengine
    next => exact hengine

theorem Lasting.turn (hengine : motive desk.engine) (turn : Turn) :
    motive (desk.turn turn).engine := by
  cases turn with
  | settles event => exact hlasting.settle hengine event
  | claims errand =>
    rcases desk.turn_claims_cases errand with hturn | ⟨-, hturn⟩
    · rwa [hturn]
    · rw [hturn]
      exact hlasting.holding errand.current hengine

theorem Lasting.turns (hengine : motive desk.engine) (course : List Turn) :
    motive (desk.turns course).engine := by
  induction course generalizing desk with
  | nil => exact hengine
  | cons turn course ih => exact ih (hlasting.turn hengine turn)

theorem Lasting.run (hengine : motive desk.engine) (events : List Event) :
    motive (desk.run events).engine := by
  obtain ⟨course, hrun, -⟩ := desk.run_eq_turns events
  rw [hrun]
  exact hlasting.turns hengine course

end Lasting

/-- Both copies of the index list are written by an answer, from one list, and emptied by a reset;
nothing else touches either. -/
theorem lasting_agrees : Lasting fun engine ↦ engine.catalog.Agrees where
  prepare := by
    intro engine text hagrees
    rwa [Engine.prepare_catalog]
  select := by
    intro engine suggestion hagrees
    obtain ⟨session, hselect⟩ := engine.select_engine suggestion
    rwa [hselect]
  holding := fun _ hagrees ↦ hagrees.of_same rfl rfl
  absorb := fun request answer hagrees ↦ Engine.agrees_absorb hagrees request answer
  close := fun hagrees ↦ hagrees
  reset := fun _ ↦ Catalog.agrees_empty

/-! ### Places -/

section Erasing

variable {α : Type} {list : List α} {place count : Nat}

theorem drop_eraseIdx_of_lt (hplace : place < count) (hcount : count ≤ list.length) :
    (list.eraseIdx place).drop (count - 1) = list.drop count := by
  rw [List.eraseIdx_eq_take_drop_succ, List.drop_append,
    List.drop_eq_nil_of_le (by rw [List.length_take]; omega), List.nil_append, List.drop_drop,
    List.length_take]
  congr 1
  omega

theorem drop_eraseIdx_of_le (hplace : count ≤ place) (hlength : place < list.length) :
    (list.eraseIdx place).drop count = (list.drop count).eraseIdx (place - count) := by
  rw [List.eraseIdx_eq_take_drop_succ, List.eraseIdx_eq_take_drop_succ,
    List.drop_append_of_le_length (by rw [List.length_take]; omega), List.drop_take,
    List.drop_drop]
  congr 2
  omega

theorem take_eraseIdx_of_lt (hplace : place < count) (hcount : count ≤ list.length) :
    (list.eraseIdx place).take (count - 1) = (list.take count).eraseIdx place := by
  rw [List.eraseIdx_eq_take_drop_succ, List.eraseIdx_eq_take_drop_succ, List.take_append,
    List.take_take, List.take_take, List.drop_take, List.length_take,
    Nat.min_eq_right (by omega), Nat.min_eq_left (by omega), Nat.min_eq_left (by omega)]
  congr 2
  omega

theorem take_eraseIdx_of_le (hplace : count ≤ place) (hlength : place < list.length) :
    (list.eraseIdx place).take count = list.take count := by
  rw [List.eraseIdx_eq_take_drop_succ, List.take_append_of_le_length
    (by rw [List.length_take]; omega), List.take_take, Nat.min_eq_left hplace]

end Erasing

/-- Where the errand at a place stands after a run, unless it was answered in it. -/
def follow : Nat → List Event → Option Nat
  | place, [] => some place
  | place, event :: events =>
    match event.shift place with
    | some next => follow next events
    | none => none

/-- How many of the first `count` errands are left after a run of turns. -/
def remaining (count : Nat) (course : List Turn) : Nat :=
  course.foldl Turn.left count

theorem remaining_concat (count : Nat) (course : List Turn) (turn : Turn) :
    remaining count (course ++ [turn]) = turn.left (remaining count course) := by
  simp [remaining]

@[simp] theorem remaining_zero (course : List Turn) : remaining 0 course = 0 := by
  induction course using List.reverseRecOn with
  | nil => rfl
  | append_singleton course turn ih =>
    rw [remaining_concat, ih]
    unfold Turn.left
    split
    · simp
    · rfl

/-- After a turn the first errands that are left stand first, and behind them the others and the
one that has claimed. -/
theorem turn_split {count : Nat} (hcount : count ≤ desk.waiting.length) (turn : Turn) :
    turn.left count ≤ (desk.turn turn).waiting.length ∧
      ((desk.turn turn).waiting.take (turn.left count)).Sublist (desk.waiting.take count) ∧
      ((desk.turn turn).waiting.drop (turn.left count)).Sublist
        (desk.waiting.drop count ++ turn.claimant.toList) := by
  cases turn with
  | claims errand =>
    rcases desk.turn_claims_cases errand with hturn | ⟨_, hturn⟩
    · rw [hturn]
      exact ⟨hcount, List.Sublist.refl _, List.sublist_append_left _ _⟩
    · have hleft : Turn.left count (.claims errand) = count := rfl
      rw [hturn, hleft, enlist_waiting, List.take_append_of_le_length hcount,
        List.drop_append_of_le_length hcount]
      refine ⟨?_, List.Sublist.refl _, List.Sublist.refl _⟩
      rw [List.length_append]
      omega
  | settles event =>
    simp only [turn, settle_waiting, Turn.claimant, Option.toList_none, List.append_nil]
    cases event with
    | answer place gateway =>
      simp only [kept, Turn.left]
      by_cases hbeyond : desk.waiting.length ≤ place
      · rw [if_neg (by omega), List.eraseIdx_of_length_le hbeyond]
        exact ⟨hcount, List.Sublist.refl _, List.Sublist.refl _⟩
      · have hlength : place < desk.waiting.length := by omega
        split_ifs with holder
        · rw [take_eraseIdx_of_lt holder hcount, drop_eraseIdx_of_lt holder hcount,
            List.length_eraseIdx_of_lt hlength]
          exact ⟨by omega, List.eraseIdx_sublist _ _, List.Sublist.refl _⟩
        · have hown : count ≤ place := by omega
          rw [take_eraseIdx_of_le hown hlength, drop_eraseIdx_of_le hown hlength,
            List.length_eraseIdx_of_lt hlength]
          exact ⟨by omega, List.Sublist.refl _, List.eraseIdx_sublist _ _⟩
    | _ => exact ⟨hcount, List.Sublist.refl _, List.Sublist.refl _⟩

/-- The errands that `remaining` counts are some of the first ones, and all others stood behind
them or have claimed since. -/
theorem turns_split {count : Nat} (hcount : count ≤ desk.waiting.length) (course : List Turn) :
    remaining count course ≤ (desk.turns course).waiting.length ∧
      ((desk.turns course).waiting.take (remaining count course)).Sublist
        (desk.waiting.take count) ∧
      ((desk.turns course).waiting.drop (remaining count course)).Sublist
        (desk.waiting.drop count ++ course.filterMap Turn.claimant) := by
  induction course using List.reverseRecOn with
  | nil => exact ⟨hcount, List.Sublist.refl _, by simp [remaining, turns]⟩
  | append_singleton course turn ih =>
    obtain ⟨hleft, htake, hdrop⟩ := ih
    obtain ⟨hleft', htake', hdrop'⟩ := (desk.turns course).turn_split hleft turn
    rw [turns_concat, remaining_concat]
    refine ⟨hleft', htake'.trans htake, hdrop'.trans ?_⟩
    have hclaimant : [turn].filterMap Turn.claimant = turn.claimant.toList := by
      cases turn <;> rfl
    rw [List.filterMap_append, hclaimant, ← List.append_assoc]
    exact hdrop.append (List.Sublist.refl _)

theorem kept_shift {place next : Nat} {errand : Errand}
    (hplace : desk.waiting[place]? = some errand) (hnext : event.shift place = some next) :
    (desk.kept event)[next]? = some errand := by
  cases event with
  | answer other gateway =>
    simp only [Event.shift] at hnext
    split_ifs at hnext with hother hbefore
    · obtain rfl : place - 1 = next := by simpa using hnext
      rw [kept, List.getElem?_eraseIdx, if_neg (by omega), Nat.sub_add_cancel (by omega), hplace]
    · obtain rfl : place = next := by simpa using hnext
      rw [kept, List.getElem?_eraseIdx, if_pos (by omega), hplace]
  | _ =>
    obtain rfl : place = next := by simpa [Event.shift] using hnext
    exact hplace

/-- An errand that was not answered still waits, at the place where `follow` finds it. -/
theorem waiting_follow {place found : Nat} {errand : Errand} {events : List Event}
    (hplace : desk.waiting[place]? = some errand) (hfollow : follow place events = some found) :
    (desk.run events).waiting[found]? = some errand := by
  induction events generalizing desk place with
  | nil =>
    obtain rfl : place = found := by simpa [follow] using hfollow
    exact hplace
  | cons event events ih =>
    simp only [follow] at hfollow
    split at hfollow
    next next hnext =>
      obtain ⟨fresh, hwaiting⟩ := desk.step_waiting event
      have hkept := kept_shift hplace hnext
      have hlength := (List.getElem?_eq_some_iff.mp hkept).1
      rw [run_cons]
      refine ih ?_ hfollow
      rw [hwaiting, List.getElem?_append_left hlength, hkept]
    next => simp at hfollow

end Desk
end PipedQuery
