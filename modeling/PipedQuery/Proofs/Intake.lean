import PipedQuery.Proofs.Reading
import PipedQuery.Proofs.SingleFlight

/-!
Typing. A user who only types reads queries and gets answers to the calls that they make. A
query asks for at most one thing, so its errand has one claim to make and nothing to do after the
answer. `Intake` is a desk together with the errands that have not made their claim yet, and its
moves let anything happen between the reading of a query and its claim. A run of queries and
answers at a desk is a run of moves in which every errand claims at once (`exists_moves`).
-/

set_option autoImplicit false
set_option relaxedAutoImplicit false

namespace PipedQuery

namespace Prepared

/-- The errand of a query that asks for something. -/
def errand (prepared : Prepared) : Option Errand :=
  match prepared.requests with
  | [] => none
  | request :: rest => some ⟨none, .batch prepared.batch, request, rest, []⟩

end Prepared

inductive Move where
  | reads (text : String)
  /-- The errand at that place makes its claim. If a fetch under the same key is under way it
  ends at once. -/
  | claims (place : Nat)
  | answers (place : Nat) (gateway : Gateway)

structure Intake where
  desk : Desk
  /-- The errands of queries that were read and have not made their claim. -/
  unclaimed : List Errand := []
deriving DecidableEq

namespace Intake

variable {intake : Intake} {settings : Settings}

def opened (settings : Settings) : Intake :=
  { desk := .opened settings }

def move (intake : Intake) : Move → Intake
  | .reads text =>
    { desk := intake.desk.settle (.query text)
      unclaimed := intake.unclaimed ++ (intake.desk.engine.prepare text).errand.toList }
  | .claims place =>
    match intake.unclaimed[place]? with
    | some errand =>
      { desk := intake.desk.turn (.claims errand), unclaimed := intake.unclaimed.eraseIdx place }
    | none => intake
  | .answers place gateway => { intake with desk := intake.desk.settle (.answer place gateway) }

def run (intake : Intake) (moves : List Move) : Intake :=
  moves.foldl move intake

theorem run_concat (intake : Intake) (moves : List Move) (next : Move) :
    intake.run (moves ++ [next]) = (intake.run moves).move next := by
  simp [run]

theorem run_append (intake : Intake) (moves others : List Move) :
    intake.run (moves ++ others) = (intake.run moves).run others := by
  simp [run]

/-- A move is at most one turn at the engine. -/
theorem move_desk (intake : Intake) (next : Move) :
    (intake.move next).desk = intake.desk ∨
      ∃ turn : Turn, turn.continues = true ∧ turn.keepsOpen = true ∧
        (intake.move next).desk = intake.desk.turn turn := by
  cases next with
  | reads text => exact Or.inr ⟨.settles (.query text), rfl, rfl, rfl⟩
  | answers place gateway => exact Or.inr ⟨.settles (.answer place gateway), rfl, rfl, rfl⟩
  | claims place =>
    simp only [move]
    cases intake.unclaimed[place]? with
    | none => exact Or.inl rfl
    | some errand => exact Or.inr ⟨.claims errand, rfl, rfl, rfl⟩

theorem exists_course (settings : Settings) (moves : List Move) :
    ∃ course, ((opened settings).run moves).desk = (Desk.opened settings).turns course ∧
      ∀ turn ∈ course, turn.continues = true ∧ turn.keepsOpen = true := by
  induction moves using List.reverseRecOn with
  | nil => exact ⟨[], rfl, by simp⟩
  | append_singleton moves next ih =>
    obtain ⟨course, hdesk, hcourse⟩ := ih
    rw [run_concat]
    rcases ((opened settings).run moves).move_desk next with
      hsame | ⟨turn, hcontinues, hopen, hturn⟩
    · exact ⟨course, hsame.trans hdesk, hcourse⟩
    · refine ⟨course ++ [turn], ?_, ?_⟩
      · rw [hturn, hdesk, Desk.turns_concat]
      · intro other hother
        rcases List.mem_append.mp hother with hbefore | hlast
        · exact hcourse other hbefore
        · rw [List.mem_singleton.mp hlast]
          exact ⟨hcontinues, hopen⟩

theorem run_accounted (settings : Settings) (moves : List Move) :
    ((opened settings).run moves).desk.Accounted 0 := by
  obtain ⟨course, hdesk, hcourse⟩ := exists_course settings moves
  rw [hdesk]
  exact Desk.accounted_turns_opened settings fun turn hturn ↦ (hcourse turn hturn).1

theorem run_closed (settings : Settings) (moves : List Move) :
    ((opened settings).run moves).desk.engine.closed = false := by
  obtain ⟨course, hdesk, hcourse⟩ := exists_course settings moves
  rw [hdesk]
  exact Desk.turns_closed fun turn hturn ↦ (hcourse turn hturn).2

/-- Once no call waits, no key is in flight. -/
theorem inFlight_of_idle {moves : List Move}
    (hidle : ((opened settings).run moves).desk.waiting = []) :
    ((opened settings).run moves).desk.engine.catalog.inFlight = [] := by
  have hperm := (run_accounted settings moves).perm
  rw [Desk.claimed, hidle] at hperm
  exact hperm.symm.eq_nil

/-! ### Errands with one claim -/

/-- No errand has anything to ask for after its first call. -/
def Brief (intake : Intake) : Prop :=
  ∀ errand ∈ intake.desk.waiting ++ intake.unclaimed, errand.rest = []

theorem rest_of_prepare {engine : Engine} {text : String} {errand : Errand}
    (herrand : (engine.prepare text).errand = some errand) : errand.rest = [] := by
  have hlength := engine.prepare_requests_length text
  unfold Prepared.errand at herrand
  split at herrand
  · cases herrand
  next request rest hrequests =>
    obtain rfl := Option.some.inj herrand
    rw [hrequests, List.length_cons] at hlength
    have hnothing : rest.length = 0 := by omega
    exact List.eq_nil_of_length_eq_zero hnothing

theorem Brief.move (hbrief : intake.Brief) (next : Move) : (intake.move next).Brief := by
  intro errand hmem
  cases next with
  | reads text =>
    simp only [Intake.move, Desk.settle, ← List.append_assoc] at hmem
    rcases List.mem_append.mp hmem with hbefore | hread
    · exact hbrief errand hbefore
    · exact rest_of_prepare (Option.mem_toList.mp hread)
  | answers place gateway =>
    simp only [Intake.move, Desk.settle_waiting, Desk.kept] at hmem
    refine hbrief errand (List.mem_append.mpr ?_)
    exact (List.mem_append.mp hmem).imp_left List.mem_of_mem_eraseIdx
  | claims place =>
    simp only [Intake.move] at hmem
    split at hmem
    next claimant hplace =>
      have hclaimant := List.mem_of_getElem? hplace
      have hrest : errand ∈ intake.unclaimed.eraseIdx place → errand ∈ intake.unclaimed :=
        List.mem_of_mem_eraseIdx
      rcases intake.desk.turn_claims_cases claimant with hturn | ⟨_, hturn⟩
      · rw [hturn] at hmem
        exact hbrief errand (List.mem_append.mpr ((List.mem_append.mp hmem).imp_right hrest))
      · rw [hturn, Desk.enlist_waiting, List.append_assoc] at hmem
        refine hbrief errand (List.mem_append.mpr ((List.mem_append.mp hmem).imp_right ?_))
        rintro (_ | ⟨_, hmem⟩)
        · exact hclaimant
        · exact hrest hmem
    next => exact hbrief errand hmem

theorem run_brief (settings : Settings) (moves : List Move) :
    ((opened settings).run moves).Brief := by
  induction moves using List.reverseRecOn with
  | nil => simp [Brief, run, opened, Desk.opened]
  | append_singleton moves next ih =>
    rw [run_concat]
    exact ih.move next

/-! ### Runs of a desk -/

/-- The query is read and its errand, if it has one, claims at once. -/
theorem exists_moves_query (desk : Desk) (text : String) :
    ∃ moves, (∀ place gateway, .answers place gateway ∉ moves) ∧
      (⟨desk, []⟩ : Intake).run moves = ⟨(desk.step (.query text)).1, []⟩ := by
  cases hrequests : (desk.engine.prepare text).requests with
  | nil =>
    refine ⟨[.reads text], by simp, ?_⟩
    simp [run, move, Desk.settle, Prepared.errand, hrequests, Desk.step, Desk.ask]
  | cons request rest =>
    have herrand : (desk.engine.prepare text).errand =
        some ⟨none, .batch (desk.engine.prepare text).batch, request, rest, []⟩ := by
      simp only [Prepared.errand, hrequests]
    obtain rfl : rest = [] := rest_of_prepare herrand
    refine ⟨[.reads text, .claims 0], by simp, ?_⟩
    cases hclaim : (desk.engine.prepare text).engine.claim request <;>
      simp [run, move, Desk.settle, Desk.turn, herrand, hrequests, Desk.step, Desk.ask,
        Desk.carryOn, Engine.proceed, hclaim]

/-- An errand with nothing left to ask ends with its answer. -/
theorem step_answer {desk : Desk} (hbrief : (⟨desk, []⟩ : Intake).Brief) (place : Nat)
    (gateway : Gateway) :
    (desk.step (.answer place gateway)).1 = desk.settle (.answer place gateway) := by
  simp only [Desk.step, Desk.answer, Desk.settle]
  cases hplace : desk.waiting[place]? with
  | none => rfl
  | some errand =>
    have hrest : (desk.receive place errand gateway).2.2 = [] := by
      have hnothing := hbrief errand (List.mem_append_left [] (List.mem_of_getElem? hplace))
      unfold Desk.receive
      dsimp only
      split_ifs
      · exact hnothing
      · rfl
    simp [hrest, Desk.carryOn, Engine.proceed]

/-- Every run of queries and answers is a run of moves with the same answers, at the end of which
no errand is left without its claim. -/
theorem exists_moves (settings : Settings) {events : List Event}
    (htyping : ∀ event ∈ events, event.isTyping = true) :
    ∃ moves, (opened settings).run moves = ⟨(Desk.opened settings).run events, []⟩ ∧
      ∀ place gateway, .answers place gateway ∈ moves → .answer place gateway ∈ events := by
  induction events using List.reverseRecOn with
  | nil => exact ⟨[], rfl, by simp⟩
  | append_singleton events event ih =>
    obtain ⟨moves, hrun, hanswers⟩ := ih fun other hother ↦
      htyping other (List.mem_append_left _ hother)
    have hlast : event.isTyping = true := htyping event (by simp)
    cases event with
    | query text =>
      obtain ⟨last, hnone, hquery⟩ :=
        exists_moves_query ((Desk.opened settings).run events) text
      refine ⟨moves ++ last, ?_, ?_⟩
      · rw [run_append, hrun, hquery, Desk.run_concat]
      · intro place gateway hmem
        rcases List.mem_append.mp hmem with hbefore | hnow
        · exact List.mem_append_left _ (hanswers place gateway hbefore)
        · exact absurd hnow (hnone place gateway)
    | answer place gateway =>
      have hbrief := run_brief settings moves
      rw [hrun] at hbrief
      refine ⟨moves ++ [.answers place gateway], ?_, ?_⟩
      · rw [run_concat, hrun, Desk.run_concat, step_answer hbrief]
        rfl
      · intro other reply hmem
        rcases List.mem_append.mp hmem with hbefore | hnow
        · exact List.mem_append_left _ (hanswers other reply hbefore)
        · cases List.mem_singleton.mp hnow
          exact List.mem_append_right _ (List.mem_singleton_self _)
    | _ => cases hlast

end Intake
end PipedQuery
