import PipedQuery.Proofs.Course

/-!
Where the contents of the catalog come from. An answer is filed when it arrives and at no other
time, so what the catalog holds after a run was there before or was brought by an answer of the
run (`resident_origin`, `loaded_origin`). Whose answers count is a choice: those to the calls
that wait from some place on. An answer to one of the others has to leave the engine as it is,
and `Unaffected` says exactly when it does (`absorb_eq_self_iff`).
-/

set_option autoImplicit false
set_option relaxedAutoImplicit false

namespace PipedQuery

namespace Engine

variable {engine : Engine} {request : Request}

/-- The engine has no use for the answer: nothing is under way under its key, and what it brings
is there already or is not kept at all. -/
def Unaffected (engine : Engine) (request : Request) (answer : Except Fault Fetched) : Prop :=
  engine.Frees request ∧
    match answer with
    | .ok (.indices _) => engine.catalog.loaded ≠ none
    | .ok (.fields index fields) => engine.catalog.resident = some ⟨index, fields⟩
    | _ => True

instance (engine : Engine) (request : Request) : Decidable (engine.Frees request) :=
  inferInstanceAs (Decidable (∀ key ∈ request.key, key ∉ engine.catalog.inFlight))

instance (engine : Engine) (request : Request) (answer : Except Fault Fetched) :
    Decidable (engine.Unaffected request answer) :=
  match answer with
  | .ok (.indices _) =>
    inferInstanceAs (Decidable (engine.Frees request ∧ engine.catalog.loaded ≠ none))
  | .ok (.fields index fields) =>
    inferInstanceAs (Decidable (engine.Frees request ∧
      engine.catalog.resident = some ⟨index, fields⟩))
  | .ok (.values _) => inferInstanceAs (Decidable (engine.Frees request ∧ True))
  | .error _ => inferInstanceAs (Decidable (engine.Frees request ∧ True))

theorem release_eq_self_iff : engine.release request = engine ↔ engine.Frees request := by
  have hkeys : engine.catalog.inFlight.filter (fun key ↦ request.key ≠ some key) =
      engine.catalog.inFlight ↔ engine.Frees request := by
    rw [List.filter_eq_self]
    constructor
    · intro hall key hkey hmem
      have hother := hall key hmem
      rw [Option.mem_def.mp hkey] at hother
      simp at hother
    · intro hfree key hmem
      simpa using fun hkey ↦ hfree key hkey hmem
  rw [← hkeys, release_eq]
  constructor
  · intro hsame
    exact congrArg (fun other : Engine ↦ other.catalog.inFlight) hsame
  · intro hsame
    rw [hsame]

/-- What is filed changes nothing exactly when it is there already. -/
theorem store_eq_self_iff {fetched : Fetched} :
    engine.store fetched = engine ↔
      match fetched with
      | .indices _ => engine.catalog.loaded ≠ none
      | .fields index fields => engine.catalog.resident = some ⟨index, fields⟩
      | .values _ => True := by
  cases fetched with
  | indices names =>
    constructor
    · intro hsame hnone
      have hloaded := engine.store_loaded (.indices names)
      rw [hsame, hnone] at hloaded
      simp [Fetched.listing] at hloaded
    · intro hloaded
      obtain ⟨kept, hkept⟩ := Option.ne_none_iff_exists'.mp hloaded
      simp [store, Catalog.storeIndices, hkept]
  | fields index fields =>
    constructor
    · intro hsame
      have hresident := engine.store_resident (.fields index fields)
      rw [hsame] at hresident
      simpa [Fetched.held] using hresident
    · intro hresident
      simp only [store, Catalog.storeFields, ← hresident]
  | values sample => simp [store]

/-- An open engine is the same after an answer exactly when it had no use for it. -/
theorem absorb_eq_self_iff (hopen : engine.closed = false) (answer : Except Fault Fetched) :
    (engine.absorb request answer).1 = engine ↔ engine.Unaffected request answer := by
  cases answer with
  | error fault => simp [absorb_error, release_eq_self_iff, Unaffected]
  | ok fetched =>
    rw [absorb_ok hopen]
    constructor
    · intro hsame
      have hreleased : engine.release request = engine := by
        have hkeys := congrArg (fun other : Engine ↦ other.catalog.inFlight) hsame
        rw [store_inFlight] at hkeys
        rw [release_eq] at hkeys ⊢
        simp only at hkeys
        rw [hkeys]
      refine ⟨release_eq_self_iff.mp hreleased, ?_⟩
      rw [hreleased] at hsame
      have hstored := store_eq_self_iff.mp hsame
      cases fetched <;> exact hstored
    · rintro ⟨hfree, hstored⟩
      rw [release_eq_self_iff.mpr hfree]
      refine store_eq_self_iff.mpr ?_
      cases fetched <;> exact hstored

end Engine

namespace Desk

variable {desk : Desk} {event : Event} {first : Nat}

/-- The turn answers a call that waits at the place `first` or behind it. -/
def Answers (desk : Desk) (first : Nat) (turn : Turn) (request : Request) (fetched : Fetched) :
    Prop :=
  ∃ place gateway errand, turn = .settles (.answer place gateway) ∧ first ≤ place ∧
    desk.waiting[place]? = some errand ∧ errand.current = request ∧
    gateway.fetch request = .ok fetched

/-- In the run a call got its answer, one that waited from the place `first` on or was made
later. -/
def Received (desk : Desk) (first : Nat) (course : List Turn) (request : Request)
    (fetched : Fetched) : Prop :=
  ∃ before turn after, course = before ++ turn :: after ∧
    (desk.turns before).Answers (remaining first before) turn request fetched

/-- The turn answers none of the first calls, or the engine has no use for the answer. -/
def Spares (desk : Desk) (first : Nat) : Turn → Prop
  | .settles (.answer place gateway) => place < first → ∀ errand ∈ desk.waiting[place]?,
      desk.engine.Unaffected errand.current (gateway.fetch errand.current)
  | _ => True

/-- No turn of the run has an answer to one of the first calls that the engine has use for. -/
def SparesThroughout : Desk → Nat → List Turn → Prop
  | _, _, [] => True
  | desk, first, turn :: course =>
    desk.Spares first turn ∧ SparesThroughout (desk.turn turn) (turn.left first) course

instance (desk : Desk) (first : Nat) (turn : Turn) : Decidable (desk.Spares first turn) :=
  match turn with
  | .settles (.answer place gateway) =>
    inferInstanceAs (Decidable (place < first → ∀ errand ∈ desk.waiting[place]?,
      desk.engine.Unaffected errand.current (gateway.fetch errand.current)))
  | .settles (.query _) | .settles (.resolve _) | .settles (.spawn _) | .settles (.prepare _)
  | .settles (.select _) | .settles (.take _) | .settles .reset | .settles .close
  | .settles .drop | .claims _ => inferInstanceAs (Decidable True)

instance decidableSparesThroughout :
    (desk : Desk) → (first : Nat) → (course : List Turn) →
      Decidable (desk.SparesThroughout first course)
  | _, _, [] => inferInstanceAs (Decidable True)
  | desk, first, turn :: course =>
    have := decidableSparesThroughout (desk.turn turn) (turn.left first) course
    inferInstanceAs (Decidable (desk.Spares first turn ∧
      (desk.turn turn).SparesThroughout (turn.left first) course))

theorem sparesThroughout_zero (desk : Desk) (course : List Turn) :
    desk.SparesThroughout 0 course := by
  induction course generalizing desk with
  | nil => trivial
  | cons turn course ih =>
    refine ⟨?_, ?_⟩
    · unfold Spares
      split
      · exact fun hplace ↦ absurd hplace (Nat.not_lt_zero _)
      · trivial
    · have hleft : turn.left 0 = 0 := remaining_zero [turn]
      rw [hleft]
      exact ih _

theorem SparesThroughout.spares {before after : List Turn} {turn : Turn}
    (hspares : desk.SparesThroughout first (before ++ turn :: after)) :
    (desk.turns before).Spares (remaining first before) turn := by
  induction before generalizing desk first with
  | nil => exact hspares.1
  | cons other before ih => exact ih hspares.2

theorem Spares.unaffected {place : Nat} {gateway : Gateway} {errand : Errand}
    (hspares : desk.Spares first (.settles (.answer place gateway))) (holder : place < first)
    (hplace : desk.waiting[place]? = some errand) :
    desk.engine.Unaffected errand.current (gateway.fetch errand.current) :=
  hspares holder errand hplace

/-- A turn of a session files what a call got for its answer, or files nothing. -/
theorem turn_files {turn : Turn} (hcontinues : turn.continues = true) :
    ((desk.turn turn).engine.catalog.loaded = desk.engine.catalog.loaded ∧
        (desk.turn turn).engine.catalog.resident = desk.engine.catalog.resident) ∨
      ∃ request fetched, desk.Answers 0 turn request fetched ∧
        (desk.turn turn).engine.catalog.loaded = desk.engine.catalog.loaded.or
          (fetched.listing.map (·.filter desk.engine.settings.shows)) ∧
        (desk.turn turn).engine.catalog.resident =
          fetched.held.or desk.engine.catalog.resident := by
  cases turn with
  | claims errand =>
    rcases desk.turn_claims_cases errand with hturn | ⟨_, hturn⟩ <;> exact Or.inl (by simp [hturn])
  | settles event =>
    cases event with
    | query text | prepare text => exact Or.inl (by simp [turn, settle])
    | select suggestion | take suggestion =>
      obtain ⟨session, hselect⟩ := desk.engine.select_engine suggestion
      exact Or.inl (by simp [turn, settle, hselect])
    | resolve requests | spawn requests | close => exact Or.inl ⟨rfl, rfl⟩
    | reset | drop => simp [Turn.continues, Event.continues] at hcontinues
    | answer place gateway =>
      simp only [turn, settle]
      cases hplace : desk.waiting[place]? with
      | none => exact Or.inl ⟨rfl, rfl⟩
      | some errand =>
        dsimp only
        rcases desk.receive_engine_cases place errand gateway with hengine | hengine
        · exact Or.inl (by simp [hengine])
        · rcases desk.engine.absorb_cases errand.current (gateway.fetch errand.current) with
            habsorb | ⟨fetched, _, hfetch, habsorb⟩
          · exact Or.inl (by simp [hengine, habsorb, Engine.release_eq])
          · refine Or.inr ⟨errand.current, fetched, ?_, ?_⟩
            · exact ⟨place, gateway, errand, rfl, Nat.zero_le place, hplace, rfl, hfetch⟩
            · simp [hengine, habsorb, Engine.release_eq]

theorem turn_resident {turn : Turn} {held : IndexFields} (hcontinues : turn.continues = true)
    (hspares : desk.Spares first turn)
    (hheld : (desk.turn turn).engine.catalog.resident = some held) :
    desk.engine.catalog.resident = some held ∨
      desk.Answers first turn (.fields held.index) (.fields held.index held.fields) := by
  rcases turn_files hcontinues with ⟨_, hsame⟩ | ⟨request, fetched, hanswers, _, hresident⟩
  · exact Or.inl (hsame ▸ hheld)
  · obtain ⟨place, gateway, errand, rfl, _, hplace, rfl, hfetch⟩ := hanswers
    rw [hresident] at hheld
    cases fetched with
    | indices names => exact Or.inl hheld
    | values sample => exact Or.inl hheld
    | fields index fields =>
      obtain rfl : ⟨index, fields⟩ = held := by simpa [Fetched.held] using hheld
      have hrequest := Gateway.eq_fields_of_fetch hfetch
      by_cases holder : place < first
      · have hunaffected := hspares.unaffected holder hplace
        rw [hfetch] at hunaffected
        exact Or.inl hunaffected.2
      · rw [hrequest] at hfetch
        exact Or.inr ⟨place, gateway, errand, rfl, Nat.le_of_not_lt holder, hplace, hrequest,
          hfetch⟩

theorem turn_loaded {turn : Turn} {names : List String} (hcontinues : turn.continues = true)
    (hspares : desk.Spares first turn)
    (hnames : (desk.turn turn).engine.catalog.loaded = some names) :
    desk.engine.catalog.loaded = some names ∨
      ∃ listed, names = listed.filter desk.engine.settings.shows ∧
        desk.Answers first turn .indices (.indices listed) := by
  rcases turn_files hcontinues with ⟨hsame, _⟩ | ⟨request, fetched, hanswers, hloaded, _⟩
  · exact Or.inl (hsame ▸ hnames)
  · obtain ⟨place, gateway, errand, rfl, _, hplace, rfl, hfetch⟩ := hanswers
    rw [hloaded] at hnames
    cases hbefore : desk.engine.catalog.loaded with
    | some kept => exact Or.inl (by simpa [hbefore] using hnames)
    | none =>
      cases fetched with
      | fields index fields => simp [hbefore, Fetched.listing] at hnames
      | values sample => simp [hbefore, Fetched.listing] at hnames
      | indices listed =>
        have hrequest := Gateway.eq_indices_of_fetch hfetch
        refine Or.inr ⟨listed, ?_, ?_⟩
        · simpa [hbefore, Fetched.listing, eq_comm] using hnames
        · by_cases holder : place < first
          · have hunaffected := hspares.unaffected holder hplace
            rw [hfetch] at hunaffected
            exact absurd hbefore hunaffected.2
          · rw [hrequest] at hfetch
            exact ⟨place, gateway, errand, rfl, Nat.le_of_not_lt holder, hplace, hrequest,
              hfetch⟩

/-- What holds after a run held before it or began with one of its steps. -/
theorem exists_beginning {State Step : Type} (next : State → Step → State)
    (Holds : State → Prop) {start : State} {steps : List Step}
    (hholds : Holds (steps.foldl next start)) :
    Holds start ∨ ∃ before step after, steps = before ++ step :: after ∧
      ¬ Holds (before.foldl next start) ∧ Holds (next (before.foldl next start) step) := by
  induction steps using List.reverseRecOn with
  | nil => exact Or.inl hholds
  | append_singleton steps step ih =>
    rw [List.foldl_concat] at hholds
    by_cases hbefore : Holds (steps.foldl next start)
    · rcases ih hbefore with hstart | ⟨before, other, after, hsteps, hbegins⟩
      · exact Or.inl hstart
      · refine Or.inr ⟨before, other, after ++ [step], ?_, hbegins⟩
        rw [hsteps, List.append_assoc, List.cons_append]
    · exact Or.inr ⟨steps, step, [], rfl, hbefore, hholds⟩

/-- The field list after a run was resident before it, or one answer of the run brought it. -/
theorem resident_origin {course : List Turn} {held : IndexFields}
    (hcontinues : ∀ turn ∈ course, turn.continues = true)
    (hspares : desk.SparesThroughout first course)
    (hheld : (desk.turns course).engine.catalog.resident = some held) :
    desk.engine.catalog.resident = some held ∨
      desk.Received first course (.fields held.index) (.fields held.index held.fields) := by
  rcases exists_beginning turn (fun desk ↦ desk.engine.catalog.resident = some held) hheld with
    hstart | ⟨before, turn, after, rfl, hbefore, hafter⟩
  · exact Or.inl hstart
  · have hturn : turn.continues = true := hcontinues turn (by simp)
    rcases turn_resident hturn hspares.spares hafter with hresident | hanswers
    · exact absurd hresident hbefore
    · exact Or.inr ⟨before, turn, after, rfl, hanswers⟩

/-- The index list after a run was loaded before it, or one answer of the run brought it. -/
theorem loaded_origin {course : List Turn} {names : List String}
    (hcontinues : ∀ turn ∈ course, turn.continues = true)
    (hspares : desk.SparesThroughout first course)
    (hnames : (desk.turns course).engine.catalog.loaded = some names) :
    desk.engine.catalog.loaded = some names ∨
      ∃ listed, names = listed.filter desk.engine.settings.shows ∧
        desk.Received first course .indices (.indices listed) := by
  rcases exists_beginning turn (fun desk ↦ desk.engine.catalog.loaded = some names) hnames with
    hstart | ⟨before, turn, after, rfl, hbefore, hafter⟩
  · exact Or.inl hstart
  · have hturn : turn.continues = true := hcontinues turn (by simp)
    rcases turn_loaded hturn hspares.spares hafter with hloaded | ⟨listed, hlisted, hanswers⟩
    · exact absurd hloaded hbefore
    · rw [turns_settings] at hlisted
      exact Or.inr ⟨listed, hlisted, before, turn, after, rfl, hanswers⟩

end Desk
end PipedQuery
