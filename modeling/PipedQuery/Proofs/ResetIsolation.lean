import PipedQuery.Proofs.SingleFlight

/-!
A reset gives the session a new catalog while calls of the old one still wait. Their answers are
filed in whatever catalog they find, so the new session is not safe from them. `Unaffected` is
the exact condition under which such an answer leaves the engine as it is: nothing may be under
way under the key of the call, and what the answer brings must be there already or be a fault.
`reset_isolation_iff` states it of every call that waits from before the reset, and that a
session in which every such answer meets the condition is one of its own: its keys in flight are
those of its own calls, each once, and its index list and field list were brought by answers to
its own calls.
-/

set_option autoImplicit false
set_option relaxedAutoImplicit false

namespace PipedQuery.Desk

/-- How many of the calls that waited at the start of a run still wait at its end. -/
def stale (start : Desk) (course : List Turn) : Nat :=
  remaining start.waiting.length course

/-- A desk at the beginning of a session: nothing is known and no call is its own. -/
structure Renewed (settings : Settings) (start : Desk) : Prop where
  accounted : start.Accounted start.waiting.length
  closed : start.engine.closed = false
  settings : start.engine.settings = settings
  loaded : start.engine.catalog.loaded = none
  resident : start.engine.catalog.resident = none

theorem renewed_reset (settings : Settings) {before : List Turn}
    (hbefore : ∀ turn ∈ before, turn.keepsOpen = true) :
    Renewed settings ((opened settings).turns (before ++ [.settles .reset])) := by
  rw [turns_concat]
  exact {
    accounted := accounted_reset (turns_held hbefore)
    closed := turns_closed hbefore
    settings := by rw [turn_settings, turns_settings]; rfl
    loaded := rfl
    resident := rfl }

variable {settings : Settings} {start : Desk} {after : List Turn}

/-- An answer to a call that waits leaves the engine as it is exactly when the engine has no use
for it. -/
theorem Renewed.receive_eq_iff (hstart : Renewed settings start)
    (hopen : ∀ turn ∈ after, turn.keepsOpen = true) (place : Nat) (errand : Errand)
    (gateway : Gateway) :
    ((start.turns after).receive place errand gateway).1.engine = (start.turns after).engine ↔
      (start.turns after).engine.Unaffected errand.current (gateway.fetch errand.current) := by
  rw [receive_engine ((turns_held hopen).trans hstart.accounted.held)]
  exact Engine.absorb_eq_self_iff ((turns_closed hopen).trans hstart.closed) _

theorem Renewed.loaded_received (hstart : Renewed settings start)
    (hcontinues : ∀ turn ∈ after, turn.continues = true)
    (hspares : start.SparesThroughout start.waiting.length after) {names : List String}
    (hnames : (start.turns after).engine.catalog.loaded = some names) :
    ∃ listed, names = listed.filter settings.shows ∧
      start.Received start.waiting.length after .indices (.indices listed) := by
  rcases loaded_origin hcontinues hspares hnames with hloaded | ⟨listed, hlisted, hreceived⟩
  · rw [hstart.loaded] at hloaded
    cases hloaded
  · rw [hstart.settings] at hlisted
    exact ⟨listed, hlisted, hreceived⟩

theorem Renewed.resident_received (hstart : Renewed settings start)
    (hcontinues : ∀ turn ∈ after, turn.continues = true)
    (hspares : start.SparesThroughout start.waiting.length after) {held : IndexFields}
    (hheld : (start.turns after).engine.catalog.resident = some held) :
    start.Received start.waiting.length after (.fields held.index)
      (.fields held.index held.fields) := by
  rcases resident_origin hcontinues hspares hheld with hresident | hreceived
  · rw [hstart.resident] at hresident
    cases hresident
  · exact hreceived

/-- After a reset, an answer to an older call leaves the engine as it is exactly when the engine
has no use for it. If that is so of all of them in the run, the new session has single flight and
holds nothing but what its own calls brought. -/
theorem reset_isolation_iff {before : List Turn}
    (hbefore : ∀ turn ∈ before, turn.keepsOpen = true)
    (hstart : start = (opened settings).turns (before ++ [.settles .reset]))
    (hafter : ∀ turn ∈ after, turn.continues = true ∧ turn.keepsOpen = true) :
    ((start.turns after).waiting.take (start.stale after)).Sublist start.waiting ∧
      ((start.turns after).waiting.drop (start.stale after)).Sublist
        (after.filterMap Turn.claimant) ∧
      (∀ place errand gateway, place < start.stale after →
        (start.turns after).waiting[place]? = some errand →
          (((start.turns after).receive place errand gateway).1.engine =
              (start.turns after).engine ↔
            (start.turns after).engine.Unaffected errand.current
              (gateway.fetch errand.current))) ∧
      (start.SparesThroughout start.waiting.length after →
        ((start.turns after).claimed (start.stale after)).Nodup ∧
        ((start.turns after).claimed (start.stale after)).Perm
          (start.turns after).engine.catalog.inFlight ∧
        (∀ names, (start.turns after).engine.catalog.loaded = some names →
          ∃ listed, names = listed.filter settings.shows ∧
            start.Received start.waiting.length after .indices (.indices listed)) ∧
        ∀ held, (start.turns after).engine.catalog.resident = some held →
          start.Received start.waiting.length after (.fields held.index)
            (.fields held.index held.fields)) := by
  have hrenewed : Renewed settings start := hstart ▸ renewed_reset settings hbefore
  have hcontinues : ∀ turn ∈ after, turn.continues = true := fun turn hturn ↦
    (hafter turn hturn).1
  have hopen : ∀ turn ∈ after, turn.keepsOpen = true := fun turn hturn ↦ (hafter turn hturn).2
  obtain ⟨_, htake, hdrop⟩ := start.turns_split (Nat.le_refl _) after
  rw [List.take_length] at htake
  rw [List.drop_length, List.nil_append] at hdrop
  refine ⟨htake, hdrop, ?_, ?_⟩
  · intro place errand gateway _ _
    exact hrenewed.receive_eq_iff hopen place errand gateway
  · intro hspares
    have haccounts := hrenewed.accounted.turns hcontinues hspares
    refine ⟨haccounts.perm.nodup_iff.mpr haccounts.nodup, haccounts.perm, ?_, ?_⟩
    · intro names hnames
      exact hrenewed.loaded_received hcontinues hspares hnames
    · intro held hheld
      exact hrenewed.resident_received hcontinues hspares hheld

/-- A background call for the index list. -/
def listingCall : Errand := ⟨none, .background, .indices, [], []⟩

/-- A background call for the fields of one index. -/
def fieldsCall (index : String) : Errand := ⟨none, .background, .fields index, [], []⟩

/-- Two calls are made and nothing is answered. -/
def abandoned : List Turn :=
  [.settles (.query "s"), .claims listingCall, .claims (fieldsCall "logs")]

/-- The first of two older calls fails, and only then the index list is fetched anew. -/
def resumed : List Turn :=
  [.settles (.query "s"), .settles (.answer 0 .silent), .claims listingCall,
    .settles (.answer 1 (.stocked ["logs"]))]

/-- A session that meets the condition: the older call for fields still waits, its failure would
change nothing, and the index list is that of the session's own call. -/
theorem reset_isolation_resumed :
    (∀ turn ∈ abandoned, turn.keepsOpen = true) ∧
      (∀ turn ∈ resumed, turn.continues = true ∧ turn.keepsOpen = true) ∧
      ∃ start, start = (opened {}).turns (abandoned ++ [.settles .reset]) ∧
        start.SparesThroughout start.waiting.length resumed ∧
        ((start.turns resumed).receive 0 (fieldsCall "logs") .silent).1.engine =
          (start.turns resumed).engine ∧
        (start.turns resumed).engine.catalog.loaded = some ["logs"] ∧
        ∃ listed, ["logs"] = listed.filter ({} : Settings).shows ∧
          start.Received start.waiting.length resumed .indices (.indices listed) := by
  have hbefore : ∀ turn ∈ abandoned, turn.keepsOpen = true := by decide
  have hafter : ∀ turn ∈ resumed, turn.continues = true ∧ turn.keepsOpen = true := by decide
  obtain ⟨_, _, hreceive, hown⟩ := reset_isolation_iff hbefore rfl hafter
  have hspares : ((opened {}).turns (abandoned ++ [.settles .reset])).SparesThroughout
      ((opened {}).turns (abandoned ++ [.settles .reset])).waiting.length resumed := by
    decide +kernel
  have hloaded : (((opened {}).turns (abandoned ++ [.settles .reset])).turns
      resumed).engine.catalog.loaded = some ["logs"] := by
    decide +kernel
  refine ⟨hbefore, hafter, _, rfl, hspares, ?_, hloaded, (hown hspares).2.2.1 _ hloaded⟩
  exact (hreceive 0 (fieldsCall "logs") .silent (by decide +kernel) (by decide +kernel)).mpr
    (by decide +kernel)

/-- Sessions are not isolated from the calls before a reset. Here the index list is asked for,
then the session is reset and asks for it again. The answer to the first call is filed as the
list of the new session and frees the key of the second; even if the first call fails, the key is
free and a third call is made beside the second. -/
theorem reset_not_isolated :
    ∃ start desk, start = (opened {}).turns
        ([.settles (.query "s"), .claims listingCall] ++ [.settles .reset]) ∧
      desk = start.turns [.settles (.query "s"), .claims listingCall] ∧
      0 < start.stale [.settles (.query "s"), .claims listingCall] ∧
      desk.waiting[0]? = some listingCall ∧
      desk.engine.catalog = { inFlight := [.indices] } ∧
      (desk.receive 0 listingCall (.stocked ["logs"])).1.engine.catalog =
        .stocked ["logs"] ∧
      (desk.turns [.settles (.answer 0 .silent), .claims listingCall]).outstanding =
        [.indices, .indices] :=
  ⟨_, _, rfl, rfl, by decide +kernel, by decide +kernel, by decide +kernel, by decide +kernel,
    by decide +kernel⟩

end PipedQuery.Desk
