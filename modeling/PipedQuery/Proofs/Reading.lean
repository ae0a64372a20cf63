import PipedQuery.Proofs.Fetch

/-!
What a reading asks for. Whatever rule applies, the reading misses at most one thing; it makes an
index the active one only where it also asks for its fields, unless they need not be fetched; and
at a field it keeps the active index and asks for the fields of that one. `Sound` states this of
a reading, and each layer of rules has it (`sound_ofTokens`).
-/

set_option autoImplicit false
set_option relaxedAutoImplicit false

namespace PipedQuery

namespace Position

/-- A field of the active index is expected there. -/
def asksField : Position → Bool
  | fieldListContinuation | statsFieldArg | statsGroupField | fieldsFirst | dedupField
  | whereField => true
  | _ => false

theorem usesMetadata_of_asksField {position : Position} (hfield : position.asksField = true) :
    position.usesMetadata = true := by
  cases position <;> first | rfl | cases hfield

end Position

namespace Reading

variable {catalog : Catalog} {session : Session} {reading : Reading}

/-- What a rule makes of a query in a session. -/
structure Sound (catalog : Catalog) (session : Session) (reading : Reading) : Prop where
  brief : reading.requests.length ≤ 1
  active : ∀ index, reading.session.activeIndex = some index →
    session.activeIndex = some index ∨ reading.requests = fieldsRequest catalog index
  field : reading.position.asksField = true →
    reading.session.activeIndex = session.activeIndex ∧
      reading.requests = activeFieldsRequest catalog session

theorem length_indicesRequest (catalog : Catalog) : (indicesRequest catalog).length ≤ 1 := by
  unfold indicesRequest
  split_ifs <;> simp

theorem length_fieldsRequest (catalog : Catalog) (index : String) :
    (fieldsRequest catalog index).length ≤ 1 := by
  unfold fieldsRequest
  split_ifs <;> simp

theorem length_activeFieldsRequest (catalog : Catalog) (session : Session) :
    (activeFieldsRequest catalog session).length ≤ 1 := by
  unfold activeFieldsRequest
  split
  · exact length_fieldsRequest catalog _
  · simp

theorem length_valuesRequest (session : Session) : (valuesRequest session).length ≤ 1 := by
  unfold valuesRequest
  split
  · split_ifs <;> simp
  · simp

/-- Most rules keep the active index and expect no field. -/
theorem Sound.of_kept (hbrief : reading.requests.length ≤ 1)
    (hkept : reading.session.activeIndex = session.activeIndex)
    (hposition : reading.position.asksField = false) : reading.Sound catalog session where
  brief := hbrief
  active := fun _ hactive ↦ Or.inl (hkept ▸ hactive)
  field := fun hfield ↦ by simp [hposition] at hfield

theorem sound_atField (position : Position) {after : Session}
    (hkept : after.activeIndex = session.activeIndex) :
    (atField position catalog after).Sound catalog session where
  brief := length_activeFieldsRequest catalog after
  active := fun _ hactive ↦ Or.inl (hkept ▸ hactive)
  field := fun _ ↦ ⟨hkept, by simp only [atField, activeFieldsRequest, hkept]⟩

theorem sound_ofFilter (previous : String) (phase : FilterPhase) :
    (ofFilter catalog session previous phase).Sound catalog session := by
  cases phase with
  | equals => exact .of_kept (Nat.zero_le _) rfl rfl
  | value => exact .of_kept (length_valuesRequest session) rfl rfl
  | complete => exact .of_kept (Nat.zero_le _) rfl rfl

theorem sound_ofCommand (tokens : Tokens) (previous : String) :
    (ofCommand catalog session tokens previous).Sound catalog session := by
  unfold ofCommand
  split
  · exact sound_atField .fieldsFirst rfl
  split
  · exact sound_atField .dedupField rfl
  split
  · exact sound_atField .whereField rfl
  split
  · exact sound_ofFilter previous _
  · split_ifs <;> exact .of_kept (Nat.zero_le _) rfl rfl

theorem sound_ofSegment (tokens : Tokens) (previous : String) :
    (ofSegment catalog session tokens previous).Sound catalog session := by
  unfold ofSegment
  split_ifs
  · exact .of_kept (Nat.zero_le _) rfl rfl
  · exact .of_kept (Nat.zero_le _) rfl rfl
  · split
    · exact sound_atField .statsFieldArg rfl
    · exact .of_kept (Nat.zero_le _) rfl rfl
    · exact sound_atField .statsGroupField rfl
    · exact sound_ofCommand tokens previous
    · exact sound_ofCommand tokens previous

/-- The one rule that changes the active index is that of a known name, and it asks for the
fields of the new one. -/
theorem sound_ofPrevious (tokens : Tokens) (previous : String) :
    (ofPrevious catalog session tokens previous).Sound catalog session := by
  unfold ofPrevious
  split_ifs
  · exact .of_kept (Nat.zero_le _) rfl rfl
  · exact sound_atField .fieldListContinuation rfl
  · exact .of_kept (Nat.zero_le _) rfl rfl
  · exact .of_kept (Nat.zero_le _) rfl rfl
  · exact .of_kept (length_indicesRequest catalog) rfl rfl
  · split
    · exact .of_kept (length_indicesRequest catalog) rfl rfl
    · dsimp only
      split_ifs
      · refine ⟨length_fieldsRequest catalog _, ?_, fun hfield ↦ nomatch hfield⟩
        intro index hactive
        obtain rfl : Vocabulary.indexReference previous = index := Option.some.inj hactive
        exact Or.inr rfl
      · exact sound_ofSegment tokens previous

theorem sound_ofTokens (settings : Settings) (tokens : Tokens) :
    (ofTokens settings catalog session tokens).Sound catalog session := by
  unfold ofTokens
  split
  · refine ⟨?_, fun _ hactive ↦ (nomatch hactive), fun hfield ↦ (nomatch hfield)⟩
    split_ifs
    · exact length_indicesRequest catalog
    · exact Nat.zero_le _
  · exact sound_ofPrevious tokens _

end Reading

namespace Engine

variable {engine : Engine}

/-- A closed engine reads nothing into a query, an open one what the rules say. -/
theorem prepare_reading (engine : Engine) (text : String) :
    ((engine.prepare text).engine.session = engine.session ∧
        (engine.prepare text).batch.position = .none ∧ (engine.prepare text).requests = []) ∨
      ∃ reading : Reading, reading.Sound engine.catalog engine.session ∧
        (engine.prepare text).engine.session = reading.session ∧
        (engine.prepare text).requests = reading.requests ∧
        (engine.prepare text).batch.position = reading.position ∧
        (engine.prepare text).batch.items =
          Suggestion.all reading.position (Tokens.ofQuery text) reading.session
            engine.catalog [] := by
  by_cases hclosed : engine.closed = true
  · exact Or.inl (by simp [prepare, hclosed])
  · refine Or.inr ⟨_, Reading.sound_ofTokens engine.settings (Tokens.ofQuery text), ?_⟩
    simp [prepare, hclosed]

@[simp] theorem prepare_input (engine : Engine) (text : String) :
    (engine.prepare text).batch.input = text := by
  unfold prepare
  dsimp only
  split_ifs <;> rfl

theorem prepare_requests_length (engine : Engine) (text : String) :
    (engine.prepare text).requests.length ≤ 1 := by
  rcases engine.prepare_reading text with ⟨_, _, hrequests⟩ | ⟨_, hsound, _, hrequests, _⟩
  · simp [hrequests]
  · exact hrequests ▸ hsound.brief

/-- The index that is active after a query was so before, or the query asks for its fields. -/
theorem prepare_active {text index : String}
    (hactive : (engine.prepare text).engine.session.activeIndex = some index) :
    engine.session.activeIndex = some index ∨
      (engine.prepare text).requests = Reading.fieldsRequest engine.catalog index := by
  rcases engine.prepare_reading text with
    ⟨hsession, _, _⟩ | ⟨_, hsound, hsession, hrequests, _⟩
  · exact Or.inl (hsession ▸ hactive)
  · rw [hrequests]
    exact hsound.active index (hsession ▸ hactive)

/-- At a field the active index stays, and its fields are what the query asks for. -/
theorem prepare_asksField {text : String}
    (hfield : (engine.prepare text).batch.position.asksField = true) :
    (engine.prepare text).engine.session.activeIndex = engine.session.activeIndex ∧
      (engine.prepare text).requests =
        Reading.activeFieldsRequest engine.catalog engine.session := by
  rcases engine.prepare_reading text with
    ⟨_, hposition, _⟩ | ⟨_, hsound, hsession, hrequests, hposition, _⟩
  · simp [hposition, Position.asksField] at hfield
  · rw [hsession, hrequests]
    exact hsound.field (hposition ▸ hfield)

end Engine
end PipedQuery
