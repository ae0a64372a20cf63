import PipedQuery.Proofs.Reading

/-!
What a position entails. The rules find a position, and the position alone says what the session
becomes and what is asked for: `sessionAt` and `requestsAt` are the two functions, and
`entailed_ofTokens` states that every reading is made of them. What is asked for is missing and is
about the active index (`mem_requestsAt`), and an index becomes active only if it is known
(`activeIndex_cases`). Where the fields of the active index matter is then plain to see: in the type
that is recorded for a filter and nowhere else. So two catalogs that know the same names lead to the
same position (`position_congr`).
-/

set_option autoImplicit false
set_option relaxedAutoImplicit false

namespace PipedQuery

namespace Request

/-- The index that a request is about. -/
def index : Request → Option String
  | indices => none
  | fields index | values index _ _ => some index

end Request

namespace Reading

/-- The session after a query, by the position that was found for it. -/
def sessionAt (catalog : Catalog) (session : Session) (tokens : Tokens) : Position → Session
  | .firstCommand => {}
  | .pipeCommand => session.startSegment
  | .pipeSeparatorAfterIndex =>
    { session with activeIndex := tokens.previous.map Vocabulary.indexReference }
  | .statsFunction => { session with clause := .stats tokens.size }
  | .fieldsFirst => { session with listsFields := true }
  | .whereField => { session with clause := .filter tokens.size }
  | .whereEquals =>
    { session with
      activeField := tokens.previous.map fun word ↦
        ⟨word, session.activeIndex.bind (catalog.typeOf · word)⟩ }
  | _ => session

/-- What is asked for at a position, by the session after the query. -/
def requestsAt (settings : Settings) (catalog : Catalog) (session : Session) :
    Position → List Request
  | .firstCommand => if settings.prefetchIndices then indicesRequest catalog else []
  | .indexName | .inlineIndexName _ => indicesRequest catalog
  | .pipeSeparatorAfterIndex | .fieldListContinuation | .statsFieldArg | .statsGroupField
  | .fieldsFirst | .dedupField | .whereField => activeFieldsRequest catalog session
  | .whereValue => valuesRequest session
  | _ => []

/-- The reading holds what its position entails and nothing else. -/
def Entailed (settings : Settings) (catalog : Catalog) (session : Session) (tokens : Tokens)
    (reading : Reading) : Prop :=
  reading.session = sessionAt catalog session tokens reading.position ∧
    reading.requests = requestsAt settings catalog reading.session reading.position

/-- What is asked for is missing, and it is about no index but the active one. -/
theorem mem_requestsAt {settings : Settings} {catalog : Catalog} {session : Session}
    {position : Position} {request : Request}
    (hrequest : request ∈ requestsAt settings catalog session position) :
    catalog.needs request = true ∧
      ∀ index, request.index = some index → session.activeIndex = some index := by
  have hindices : request ∈ indicesRequest catalog → catalog.needs request = true ∧
      ∀ index, request.index = some index → session.activeIndex = some index := by
    intro hmem
    unfold indicesRequest at hmem
    split_ifs at hmem with hneeds
    · obtain rfl := List.mem_singleton.mp hmem
      exact ⟨hneeds, by simp [Request.index]⟩
    · cases hmem
  have hfields : request ∈ activeFieldsRequest catalog session → catalog.needs request = true ∧
      ∀ index, request.index = some index → session.activeIndex = some index := by
    intro hmem
    unfold activeFieldsRequest at hmem
    split at hmem
    next active hactive =>
      unfold fieldsRequest at hmem
      split_ifs at hmem with hneeds
      · obtain rfl := List.mem_singleton.mp hmem
        exact ⟨hneeds, fun _ hindex ↦ hactive.trans hindex⟩
      · cases hmem
    next => cases hmem
  cases position with
  | firstCommand =>
    simp only [requestsAt] at hrequest
    split_ifs at hrequest
    · exact hindices hrequest
    · cases hrequest
  | indexName | inlineIndexName => exact hindices hrequest
  | pipeSeparatorAfterIndex | fieldListContinuation | statsFieldArg | statsGroupField
  | fieldsFirst | dedupField | whereField => exact hfields hrequest
  | whereValue =>
    simp only [requestsAt, valuesRequest] at hrequest
    split at hrequest
    next active field type hactive hfield =>
      split_ifs at hrequest
      · cases hrequest
      · obtain rfl := List.mem_singleton.mp hrequest
        exact ⟨rfl, fun _ hindex ↦ hactive.trans hindex⟩
    next => cases hrequest
  | _ => cases hrequest

section Layers

variable {settings : Settings} {catalog : Catalog} {session : Session} {tokens : Tokens}
  {previous : String}

theorem entailed_ofFilter (hprevious : tokens.previous = some previous) (phase : FilterPhase) :
    (ofFilter catalog session previous phase).Entailed settings catalog session tokens := by
  cases phase with
  | equals => exact ⟨by simp [ofFilter, sessionAt, hprevious], rfl⟩
  | value => exact ⟨rfl, rfl⟩
  | complete => exact ⟨rfl, rfl⟩

theorem entailed_ofCommand (hprevious : tokens.previous = some previous) :
    (ofCommand catalog session tokens previous).Entailed settings catalog session tokens := by
  unfold ofCommand
  split
  · exact ⟨rfl, rfl⟩
  split
  · exact ⟨rfl, rfl⟩
  split
  · exact ⟨rfl, rfl⟩
  split
  · exact entailed_ofFilter hprevious _
  · split_ifs <;> exact ⟨rfl, rfl⟩

theorem entailed_ofSegment (hprevious : tokens.previous = some previous) :
    (ofSegment catalog session tokens previous).Entailed settings catalog session tokens := by
  unfold ofSegment
  split_ifs
  · exact ⟨rfl, rfl⟩
  · exact ⟨rfl, rfl⟩
  · split
    · exact ⟨rfl, rfl⟩
    · exact ⟨rfl, rfl⟩
    · exact ⟨rfl, rfl⟩
    · exact entailed_ofCommand hprevious
    · exact entailed_ofCommand hprevious

theorem entailed_ofPrevious (hprevious : tokens.previous = some previous) :
    (ofPrevious catalog session tokens previous).Entailed settings catalog session tokens := by
  unfold ofPrevious
  split_ifs
  · exact ⟨rfl, rfl⟩
  · exact ⟨rfl, rfl⟩
  · exact ⟨rfl, rfl⟩
  · exact ⟨rfl, rfl⟩
  · exact ⟨rfl, rfl⟩
  · split
    · exact ⟨rfl, rfl⟩
    · dsimp only
      split_ifs
      · exact ⟨by simp [sessionAt, hprevious], rfl⟩
      · exact entailed_ofSegment hprevious

end Layers

/-- Whatever rule applies, the reading is what its position entails. -/
theorem entailed_ofTokens (settings : Settings) (catalog : Catalog) (session : Session)
    (tokens : Tokens) :
    (ofTokens settings catalog session tokens).Entailed settings catalog session tokens := by
  unfold ofTokens
  split
  · exact ⟨rfl, rfl⟩
  next previous hprevious => exact entailed_ofPrevious hprevious

/-- A reading asks for the fields of the index that it leaves active, or it asks for no fields
and makes no index active that was not so before. -/
theorem Entailed.asks_or_keeps {settings : Settings} {catalog : Catalog} {session : Session}
    {tokens : Tokens} {reading : Reading}
    (hentailed : reading.Entailed settings catalog session tokens) :
    reading.requests = activeFieldsRequest catalog reading.session ∨
      (∀ index, reading.session.activeIndex = some index → session.activeIndex = some index) ∧
        ∀ index, Request.fields index ∉ reading.requests := by
  obtain ⟨position, requests, after⟩ := reading
  obtain ⟨rfl, rfl⟩ : after = sessionAt catalog session tokens position ∧
      requests = requestsAt settings catalog after position := hentailed
  have hindices : ∀ index, Request.fields index ∉ indicesRequest catalog := by
    intro index
    unfold indicesRequest
    split_ifs <;> simp
  have hvalues : ∀ index, Request.fields index ∉ valuesRequest session := by
    intro index
    unfold valuesRequest
    split
    · split_ifs <;> simp
    · simp
  cases position with
  | pipeSeparatorAfterIndex | fieldListContinuation | statsFieldArg | statsGroupField
  | fieldsFirst | dedupField | whereField => exact Or.inl rfl
  | firstCommand =>
    refine Or.inr ⟨fun index hactive ↦ (nomatch hactive), ?_⟩
    intro index
    simp only [requestsAt]
    split_ifs
    · exact hindices index
    · simp
  | indexName | inlineIndexName => exact Or.inr ⟨fun _ hactive ↦ hactive, hindices⟩
  | whereValue => exact Or.inr ⟨fun _ hactive ↦ hactive, hvalues⟩
  | _ => exact Or.inr ⟨fun _ hactive ↦ hactive, by simp [requestsAt]⟩

section ActiveIndex

variable {settings : Settings} {catalog : Catalog} {session : Session} {tokens : Tokens}

theorem ofCommand_activeIndex (previous : String) :
    (ofCommand catalog session tokens previous).session.activeIndex = session.activeIndex := by
  unfold ofCommand
  cases session.clause.filterPhase tokens.size with
  | none => split_ifs <;> rfl
  | some phase => cases phase <;> split_ifs <;> rfl

theorem ofSegment_activeIndex (previous : String) :
    (ofSegment catalog session tokens previous).session.activeIndex = session.activeIndex := by
  have hcommand : (ofCommand catalog session tokens previous).session.activeIndex =
      session.activeIndex := ofCommand_activeIndex previous
  unfold ofSegment
  cases session.clause.statsPhase tokens with
  | none => split_ifs <;> first | rfl | exact hcommand
  | some phase => cases phase <;> split_ifs <;> first | rfl | exact hcommand

/-- An index becomes active only if it is known. -/
theorem activeIndex_cases {index : String}
    (hactive : (ofTokens settings catalog session tokens).session.activeIndex = some index) :
    session.activeIndex = some index ∨ catalog.knows index = true := by
  unfold ofTokens at hactive
  cases hprevious : tokens.previous with
  | none => simp [hprevious] at hactive
  | some previous =>
    simp only [hprevious, ofPrevious] at hactive
    cases hstem : Vocabulary.sourceAssignment tokens.stem with
    | some parts =>
      simp only [hstem] at hactive
      split_ifs at hactive <;> exact Or.inl hactive
    | none =>
      simp only [hstem] at hactive
      split_ifs at hactive with _ _ _ _ _ hknown
      · exact Or.inl hactive
      · exact Or.inl hactive
      · exact Or.inl hactive
      · exact Or.inl hactive
      · exact Or.inl hactive
      · obtain rfl : Vocabulary.indexReference previous = index := Option.some.inj hactive
        exact Or.inr hknown
      · rw [ofSegment_activeIndex] at hactive
        exact Or.inl hactive

end ActiveIndex

/-- The fields of the active index are read for the type of a filter, those of no other index are
read at all. -/
theorem sessionAt_congr {catalog other : Catalog} {session : Session}
    (hfields : ∀ index, session.activeIndex = some index →
      catalog.fieldsOf index = other.fieldsOf index) (tokens : Tokens) (position : Position) :
    sessionAt catalog session tokens position = sessionAt other session tokens position := by
  cases position with
  | whereEquals =>
    have htypes : ∀ word, session.activeIndex.bind (catalog.typeOf · word) =
        session.activeIndex.bind (other.typeOf · word) := by
      intro word
      cases hactive : session.activeIndex with
      | none => rfl
      | some index => simp only [Option.bind_some, Catalog.typeOf, hfields index hactive]
    simp only [sessionAt, htypes]
  | _ => rfl

/-! ### The position -/

theorem ofFilter_position (catalog other : Catalog) (session : Session) (previous : String)
    (phase : FilterPhase) :
    (ofFilter catalog session previous phase).position =
      (ofFilter other session previous phase).position := by
  cases phase <;> rfl

theorem ofCommand_position (catalog other : Catalog) (session : Session) (tokens : Tokens)
    (previous : String) :
    (ofCommand catalog session tokens previous).position =
      (ofCommand other session tokens previous).position := by
  unfold ofCommand
  cases session.clause.filterPhase tokens.size with
  | none => split_ifs <;> rfl
  | some phase =>
    have hfilter := ofFilter_position catalog other session previous phase
    split_ifs <;> first | rfl | exact hfilter

theorem ofSegment_position (catalog other : Catalog) (session : Session) (tokens : Tokens)
    (previous : String) :
    (ofSegment catalog session tokens previous).position =
      (ofSegment other session tokens previous).position := by
  have hcommand := ofCommand_position catalog other session tokens previous
  unfold ofSegment
  cases session.clause.statsPhase tokens with
  | none => split_ifs <;> first | rfl | exact hcommand
  | some phase => cases phase <;> split_ifs <;> first | rfl | exact hcommand

/-- The position depends on the names that are known and on no other part of the catalog. -/
theorem position_congr {catalog other : Catalog} (hknown : catalog.known = other.known)
    (settings : Settings) (session : Session) (tokens : Tokens) :
    (ofTokens settings catalog session tokens).position =
      (ofTokens settings other session tokens).position := by
  have hknows : catalog.knows = other.knows := by
    funext index
    simp only [Catalog.knows, hknown]
  unfold ofTokens
  cases tokens.previous with
  | none => rfl
  | some previous =>
    have hsegment := ofSegment_position catalog other session tokens previous
    simp only [ofPrevious, hknows]
    cases Vocabulary.sourceAssignment tokens.stem with
    | none => split_ifs <;> first | rfl | exact hsegment
    | some assignment => split_ifs <;> rfl

end Reading
end PipedQuery
