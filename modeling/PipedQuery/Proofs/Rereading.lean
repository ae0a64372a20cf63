import PipedQuery.Proofs.Consequence
import PipedQuery.Proofs.Words

/-!
The same words read again. A reading leaves the session in a state in which the same query is read
in the same way (`ofTokens_again`): no rule is led elsewhere by what it has recorded. The word under
the cursor hardly matters. It can be an assignment in one word, and then the reading leaves the
session alone; otherwise the completed words decide everything (`ofTokens_stem_cases`).

What a position asks for is what it wants, less what is there or under way (`requestsAt_eq_filter`).
A query that asks for the index list is read before any rule looks at that list
(`position_of_asks_indices`), so that an answer cannot change the position that asked for it.
-/

set_option autoImplicit false
set_option relaxedAutoImplicit false

namespace PipedQuery

namespace Tokens

variable {tokens other : Tokens}

theorem size_congr (hcompleted : tokens.completed = other.completed) :
    tokens.size = other.size := by
  rw [size, size, hcompleted]

theorem back_two_congr (hcompleted : tokens.completed = other.completed) :
    tokens.back 2 = other.back 2 := by
  simp [back, words, hcompleted]

end Tokens

namespace Clause

variable {tokens other : Tokens} {anchor : Nat}

theorem opensAt_congr (hcompleted : tokens.completed = other.completed)
    (hanchor : anchor < tokens.size) : opensAt anchor tokens = opensAt anchor other := by
  cases anchor with
  | zero => rfl
  | succ position =>
    have hplace : position < tokens.completed.length := by
      rw [Tokens.size] at hanchor
      omega
    simp only [opensAt, Tokens.get, Tokens.words]
    rw [List.getElem?_append_left hplace, List.getElem?_append_left (hcompleted ▸ hplace),
      hcompleted]

/-- The aggregate under the cursor, or none yet, is no phase of its clause. -/
theorem statsPhase_eq_none (hanchor : tokens.size ≤ anchor) :
    (stats anchor).statsPhase tokens = none := by
  simp only [statsPhase, Bool.and_eq_true, beq_iff_eq]
  split_ifs <;> first | rfl | omega

/-- The phase of a clause is a matter of the completed words. -/
theorem statsPhase_congr (hcompleted : tokens.completed = other.completed) (clause : Clause) :
    clause.statsPhase tokens = clause.statsPhase other := by
  have hsize := Tokens.size_congr hcompleted
  cases clause with
  | idle => rfl
  | filter anchor => rfl
  | stats anchor =>
    by_cases hanchor : anchor < tokens.size
    · simp only [statsPhase, hsize, opensAt_congr hcompleted hanchor]
    · rw [statsPhase_eq_none (by omega), statsPhase_eq_none (by omega)]

end Clause

namespace Reading

variable {settings : Settings} {catalog other : Catalog} {session : Session} {tokens : Tokens}

/-! ### The word under the cursor -/

section Stem

variable {retyped : Tokens} (hcompleted : tokens.completed = retyped.completed)

include hcompleted

theorem ofCommand_congr (previous : String) :
    ofCommand catalog session tokens previous = ofCommand catalog session retyped previous := by
  simp only [ofCommand, Tokens.size_congr hcompleted, Clause.statsPhase_congr hcompleted]

theorem ofSegment_congr (previous : String) :
    ofSegment catalog session tokens previous = ofSegment catalog session retyped previous := by
  simp only [ofSegment, Tokens.size_congr hcompleted, Clause.statsPhase_congr hcompleted,
    ofCommand_congr hcompleted]

/-- With another word under the cursor the reading is the same, unless that word is an assignment;
then the session may be left alone instead. -/
theorem ofTokens_stem_cases (hstem : Vocabulary.sourceAssignment retyped.stem = none) :
    ofTokens settings catalog session tokens = ofTokens settings catalog session retyped ∨
      (ofTokens settings catalog session tokens).session = session := by
  have hprevious : tokens.previous = retyped.previous := by
    rw [Tokens.previous, Tokens.previous, hcompleted]
  simp only [ofTokens, hprevious]
  cases retyped.previous with
  | none => exact Or.inl rfl
  | some previous =>
    simp only [ofPrevious, hstem, Tokens.back_two_congr hcompleted, ofSegment_congr hcompleted]
    cases Vocabulary.sourceAssignment tokens.stem with
    | none => exact Or.inl rfl
    | some assignment => split_ifs <;> first | exact Or.inl rfl | exact Or.inr rfl

end Stem

/-! ### The session after a reading -/

theorem ofCommand_clause (catalog : Catalog) (session : Session) (tokens : Tokens)
    (previous : String) :
    (ofCommand catalog session tokens previous).session.clause = session.clause ∨
      (ofCommand catalog session tokens previous).session.clause = .filter tokens.size := by
  unfold ofCommand
  cases session.clause.filterPhase tokens.size with
  | none => split_ifs <;> first | exact Or.inl rfl | exact Or.inr rfl
  | some phase => cases phase <;> split_ifs <;> first | exact Or.inl rfl | exact Or.inr rfl

theorem ofCommand_again (previous : String) :
    ofCommand catalog (ofCommand catalog session tokens previous).session tokens previous =
      ofCommand catalog session tokens previous := by
  by_cases hfields : previous = "fields"
  · simp [ofCommand, hfields, atField, activeFieldsRequest]
  by_cases hdedup : previous = "dedup"
  · simp [ofCommand, hdedup, atField]
  by_cases hwhere : previous = "where"
  · simp [ofCommand, hwhere, atField, activeFieldsRequest]
  cases hphase : session.clause.filterPhase tokens.size with
  | some phase => cases phase <;> simp [ofCommand, hfields, hdedup, hwhere, hphase, ofFilter]
  | none =>
    have hkept : (ofCommand catalog session tokens previous).session = session := by
      simp only [ofCommand, hfields, hdedup, hwhere, hphase, if_false]
      split_ifs <;> rfl
    rw [hkept]

/-- A clause that is over, or is not an aggregation, leaves the word to the commands. -/
theorem ofSegment_eq_ofCommand {previous : String} (hsearch : previous ≠ "search")
    (hstats : previous ≠ "stats") (hphase : session.clause.statsPhase tokens = none ∨
      session.clause.statsPhase tokens = some .complete) :
    ofSegment catalog session tokens previous = ofCommand catalog session tokens previous := by
  rcases hphase with hphase | hphase <;> simp [ofSegment, hsearch, hstats, hphase]

theorem ofSegment_again (previous : String) :
    ofSegment catalog (ofSegment catalog session tokens previous).session tokens previous =
      ofSegment catalog session tokens previous := by
  by_cases hsearch : previous = "search"
  · simp [ofSegment, hsearch]
  by_cases hstats : previous = "stats"
  · simp [ofSegment, hstats]
  by_cases hphase : session.clause.statsPhase tokens = none ∨
      session.clause.statsPhase tokens = some .complete
  · have hnext : (ofCommand catalog session tokens previous).session.clause.statsPhase tokens =
          none ∨ (ofCommand catalog session tokens previous).session.clause.statsPhase tokens =
          some .complete := by
      rcases ofCommand_clause catalog session tokens previous with hclause | hclause
      · rwa [hclause]
      · exact Or.inl (by rw [hclause]; rfl)
    rw [ofSegment_eq_ofCommand hsearch hstats hphase,
      ofSegment_eq_ofCommand hsearch hstats hnext, ofCommand_again]
  · have hkept : (ofSegment catalog session tokens previous).session = session := by
      simp only [ofSegment, hsearch, hstats, if_false]
      split
      · rfl
      · rfl
      · rfl
      next hcomplete => exact absurd (Or.inr hcomplete) hphase
      next hnone => exact absurd (Or.inl hnone) hphase
    rw [hkept]

theorem ofPrevious_again (previous : String) :
    ofPrevious catalog (ofPrevious catalog session tokens previous).session tokens previous =
      ofPrevious catalog session tokens previous := by
  by_cases hpipe : previous = "|"
  · simp [ofPrevious, hpipe, Session.startSegment]
  by_cases hcomma : Text.mentions ',' previous = true
  · cases hlists : session.listsFields <;>
      simp [ofPrevious, hpipe, hcomma, hlists, atField]
  by_cases hsource : Vocabulary.isSourceKeyword previous = true
  · simp [ofPrevious, hpipe, hcomma, hsource]
  by_cases hequals : (tokens.back 2).any Vocabulary.isSourceKeyword = true
  · simp [ofPrevious, hpipe, hcomma, hsource, hequals]
  cases hstem : Vocabulary.sourceAssignment tokens.stem with
  | some assignment => simp [ofPrevious, hpipe, hcomma, hsource, hequals, hstem]
  | none =>
    by_cases hknown : catalog.knows (Vocabulary.indexReference previous) = true
    · simp [ofPrevious, hpipe, hcomma, hsource, hequals, hstem, hknown]
    · simp [ofPrevious, hpipe, hcomma, hsource, hequals, hstem, hknown, ofSegment_again]

/-- Read again in the session that it has left, a query is read in the same way. -/
theorem ofTokens_again (settings : Settings) (catalog : Catalog) (session : Session)
    (tokens : Tokens) :
    ofTokens settings catalog (ofTokens settings catalog session tokens).session tokens =
      ofTokens settings catalog session tokens := by
  unfold ofTokens
  cases tokens.previous with
  | none => rfl
  | some previous => exact ofPrevious_again previous

/-! ### What is asked for -/

/-- What a position needs to know, be it there or not. -/
def wantedAt (settings : Settings) (session : Session) : Position → Option Request
  | .firstCommand => if settings.prefetchIndices then some .indices else none
  | .indexName | .inlineIndexName _ => some .indices
  | .pipeSeparatorAfterIndex | .fieldListContinuation | .statsFieldArg | .statsGroupField
  | .fieldsFirst | .dedupField | .whereField => session.activeIndex.map .fields
  | .whereValue => (valuesRequest session).head?
  | _ => none

theorem valuesRequest_eq_toList (session : Session) :
    valuesRequest session = (valuesRequest session).head?.toList := by
  unfold valuesRequest
  split
  · split_ifs <;> rfl
  · rfl

/-- What is asked for is what is wanted and is missing. -/
theorem requestsAt_eq_filter (settings : Settings) (catalog : Catalog) (session : Session)
    (position : Position) :
    requestsAt settings catalog session position =
      (wantedAt settings session position).toList.filter catalog.needs := by
  have hindices : indicesRequest catalog = [Request.indices].filter catalog.needs := by
    cases hneeds : catalog.needs .indices <;> simp [indicesRequest, hneeds]
  have hfields : activeFieldsRequest catalog session =
      (session.activeIndex.map Request.fields).toList.filter catalog.needs := by
    cases hactive : session.activeIndex with
    | none => simp [activeFieldsRequest, hactive]
    | some index =>
      cases hneeds : catalog.needs (.fields index) <;>
        simp [activeFieldsRequest, hactive, fieldsRequest, hneeds]
  have hvalues : valuesRequest session =
      (valuesRequest session).head?.toList.filter catalog.needs := by
    rw [← valuesRequest_eq_toList]
    refine (List.filter_eq_self.mpr fun request hrequest ↦ ?_).symm
    have hasked : request ∈ requestsAt settings catalog session .whereValue := hrequest
    exact (mem_requestsAt hasked).1
  cases position with
  | firstCommand =>
    simp only [requestsAt, wantedAt]
    split_ifs
    · exact hindices
    · rfl
  | indexName | inlineIndexName => exact hindices
  | pipeSeparatorAfterIndex | fieldListContinuation | statsFieldArg | statsGroupField
  | fieldsFirst | dedupField | whereField => exact hfields
  | whereValue => exact hvalues
  | _ => rfl

/-- Once the one thing that was asked for is no longer missing, nothing is. -/
theorem requestsAt_eq_nil {position : Position} {request : Request}
    (hrequests : requestsAt settings catalog session position = [request])
    (hneeds : other.needs request = false) :
    requestsAt settings other session position = [] := by
  rw [requestsAt_eq_filter] at hrequests ⊢
  have hmem : request ∈ (wantedAt settings session position).toList := by
    have hasked := List.mem_singleton_self request
    rw [← hrequests] at hasked
    exact List.mem_of_mem_filter hasked
  rw [Option.mem_toList] at hmem
  simp [hmem, hneeds]

/-- Only the type that a filter records is read from the catalog. -/
theorem sessionAt_again {position : Position} (hposition : position ≠ .whereEquals) :
    sessionAt other (sessionAt catalog session tokens position) tokens position =
      sessionAt catalog session tokens position := by
  cases position <;> first | rfl | exact absurd rfl hposition

section Indices

theorem indices_not_mem_fieldsRequest (catalog : Catalog) (index : String) :
    Request.indices ∉ fieldsRequest catalog index := by
  unfold fieldsRequest
  split_ifs <;> simp

theorem indices_not_mem_activeFieldsRequest (catalog : Catalog) (session : Session) :
    Request.indices ∉ activeFieldsRequest catalog session := by
  unfold activeFieldsRequest
  split
  · exact indices_not_mem_fieldsRequest catalog _
  · simp

theorem indices_not_mem_ofFilter (previous : String) (phase : FilterPhase) :
    Request.indices ∉ (ofFilter catalog session previous phase).requests := by
  cases phase with
  | value =>
    simp only [ofFilter, valuesRequest]
    split
    · split_ifs <;> simp
    · simp
  | _ => simp [ofFilter]

theorem indices_not_mem_ofCommand (previous : String) :
    Request.indices ∉ (ofCommand catalog session tokens previous).requests := by
  unfold ofCommand
  split
  · exact indices_not_mem_activeFieldsRequest _ _
  split
  · exact indices_not_mem_activeFieldsRequest _ _
  split
  · exact indices_not_mem_activeFieldsRequest _ _
  split
  · exact indices_not_mem_ofFilter _ _
  · split_ifs <;> simp

theorem indices_not_mem_ofSegment (previous : String) :
    Request.indices ∉ (ofSegment catalog session tokens previous).requests := by
  unfold ofSegment
  split_ifs
  · simp
  · simp
  · split
    · exact indices_not_mem_activeFieldsRequest _ _
    · simp
    · exact indices_not_mem_activeFieldsRequest _ _
    · exact indices_not_mem_ofCommand previous
    · exact indices_not_mem_ofCommand previous

/-- A query that asks for the index list is read before any rule looks at the list or at the
session. -/
theorem position_of_asks_indices
    (hasks : .indices ∈ (ofTokens settings catalog session tokens).requests) (other : Catalog)
    (later : Session) :
    (ofTokens settings other later tokens).position =
      (ofTokens settings catalog session tokens).position := by
  unfold ofTokens at hasks ⊢
  cases hprevious : tokens.previous with
  | none => rfl
  | some previous =>
    rw [hprevious] at hasks
    dsimp only at hasks ⊢
    by_cases hpipe : previous = "|"
    · simp [ofPrevious, hpipe] at hasks
    by_cases hcomma : Text.mentions ',' previous = true
    · refine absurd hasks ?_
      cases hlists : session.listsFields with
      | true =>
        simpa [ofPrevious, hpipe, hcomma, hlists, atField] using
          indices_not_mem_activeFieldsRequest catalog session
      | false => simp [ofPrevious, hpipe, hcomma, hlists]
    by_cases hsource : Vocabulary.isSourceKeyword previous = true
    · simp [ofPrevious, hpipe, hcomma, hsource] at hasks
    by_cases hequals : (tokens.back 2).any Vocabulary.isSourceKeyword = true
    · simp [ofPrevious, hpipe, hcomma, hsource, hequals]
    cases hstem : Vocabulary.sourceAssignment tokens.stem with
    | some assignment => simp [ofPrevious, hpipe, hcomma, hsource, hequals, hstem]
    | none =>
      refine absurd hasks ?_
      by_cases hknown : catalog.knows (Vocabulary.indexReference previous) = true
      · simpa [ofPrevious, hpipe, hcomma, hsource, hequals, hstem, hknown] using
          indices_not_mem_fieldsRequest catalog _
      · simpa [ofPrevious, hpipe, hcomma, hsource, hequals, hstem, hknown] using
          indices_not_mem_ofSegment previous

end Indices

end Reading
end PipedQuery
