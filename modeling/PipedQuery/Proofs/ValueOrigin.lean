import PipedQuery.Proofs.Serving
import PipedQuery.Proofs.Words

/-!
Whose values are sampled. Where a value is expected, the request names the field that the session
holds, and the session holds what the last query recorded that was read behind the field of a
filter (`activeField_origin`). The query that asks may have another field there by then, since a
text can be edited or pasted between two readings: the values are those of its own field exactly
if that field, looked up now, is the one that was recorded (`samplesOwn_iff`). Typing on behind
the field is always safe (`samplesOwn_of_typed_on`).
-/

set_option autoImplicit false
set_option relaxedAutoImplicit false

namespace PipedQuery

namespace Position

/-- The field of a filter is neither recorded nor forgotten there. -/
def keepsField : Position → Bool
  | .firstCommand | .pipeCommand | .whereEquals => false
  | _ => true

end Position

namespace Reading

variable {settings : Settings} {catalog : Catalog} {session : Session} {position : Position}
  {index field : String} {type : FieldType}

theorem of_mem_valuesRequest (hmem : Request.values index field type ∈ valuesRequest session) :
    session.activeIndex = some index ∧ session.activeField = some ⟨field, some type⟩ := by
  unfold valuesRequest at hmem
  split at hmem
  next active name held hactive hfield =>
    split_ifs at hmem
    · cases hmem
    · have hsame := List.mem_singleton.mp hmem
      injection hsame with hindex hname htype
      exact ⟨by rw [hactive, hindex], by rw [hfield, hname, htype]⟩
  next => cases hmem

/-- Values are asked for where a value is expected and nowhere else. -/
theorem of_mem_requestsAt
    (hmem : Request.values index field type ∈ requestsAt settings catalog session position) :
    position = .whereValue ∧ Request.values index field type ∈ valuesRequest session := by
  have hindices : Request.values index field type ∉ indicesRequest catalog := by
    unfold indicesRequest
    split_ifs <;> simp
  have hfields : Request.values index field type ∉ activeFieldsRequest catalog session := by
    unfold activeFieldsRequest fieldsRequest
    split
    · split_ifs <;> simp
    · simp
  cases position with
  | whereValue => exact ⟨rfl, hmem⟩
  | firstCommand =>
    simp only [requestsAt] at hmem
    split_ifs at hmem
    · exact absurd hmem hindices
    · cases hmem
  | indexName | inlineIndexName => exact absurd hmem hindices
  | pipeSeparatorAfterIndex | fieldListContinuation | statsFieldArg | statsGroupField
  | fieldsFirst | dedupField | whereField => exact absurd hmem hfields
  | _ => cases hmem

end Reading

namespace Engine

variable {engine : Engine}

/-- Queries in turn, each with the backend that answers it. -/
def following (engine : Engine) (history : List (Gateway × String)) : Engine :=
  history.foldl (fun engine (gateway, query) ↦ (engine.serve gateway query).engine) engine

/-- A word as the field of a filter, with its type in the resident list of the active index. -/
def fieldAt (engine : Engine) (word : String) : ActiveField :=
  ⟨word, engine.session.activeIndex.bind (engine.catalog.typeOf · word)⟩

/-- The field is the query's own, the word two places before the cursor, and the type is the one
that the field has in the list of the index. -/
def SamplesOwn (engine : Engine) (query index field : String) (type : FieldType) : Prop :=
  (Tokens.ofQuery query).back 2 = some field ∧ engine.catalog.typeOf index field = some type

/-- Every query of the history is read where the field of a filter is kept. -/
def KeepsField : Engine → List (Gateway × String) → Prop
  | _, [] => True
  | engine, (gateway, query) :: rest =>
    (engine.reading query).position.keepsField = true ∧
      KeepsField (engine.serve gateway query).engine rest

@[simp] theorem following_concat (engine : Engine) (history : List (Gateway × String))
    (gateway : Gateway) (query : String) :
    engine.following (history ++ [(gateway, query)]) =
      ((engine.following history).serve gateway query).engine := by
  simp [following]

theorem following_closed (hopen : engine.closed = false) (history : List (Gateway × String)) :
    (engine.following history).closed = false := by
  induction history using List.reverseRecOn with
  | nil => exact hopen
  | append_singleton history turn ih =>
    rw [following_concat]
    exact serve_closed ih turn.1 turn.2

theorem KeepsField.concat {history : List (Gateway × String)} {gateway : Gateway}
    {query : String} (hkeeps : engine.KeepsField history)
    (hquery : ((engine.following history).reading query).position.keepsField = true) :
    engine.KeepsField (history ++ [(gateway, query)]) := by
  induction history generalizing engine with
  | nil => exact ⟨hquery, trivial⟩
  | cons turn rest ih => exact ⟨hkeeps.1, ih hkeeps.2 hquery⟩

/-- What one query does to the field of a filter: it keeps it, or it forgets it, or it records the
word before the cursor. -/
theorem serve_activeField_cases (hopen : engine.closed = false) (gateway : Gateway)
    (query : String) :
    (engine.reading query).position.keepsField = true ∧
        (engine.serve gateway query).engine.session.activeField = engine.session.activeField ∨
      (engine.serve gateway query).engine.session.activeField = none ∨
      (engine.reading query).position = .whereEquals ∧
        (engine.serve gateway query).engine.session.activeField =
          (Tokens.ofQuery query).previous.map engine.fieldAt := by
  have hsession := (entailed_reading engine query).1
  rw [serve_session hopen, hsession]
  cases hposition : (engine.reading query).position with
  | firstCommand => exact Or.inr (Or.inl rfl)
  | pipeCommand => exact Or.inr (Or.inl rfl)
  | whereEquals => exact Or.inr (Or.inr ⟨rfl, rfl⟩)
  | _ => exact Or.inl ⟨rfl, rfl⟩

/-- The field that the session holds was recorded by one query of the history, and every query
after that one has kept it. -/
theorem activeField_origin (settings : Settings) {history : List (Gateway × String)}
    {active : ActiveField}
    (hactive : (following { settings } history).session.activeField = some active) :
    ∃ before gateway earlier between, history = before ++ (gateway, earlier) :: between ∧
      ((following { settings } before).reading earlier).position = .whereEquals ∧
      (Tokens.ofQuery earlier).previous.map (following { settings } before).fieldAt =
        some active ∧
      ((following { settings } before).serve gateway earlier).engine.KeepsField between := by
  induction history using List.reverseRecOn with
  | nil => cases hactive
  | append_singleton history turn ih =>
    obtain ⟨gateway, query⟩ := turn
    have hopen : (following { settings } history).closed = false := following_closed rfl history
    rw [following_concat] at hactive
    rcases serve_activeField_cases hopen gateway query with
      ⟨hkeeps, hsame⟩ | hforgets | ⟨hposition, hrecords⟩
    · rw [hsame] at hactive
      obtain ⟨before, other, earlier, between, rfl, hposition, hrecords, hbetween⟩ := ih hactive
      refine ⟨before, other, earlier, between ++ [(gateway, query)], by simp, hposition, hrecords,
        hbetween.concat ?_⟩
      simpa [following] using hkeeps
    · rw [hforgets] at hactive
      cases hactive
    · exact ⟨history, gateway, query, [], rfl, hposition, hrecords ▸ hactive, trivial⟩

/-- A request for values is made of what the session holds. -/
theorem session_of_values {query index field : String} {type : FieldType}
    (hasks : Request.values index field type ∈ (engine.reading query).requests) :
    engine.session.activeIndex = some index ∧
      engine.session.activeField = some ⟨field, some type⟩ := by
  obtain ⟨hsession, hrequests⟩ := entailed_reading engine query
  rw [hrequests] at hasks
  obtain ⟨hposition, hmem⟩ := Reading.of_mem_requestsAt hasks
  rw [hsession, hposition] at hmem
  exact Reading.of_mem_valuesRequest hmem

/-- The values are those of the query's own field exactly if that field, looked up now, is the one
that the last query behind the field of a filter has recorded. -/
theorem samplesOwn_iff (settings : Settings) {history : List (Gateway × String)}
    {query index field : String} {type : FieldType}
    (hasks : Request.values index field type ∈
      ((following { settings } history).reading query).requests) :
    ∃ before gateway earlier between, history = before ++ (gateway, earlier) :: between ∧
      ((following { settings } before).reading earlier).position = .whereEquals ∧
      ((following { settings } before).serve gateway earlier).engine.KeepsField between ∧
      ((following { settings } history).SamplesOwn query index field type ↔
        ((Tokens.ofQuery query).back 2).map (following { settings } history).fieldAt =
          (Tokens.ofQuery earlier).previous.map (following { settings } before).fieldAt) := by
  obtain ⟨hindex, hfield⟩ := session_of_values hasks
  obtain ⟨before, gateway, earlier, between, hhistory, hposition, hrecords, hkeeps⟩ :=
    activeField_origin settings hfield
  refine ⟨before, gateway, earlier, between, hhistory, hposition, hkeeps, ?_⟩
  rw [hrecords, Option.map_eq_some_iff]
  simp only [SamplesOwn, fieldAt, hindex, Option.bind_some, ActiveField.mk.injEq]
  constructor
  · rintro ⟨hword, htype⟩
    exact ⟨field, hword, rfl, htype⟩
  · rintro ⟨word, hword, rfl, htype⟩
    exact ⟨hword, htype⟩

/-- A query that goes on by one word behind the field of a filter samples that field. -/
theorem samplesOwn_of_typed_on (hopen : engine.closed = false) (gateway : Gateway)
    {earlier query word : String} (hposition : (engine.reading earlier).position = .whereEquals)
    (htyped : (Tokens.ofQuery query).completed = (Tokens.ofQuery earlier).completed ++ [word])
    {index field : String} {type : FieldType}
    (hasks : Request.values index field type ∈
      ((engine.serve gateway earlier).engine.reading query).requests) :
    (engine.serve gateway earlier).engine.SamplesOwn query index field type := by
  obtain ⟨hsession, hrequests⟩ := entailed_reading engine earlier
  have hcatalog : (engine.serve gateway earlier).engine.catalog = engine.catalog := by
    rw [serve_eq hopen, resolved, hrequests, hposition]
    exact prepare_catalog engine earlier
  obtain ⟨hindex, hfield⟩ := session_of_values hasks
  rw [serve_session hopen, hsession, hposition] at hindex hfield
  obtain ⟨recorded, hprevious, hactive⟩ := Option.map_eq_some_iff.mp hfield
  obtain ⟨rfl, htype⟩ := ActiveField.mk.inj hactive
  rw [show engine.session.activeIndex = some index from hindex, Option.bind_some] at htype
  exact ⟨(Tokens.back_two htyped).trans hprevious, hcatalog ▸ htype⟩

/-- A query typed word by word up to the field of its filter. -/
def typing : List (Gateway × String) :=
  ["s", "source = logs ", "source = logs | where ", "source = logs | where size "].map
    (Gateway.furnished, ·)

/-- The next word finds the field in its place. -/
theorem samplesOwn_iff_typed :
    Request.values "logs" "size" .integer ∈
        ((following {} typing).reading "source = logs | where size = ").requests ∧
      (following {} typing).SamplesOwn "source = logs | where size = " "logs" "size" .integer ∧
      ∃ before gateway earlier between, typing = before ++ (gateway, earlier) :: between ∧
        ((following {} before).reading earlier).position = .whereEquals ∧
        ((following {} before).serve gateway earlier).engine.KeepsField between ∧
        ((following {} typing).SamplesOwn "source = logs | where size = " "logs" "size" .integer ↔
          ((Tokens.ofQuery "source = logs | where size = ").back 2).map
              (following {} typing).fieldAt =
            (Tokens.ofQuery earlier).previous.map (following {} before).fieldAt) := by
  have hasks : Request.values "logs" "size" .integer ∈
      ((following {} typing).reading "source = logs | where size = ").requests := by
    decide +kernel
  exact ⟨hasks, ⟨by decide, by decide +kernel⟩, samplesOwn_iff {} hasks⟩

/-- Once the field is replaced, the old one is still in the session, and its values are offered
behind the new one. -/
theorem samples_replaced :
    ((following {} typing).reading "source = logs | where state = ").position = .whereValue ∧
      ((following {} typing).reading "source = logs | where state = ").requests =
        [.values "logs" "size" .integer] ∧
      ¬ (following {} typing).SamplesOwn "source = logs | where state = " "logs" "size"
        .integer := by
  refine ⟨by decide +kernel, by decide +kernel, ?_⟩
  rintro ⟨hword, -⟩
  exact absurd hword (by decide)

end Engine
end PipedQuery
