import PipedQuery.Proofs.Erasure
import PipedQuery.Proofs.HeldFields

/-!
Two engines that read the same queries and hold different fields. They are alike in what decides
positions, so they go through the same ones (`Alike.positions`), and the first query that asks for
fields makes them hold the same (`Alike.heldFields_serve`). What can outlast that is the type of a
filter's field, when it was looked up before (`Alike.activeField_served`). So the engines offer
different suggestions exactly where a value is expected for such a field
(`Alike.items_served_iff`).
-/

set_option autoImplicit false
set_option relaxedAutoImplicit false

namespace PipedQuery

namespace Candidate

/-- The field of a filter and the sample count where a value is expected, the fields of the active
index where a field is. -/
theorem all_congr_session {position : Position} {session changed : Session}
    {catalog other : Catalog} {sample values : List SampledValue}
    (hindices : catalog.indices = other.indices)
    (hfields : position.asksField = true →
      activeFields session catalog = activeFields changed other)
    (hvalue : position = .whereValue →
      sample = values ∧ session.activeField = changed.activeField) :
    all position session catalog sample = all position changed other values := by
  cases position with
  | whereValue =>
    obtain ⟨hsample, hfield⟩ := hvalue rfl
    simp only [all, hsample, hfield]
  | fieldListContinuation | statsFieldArg | statsGroupField | fieldsFirst | dedupField
  | whereField => simp only [all, hfields rfl]
  | indexName | inlineIndexName => simp only [all, hindices]
  | _ => rfl

end Candidate

namespace Reading

variable {settings : Settings} {catalog other : Catalog} {session here there : Session}
  {tokens : Tokens} {position : Position}

/-- Of the session the clause and the list of fields decide the position. -/
theorem position_congr_session (hclause : here.clause = there.clause)
    (hlists : here.listsFields = there.listsFields) :
    (ofTokens settings catalog here tokens).position =
      (ofTokens settings catalog there tokens).position := by
  refine (position_eq_iff (fun (_ : True) ↦ hclause) (fun hlost ↦ absurd trivial hlost)).mpr
    ⟨fun _ ↦ trivial, fun listed hlisted ↦ ?_⟩
  rw [hlists, listsFields_of_inList hlisted]

/-- A field of a filter has an effect on itself only. -/
theorem sessionAt_withField (field : Option ActiveField) :
    sessionAt other { session with activeField := field } tokens position =
      { sessionAt catalog session tokens position with
        activeField := (sessionAt other { session with activeField := field } tokens
          position).activeField } := by
  cases position <;> rfl

end Reading

namespace Engine

variable {gateway : Gateway} {engine other : Engine} {names : List String}

/-- The engines know the same indices and are in the same session, but for the field of a filter. -/
structure Alike (engine other : Engine) : Prop where
  settings : other.settings = engine.settings
  indices : other.catalog.indices = engine.catalog.indices
  known : other.catalog.known = engine.catalog.known
  session : other.session = { engine.session with activeField := other.session.activeField }

/-- An engine that has fetched something is like the one before. -/
theorem Supplied.alike_resolve (hsupplied : engine.Supplied gateway names)
    (sample : List SampledValue) (requests : List Request) :
    engine.Alike (engine.resolve gateway sample requests).engine where
  settings := resolve_settings engine sample requests
  indices := by
    rw [Catalog.indices, (hsupplied.resolve sample requests).loaded, Catalog.indices,
      hsupplied.loaded]
  known := resolve_known hsupplied.loaded sample requests
  session := by rw [resolve_session]

namespace Alike

variable (halike : engine.Alike other)

include halike

theorem position (query : String) :
    (other.reading query).position = (engine.reading query).position := by
  have hclause : other.session.clause = engine.session.clause := by rw [halike.session]
  have hlists : other.session.listsFields = engine.session.listsFields := by rw [halike.session]
  unfold reading
  rw [halike.settings, Reading.position_congr halike.known,
    Reading.position_congr_session hclause hlists]

theorem reading_session (query : String) :
    (other.reading query).session =
      { (engine.reading query).session with
        activeField := (other.reading query).session.activeField } := by
  rw [(other.entailed_reading query).1, (engine.entailed_reading query).1, halike.position query,
    halike.session]
  exact Reading.sessionAt_withField _

theorem activeIndex (query : String) :
    (other.reading query).session.activeIndex = (engine.reading query).session.activeIndex := by
  rw [halike.reading_session query]

section Supplied

variable (hengine : engine.Supplied gateway names) (hother : other.Supplied gateway names)

include hengine hother

theorem serve (query : String) :
    (engine.serve gateway query).engine.Alike (other.serve gateway query).engine where
  settings := by
    rw [serve_settings hother.opened, serve_settings hengine.opened, halike.settings]
  indices := by
    rw [Catalog.indices, (hother.serve query).loaded, Catalog.indices, (hengine.serve query).loaded]
  known := by
    rw [serve_known hother.opened hother.loaded, serve_known hengine.opened hengine.loaded,
      halike.known]
  session := by
    rw [serve_session hother.opened, serve_session hengine.opened]
    exact halike.reading_session query

/-- What is renewed is renewed alike. -/
theorem heldFields_serve {query : String}
    (hrenews : (engine.reading query).position.renewsFields = true) :
    (other.serve gateway query).engine.heldFields =
      (engine.serve gateway query).engine.heldFields := by
  have hotherwise : (other.reading query).position.renewsFields = true := by
    rw [halike.position query, hrenews]
  rw [hother.heldFields_serve hotherwise, hengine.heldFields_serve hrenews,
    halike.activeIndex query]

theorem items {query : String}
    (hvalue : (engine.reading query).position = .whereValue →
      other.session.activeField = engine.session.activeField) :
    (other.serve gateway query).batch.items = (engine.serve gateway query).batch.items := by
  have hafter := halike.serve hengine hother query
  have hindices : (other.resolved gateway query).engine.catalog.indices =
      (engine.resolved gateway query).engine.catalog.indices := by
    simpa only [serve_eq hother.opened, serve_eq hengine.opened] using hafter.indices
  have hfields : (engine.reading query).position.asksField = true →
      Candidate.activeFields (other.reading query).session
          (other.resolved gateway query).engine.catalog =
        Candidate.activeFields (engine.reading query).session
          (engine.resolved gateway query).engine.catalog := by
    intro hasks
    have hheld := halike.heldFields_serve hengine hother (Position.renewsFields_of_asksField hasks)
    rw [heldFields, serve_session hother.opened, serve_eq hother.opened, heldFields,
      serve_session hengine.opened, serve_eq hengine.opened] at hheld
    exact congrArg (Option.getD · []) hheld
  have hsampled : (engine.reading query).position = .whereValue →
      (other.resolved gateway query).sample = (engine.resolved gateway query).sample ∧
        (other.reading query).session.activeField =
          (engine.reading query).session.activeField := by
    intro hposition
    have hsame : other.session = engine.session := by rw [halike.session, hvalue hposition]
    have hotherwise := (halike.position query).trans hposition
    rw [sample_of_whereValue hother.opened hotherwise,
      sample_of_whereValue hengine.opened hposition, (other.entailed_reading query).1,
      (engine.entailed_reading query).1, hotherwise, hposition, hsame]
    exact ⟨rfl, rfl⟩
  have hcandidates := Candidate.all_congr_session hindices hfields hsampled
  rw [serve_eq hother.opened, serve_eq hengine.opened, halike.position query]
  simp only [Suggestion.all, hcandidates]

end Supplied

end Alike

/-! ### Queries in turn -/

namespace Alike

variable (halike : engine.Alike other) (hengine : engine.Supplied gateway names)
  (hother : other.Supplied gateway names)

include halike hengine hother

theorem served (queries : List String) :
    (engine.served gateway queries).Alike (other.served gateway queries) := by
  induction queries generalizing engine other with
  | nil => exact halike
  | cons query rest ih =>
    exact ih (halike.serve hengine hother query) (hengine.serve query) (hother.serve query)

theorem positions (queries : List String) :
    other.positions gateway queries = engine.positions gateway queries := by
  induction queries generalizing engine other with
  | nil => rfl
  | cons query rest ih =>
    rw [Engine.positions, Engine.positions, halike.position query,
      ih (halike.serve hengine hother query) (hengine.serve query) (hother.serve query)]

/-- The engines hold the same fields again, or no query has renewed them. -/
theorem heldFields_served (queries : List String) :
    (other.served gateway queries).heldFields = (engine.served gateway queries).heldFields ∨
      ∀ position ∈ engine.positions gateway queries, position.renewsFields = false := by
  induction queries using List.reverseRecOn with
  | nil => exact Or.inr nofun
  | append_singleton queries query ih =>
    have hsame := halike.served hengine hother queries
    have hleft := hengine.served queries
    have hright := hother.served queries
    simp only [served_concat, positions_concat]
    cases hrenews : ((engine.served gateway queries).reading query).position.renewsFields with
    | true => exact Or.inl (hsame.heldFields_serve hleft hright hrenews)
    | false =>
      have hotherwise :
          ((other.served gateway queries).reading query).position.renewsFields = false := by
        rw [hsame.position query, hrenews]
      rw [heldFields_serve_of_not_renews hleft.opened hrenews,
        heldFields_serve_of_not_renews hright.opened hotherwise]
      refine ih.imp id fun hnone ↦ ?_
      simpa [hrenews, or_imp, forall_and] using hnone

/-- The engines are behind the same field of a filter, with the same type, or it was recorded
before the fields were renewed in which they differed at first. -/
theorem activeField_served (hfield : other.session.activeField = engine.session.activeField)
    (queries : List String) :
    (other.served gateway queries).session.activeField =
        (engine.served gateway queries).session.activeField ∨
      other.heldFields ≠ engine.heldFields ∧
        Position.RecordsEarly (engine.positions gateway queries) := by
  induction queries using List.reverseRecOn with
  | nil => exact Or.inl hfield
  | append_singleton queries query ih =>
    have hsame := halike.served hengine hother queries
    have hleft := hengine.served queries
    have hright := hother.served queries
    have hposition := hsame.position query
    simp only [served_concat, positions_concat]
    by_cases hequals : ((engine.served gateway queries).reading query).position = .whereEquals
    · -- The word is recorded with what the engines hold now, which is what they held at first
      -- unless it was renewed.
      rw [activeField_serve_whereEquals hright.opened gateway (hposition.trans hequals),
        activeField_serve_whereEquals hleft.opened gateway hequals]
      by_cases hheld : (other.served gateway queries).heldFields =
          (engine.served gateway queries).heldFields
      · exact Or.inl (by rw [hheld])
      · have hnone := (halike.heldFields_served hengine hother queries).resolve_left hheld
        have hotherwise : ∀ position ∈ other.positions gateway queries,
            position.renewsFields = false := by rwa [halike.positions hengine hother queries]
        rw [hengine.heldFields_served hnone, hother.heldFields_served hotherwise] at hheld
        exact Or.inr ⟨hheld, _, [], by rw [hequals], hnone, nofun⟩
    · cases hkeeps : ((engine.served gateway queries).reading query).position.keepsField with
      | true =>
        have hotherwise :
            ((other.served gateway queries).reading query).position.keepsField = true := by
          rw [hposition, hkeeps]
        rw [activeField_serve_of_keeps hright.opened gateway hotherwise,
          activeField_serve_of_keeps hleft.opened gateway hkeeps]
        exact ih.imp id fun hearly ↦ ⟨hearly.1, hearly.2.concat hkeeps⟩
      | false =>
        have hotherwise :
            ((other.served gateway queries).reading query).position.keepsField = false := by
          rw [hposition, hkeeps]
        rw [activeField_serve_of_forgets hright.opened gateway hotherwise (hposition ▸ hequals),
          activeField_serve_of_forgets hleft.opened gateway hkeeps hequals]
        exact Or.inl rfl

/-- At least one of two engines that do not hold the same fields holds none. -/
theorem heldFields_eq_none (hheld : other.heldFields ≠ engine.heldFields) :
    engine.heldFields = none ∨ other.heldFields = none := by
  rcases hengine.heldFields_cases with hleft | hleft
  · exact Or.inl hleft
  · rcases hother.heldFields_cases with hright | hright
    · exact Or.inr hright
    · refine absurd ?_ hheld
      rw [hright, hleft, halike.session]

/-- Where the engines differ is shown by one query only: it has come to the value of a filter whose
field was recorded while one of them did not hold its type, and then that one offers nothing. -/
theorem items_served_iff (hfield : other.session.activeField = engine.session.activeField)
    (queries : List String) (query : String) :
    ((other.served gateway queries).serve gateway query).batch.items =
        ((engine.served gateway queries).serve gateway query).batch.items ↔
      ¬ (((engine.served gateway queries).serve gateway query).batch.position = .whereValue ∧
        other.heldFields ≠ engine.heldFields ∧
        Position.RecordsEarly (engine.positions gateway queries) ∧
        (((engine.served gateway queries).serve gateway query).batch.items ≠ [] ∨
          ((other.served gateway queries).serve gateway query).batch.items ≠ [])) := by
  have hsame := halike.served hengine hother queries
  have hleft := hengine.served queries
  have hright := hother.served queries
  have hposition : ((engine.served gateway queries).serve gateway query).batch.position =
      ((engine.served gateway queries).reading query).position := by rw [serve_eq hleft.opened]
  rw [hposition]
  by_cases hearly : ((engine.served gateway queries).reading query).position = .whereValue ∧
      other.heldFields ≠ engine.heldFields ∧
      Position.RecordsEarly (engine.positions gateway queries)
  · obtain ⟨hvalue, hheld, hearly⟩ := hearly
    have hempty : ((engine.served gateway queries).serve gateway query).batch.items = [] ∨
        ((other.served gateway queries).serve gateway query).batch.items = [] := by
      refine (halike.heldFields_eq_none hengine hother hheld).imp (fun hnone ↦ ?_) fun hnone ↦ ?_
      · exact items_of_type_unknown hleft.opened hvalue (hengine.type_unknown hnone hearly)
      · refine items_of_type_unknown hright.opened ((hsame.position query).trans hvalue)
          (hother.type_unknown hnone ?_)
        rwa [halike.positions hengine hother queries]
    rcases hempty with hnil | hnil
    · simp [hnil, hvalue, hheld, hearly]
    · rw [eq_comm]
      simp [hnil, hvalue, hheld, hearly]
  · refine iff_of_true (hsame.items hleft hright fun hvalue ↦ ?_) fun hshows ↦
      hearly ⟨hshows.1, hshows.2.1, hshows.2.2.1⟩
    exact (halike.activeField_served hengine hother hfield queries).resolve_right
      fun hrecorded ↦ hearly ⟨hvalue, hrecorded⟩

end Alike

end Engine
end PipedQuery
