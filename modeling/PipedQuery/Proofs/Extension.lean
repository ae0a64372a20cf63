import Mathlib.Data.List.Forall2
import PipedQuery.Proofs.Words
import PipedQuery.Suggestion

/-!
Suggestions as extensions of the word under the cursor. A candidate becomes a suggestion exactly
if its text begins with that word and goes on behind it, and the suggestion then holds the rest of
the text and the query that it replaces (`Makes`). So the suggestions of a position are its
candidates that extend the word, one for one and in their order (`all_exact`).
-/

set_option autoImplicit false
set_option relaxedAutoImplicit false

namespace PipedQuery

/-- The stem is the query from behind its last space on. A query without a space is its own
stem. -/
def IsStem (query stem : String) : Prop :=
  ' ' ∉ stem.toList ∧ (query = stem ∨ ∃ lead, query = lead ++ " " ++ stem)

/-- The query with the space before its stem taken out. A query of one word has no such space and
stays as it is. -/
def IsDrawnTogether (query stem drawn : String) : Prop :=
  query = stem ∧ drawn = query ∨ ∃ lead, query = lead ++ " " ++ stem ∧ drawn = lead ++ stem

namespace Tokens

/-- A query is its last word alone, or this stands behind the glued head and a space. -/
theorem query_cases (tokens : Tokens) :
    tokens.query = tokens.stem ∧ tokens.gluedHead = "" ∨
      tokens.query = tokens.gluedHead ++ " " ++ tokens.stem := by
  obtain ⟨completed, stem⟩ := tokens
  rcases List.eq_nil_or_concat' completed with rfl | ⟨done, word, rfl⟩
  · exact Or.inl ⟨by simp [query, head], rfl⟩
  · exact Or.inr (query_concat done word stem)

theorem isStem_ofQuery (text : String) : IsStem text (ofQuery text).stem := by
  constructor
  · exact spaceless_ofQuery text _ (by simp [words])
  · rcases (ofQuery text).query_cases with ⟨hquery, -⟩ | hquery
    · exact Or.inl ((query_ofQuery text).symm.trans hquery)
    · exact Or.inr ⟨_, (query_ofQuery text).symm.trans hquery⟩

theorem isDrawnTogether_gluedHead (text : String) :
    IsDrawnTogether text (ofQuery text).stem ((ofQuery text).gluedHead ++ (ofQuery text).stem) := by
  have htext := query_ofQuery text
  rcases (ofQuery text).query_cases with ⟨hquery, hglued⟩ | hquery
  · have hone : text = (ofQuery text).stem := htext.symm.trans hquery
    refine Or.inl ⟨hone, ?_⟩
    rw [hglued, String.empty_append, ← hone]
  · exact Or.inr ⟨_, htext.symm.trans hquery, rfl⟩

end Tokens

namespace Candidate

variable {candidate : Candidate} {stem query : String}

/-- The text begins with the stem and is not the stem itself. -/
def Extends (stem : String) (candidate : Candidate) : Prop :=
  stem.toList <+: candidate.text.toList ∧ candidate.text ≠ stem

instance (stem : String) (candidate : Candidate) : Decidable (candidate.Extends stem) :=
  inferInstanceAs (Decidable (_ ∧ _))

/-- What a suggestion for a query is to the candidate that makes it. -/
structure Makes (query stem : String) (candidate : Candidate) (suggestion : Suggestion) :
    Prop where
  text : candidate.text = stem ++ suggestion.tail
  tail : suggestion.tail ≠ ""
  /-- The stem ends between two characters of the text, counted in bytes. -/
  boundary : stem.rawEndPos.IsValid candidate.text
  label : suggestion.label = suggestion.replaced ++ suggestion.tail
  whole : candidate.glued = false → suggestion.replaced = query
  drawn : candidate.glued = true → IsDrawnTogether query stem suggestion.replaced
  item : suggestion.item = candidate.item
  details : suggestion.details = candidate.details

/-- To extend the stem is to be the stem with something behind it. -/
theorem extends_iff :
    candidate.Extends stem ↔ ∃ tail, tail ≠ "" ∧ candidate.text = stem ++ tail := by
  constructor
  · rintro ⟨⟨rest, hrest⟩, hdiffers⟩
    have htext : candidate.text = stem ++ String.ofList rest := by
      rw [← String.toList_inj, String.toList_append, String.toList_ofList, hrest]
    refine ⟨String.ofList rest, ?_, htext⟩
    intro hempty
    exact hdiffers (by rw [htext, hempty, String.append_empty])
  · rintro ⟨tail, htail, htext⟩
    refine ⟨⟨tail.toList, by rw [htext, String.toList_append]⟩, ?_⟩
    intro hsame
    have hempty : stem ++ tail = stem ++ "" := by rw [← htext, hsame, String.append_empty]
    exact htail ((String.append_right_inj stem).mp hempty)

theorem suggestion_eq_none (tokens : Tokens) (hother : ¬ candidate.Extends tokens.stem) :
    candidate.suggestion tokens = none := by
  unfold suggestion
  split
  · rfl
  next tail hafter =>
    rw [if_pos]
    by_contra htail
    refine hother (extends_iff.mpr ⟨tail, ?_, Text.after_eq_some_iff.mp hafter⟩)
    simpa using htail

/-- A candidate that extends the stem makes one suggestion. -/
theorem exists_makes (query : String) (hextends : candidate.Extends (Tokens.ofQuery query).stem) :
    ∃ suggestion, candidate.suggestion (Tokens.ofQuery query) = some suggestion ∧
      candidate.Makes query (Tokens.ofQuery query).stem suggestion := by
  obtain ⟨tail, htail, htext⟩ := extends_iff.mp hextends
  have hnonempty : tail.isEmpty = false := by simpa using htail
  have hboundary : (Tokens.ofQuery query).stem.rawEndPos.IsValid candidate.text :=
    String.Pos.Raw.isValid_iff_exists_append.mpr ⟨_, tail, htext, rfl⟩
  have hwhole : (Tokens.ofQuery query).head ++ (Tokens.ofQuery query).stem = query :=
    Tokens.query_ofQuery query
  have hdrawn := Tokens.isDrawnTogether_gluedHead query
  simp only [suggestion, Text.after_eq_some_iff.mpr htext, hnonempty, Bool.false_eq_true,
    if_false]
  refine ⟨_, rfl, ⟨htext, htail, hboundary, rfl, ?_, ?_, rfl, rfl⟩⟩
  · intro hordinary
    simpa [hordinary] using hwhole
  · intro hglued
    simpa [hglued] using hdrawn

theorem suggestion_item {tokens : Tokens} {candidate : Candidate} {suggestion : Suggestion}
    (hsuggestion : candidate.suggestion tokens = some suggestion) :
    suggestion.item = candidate.item := by
  unfold Candidate.suggestion at hsuggestion
  split at hsuggestion
  · cases hsuggestion
  · split at hsuggestion
    · cases hsuggestion
    · rw [← Option.some.inj hsuggestion]

/-- The comma behind a field and the field that closes an aggregate attach to the word before
them. -/
theorem glued_iff {position : Position} {session : Session} {catalog : Catalog}
    {sample : List SampledValue} (hmem : candidate ∈ all position session catalog sample) :
    candidate.glued = true ↔
      position = .statsFieldArg ∨ position = .fieldListOrPipe ∧ candidate.text = "," := by
  cases position with
  | fieldListOrPipe =>
    have hcases : candidate = { text := ",", glued := true } ∨ candidate = sign "|" := by
      simpa [all] using hmem
    rcases hcases with rfl | rfl <;> decide
  | statsFieldArg =>
    obtain ⟨field, -, rfl⟩ := List.mem_map.mp hmem
    simp [argument]
  | none => cases hmem
  | sourceKeyword | equalsAfterSource | whereEquals | pipeSeparatorAfterIndex | clauseComplete
  | statsByKeyword =>
    obtain rfl := List.mem_singleton.mp hmem
    decide
  | _ =>
    obtain ⟨origin, -, rfl⟩ := List.mem_map.mp hmem
    simp [keyword, Candidate.field, value]

end Candidate

namespace Suggestion

/-- Where a function is defined exactly on what a filter keeps, it maps one list to the other. -/
theorem forall₂_filter_filterMap {α β : Type} {R : α → β → Prop} {kept : α → Prop}
    [DecidablePred kept] {make : α → Option β}
    (hkept : ∀ a, kept a → ∃ b, make a = some b ∧ R a b) (hdropped : ∀ a, ¬ kept a → make a = none)
    (list : List α) :
    List.Forall₂ R (list.filter kept) (list.filterMap make) := by
  induction list with
  | nil => exact List.Forall₂.nil
  | cons a list ih =>
    by_cases ha : kept a
    · obtain ⟨b, hmake, hrelated⟩ := hkept a ha
      rw [List.filter_cons_of_pos (by simpa using ha), List.filterMap_cons_some hmake]
      exact List.Forall₂.cons hrelated ih
    · rw [List.filter_cons_of_neg (by simpa using ha), List.filterMap_cons_none (hdropped a ha)]
      exact ih

/-- The suggestions for a query are made of the candidates that extend its stem, each of one, in
their order, and of nothing else. -/
theorem all_exact (position : Position) (query : String) (session : Session) (catalog : Catalog)
    (sample : List SampledValue) :
    IsStem query (Tokens.ofQuery query).stem ∧
      List.Forall₂ (Candidate.Makes query (Tokens.ofQuery query).stem)
        ((Candidate.all position session catalog sample).filter
          (Candidate.Extends (Tokens.ofQuery query).stem))
        (all position (Tokens.ofQuery query) session catalog sample) ∧
      ∀ candidate ∈ Candidate.all position session catalog sample, candidate.glued = true ↔
        position = .statsFieldArg ∨ position = .fieldListOrPipe ∧ candidate.text = "," := by
  refine ⟨Tokens.isStem_ofQuery query, ?_, fun candidate hmem ↦ Candidate.glued_iff hmem⟩
  refine forall₂_filter_filterMap ?_ ?_ _
  · intro candidate hextends
    exact Candidate.exists_makes query hextends
  · intro candidate hother
    exact Candidate.suggestion_eq_none _ hother

end Suggestion
end PipedQuery
