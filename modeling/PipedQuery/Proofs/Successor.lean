import PipedQuery.Proofs.Steps
import PipedQuery.Suggestion

/-!
The position after a suggestion is taken. `Position.successor` is the grammar as a function of the
position and of the text that was picked. Taking any candidate that a position offers leads a query
that fits the position to the successor (`leads_joined`). What a candidate adds is a word of its
own, or it is glued to the last word, as a comma to a field and an argument to its aggregate
(`joined`); either way the label with a space behind it is the query of the joined words
(`label_joined`).
-/

set_option autoImplicit false
set_option relaxedAutoImplicit false

namespace PipedQuery

namespace Vocabulary

/-- Every word of the grammar. -/
def grammarWords : List String :=
  keywords ++ statsFunctions ++ ["|", "="]

end Vocabulary

/-- A word that can stand for a name or a value. -/
@[mk_iff]
structure Apt (word : String) : Prop where
  nonempty : word ≠ ""
  spaceless : Text.mentions ' ' word = false
  comma : Text.mentions ',' word = false
  free : word ∉ Vocabulary.grammarWords

instance (word : String) : Decidable (Apt word) :=
  decidable_of_iff _ (apt_iff word).symm

/-- The name of an index that no other word can be taken for. -/
@[mk_iff]
structure AptIndex (index : String) : Prop extends Apt index where
  equals : Text.mentions '=' index = false
  opening : Text.mentions '(' index = false
  closing : Text.mentions ')' index = false

instance (index : String) : Decidable (AptIndex index) :=
  decidable_of_iff _ (aptIndex_iff index).symm

namespace Catalog

/-- All known indices have apt names. -/
def Tame (catalog : Catalog) : Prop :=
  ∀ index, catalog.knows index = true → AptIndex index

end Catalog

namespace Position

/-- The position that follows in the grammar when a text is picked. -/
def successor : Position → String → Position
  | .firstCommand, pick => if pick = "search" then .sourceKeyword else .equalsAfterSource
  | .sourceKeyword, _ => .equalsAfterSource
  | .equalsAfterSource, _ => .indexName
  | .indexName, _ | .inlineIndexName _, _ => .pipeSeparatorAfterIndex
  | .pipeSeparatorAfterIndex, _ | .clauseComplete, _ => .pipeCommand
  | .pipeCommand, pick =>
    if pick = "where" then .whereField
    else if pick = "stats" then .statsFunction
    else if pick = "fields" then .fieldsFirst
    else if pick = "dedup" then .dedupField
    else .none
  | .whereField, _ => .whereEquals
  | .whereEquals, _ => .whereValue
  | .whereValue, _ | .statsGroupField, _ => .clauseComplete
  | .statsFunction, pick => if pick = "count()" then .statsByKeyword else .statsFieldArg
  | .statsFieldArg, _ => .statsByKeyword
  | .statsByKeyword, _ => .statsGroupField
  | .fieldsFirst, _ | .fieldListContinuation, _ => .fieldListOrPipe
  | .fieldListOrPipe, pick => if pick = "," then .fieldListContinuation else .pipeCommand
  | .dedupField, _ | .none, _ => .none

theorem eq_whereEquals_of_successor {position : Position} {pick : String}
    (hvalue : position.successor pick = .whereValue) : position = .whereEquals := by
  cases position with
  | whereEquals => rfl
  | firstCommand | pipeCommand | statsFunction | fieldListOrPipe =>
    simp only [successor] at hvalue
    split_ifs at hvalue
  | _ => cases hvalue

end Position

namespace Candidate

/-- The words of the query once the candidate is taken. -/
def joined (candidate : Candidate) (completed : List String) : List String :=
  if candidate.glued then completed.dropLast ++ [completed.getLastD "" ++ candidate.text]
  else completed ++ [candidate.text]

theorem joined_of_glued {candidate : Candidate} (hglued : candidate.glued = true)
    (done : List String) (word : String) :
    candidate.joined (done ++ [word]) = done ++ [word ++ candidate.text] := by
  simp [joined, hglued]

end Candidate

namespace Reading

variable {settings : Settings} {catalog : Catalog} {session : Session} {completed : List String}
  {word : String}

/-! ### Words that are offered -/

theorem unknown_of_grammar (htame : catalog.Tame) (hword : word ∈ Vocabulary.grammarWords) :
    catalog.knows (Vocabulary.indexReference word) = false := by
  have hself : ∀ word ∈ Vocabulary.grammarWords, Vocabulary.indexReference word = word := by
    decide
  rw [hself word hword, Bool.eq_false_iff]
  intro hknown
  exact (htame word hknown).free hword

theorem ordinary_of_grammar (htame : catalog.Tame) (hword : word ∈ Vocabulary.grammarWords)
    (hpipe : word ≠ "|") (hsource : Vocabulary.isSourceKeyword word = false) :
    Ordinary catalog word := by
  have hcomma : ∀ word ∈ Vocabulary.grammarWords, Text.mentions ',' word = false := by decide
  exact ⟨hpipe, hcomma word hword, hsource, unknown_of_grammar htame hword⟩

theorem plain_of_grammar (htame : catalog.Tame) (hword : word ∈ Vocabulary.grammarWords)
    (hfree : word ∉ Vocabulary.reserved) : Plain catalog word := by
  have hall : ∀ word ∈ Vocabulary.grammarWords, word ≠ "" ∧ Text.mentions ' ' word = false ∧
      Text.mentions ',' word = false := by decide
  obtain ⟨hnonempty, hspaceless, hcomma⟩ := hall word hword
  exact ⟨hnonempty, hspaceless, hcomma, hfree, unknown_of_grammar htame hword⟩

/-- An aggregate with its argument is taken for nothing else. -/
theorem argument_of_closed (htame : catalog.Tame) (hclosed : Text.endsIn ')' word = true)
    (hcomma : Text.mentions ',' word = false) : Argument catalog word := by
  have hother : ∀ other, Text.endsIn ')' other = false → word ≠ other := by
    rintro _ hopen rfl
    rw [hclosed] at hopen
    cases hopen
  refine ⟨⟨hother "|" (by decide), hcomma, ?_, ?_⟩, ?_⟩
  · exact isSourceKeyword_eq_false (Text.endsIn ')' · = true) hclosed (by decide)
  · rw [Bool.eq_false_iff]
    intro hknown
    have hmentions := Vocabulary.mentions_indexReference (by decide) hclosed
    rw [(htame _ hknown).closing] at hmentions
    cases hmentions
  · intro hclause
    have hall : ∀ word ∈ Vocabulary.clauseWords, Text.endsIn ')' word = false := by decide
    exact hother word (hall word hclause) rfl

/-! ### Where they lead -/

theorem leads_known (htame : catalog.Tame) (hlast : awaitsEquals completed = false)
    (hknown : catalog.knows word = true) :
    Leads settings catalog session (completed ++ [word]) .pipeSeparatorAfterIndex := by
  have hapt := htame word hknown
  have hpipe : word ≠ "|" := by
    rintro rfl
    exact hapt.free (by decide)
  have hsource := isSourceKeyword_eq_false (· ∉ Vocabulary.grammarWords) hapt.free (by decide)
  have hreference : catalog.knows (Vocabulary.indexReference word) = true := by
    rw [Vocabulary.indexReference_of_not_assigned hapt.equals, hknown]
  exact leads_index hlast hpipe hapt.comma hsource hreference

/-- Four commands open a clause or a list. The others are offered, but the grammar goes no further
with them. -/
theorem leads_command (htame : catalog.Tame) (hlast : awaitsEquals completed = false)
    (hidle : session.clause = .idle) (hlists : session.listsFields = false)
    (hcommand : word ∈ Vocabulary.pipeCommands) :
    Leads settings catalog session (completed ++ [word])
      (Position.pipeCommand.successor word) := by
  have hall : ∀ word ∈ Vocabulary.pipeCommands, word ∈ Vocabulary.grammarWords ∧ word ≠ "|" ∧
      Vocabulary.isSourceKeyword word = false ∧
      (word ∈ Vocabulary.reserved → word ∈ ["where", "stats", "fields", "dedup"]) := by decide
  obtain ⟨hgrammar, hpipe, hsource, hreserved⟩ := hall word hcommand
  have hword := ordinary_of_grammar htame hgrammar hpipe hsource
  simp only [Position.successor]
  split_ifs with hwhere hstats hfields hdedup
  · subst hwhere
    exact leads_where hlast hidle hword
  · subst hstats
    exact leads_stats hlast hword
  · subst hfields
    exact leads_fields hlast hidle hword
  · subst hdedup
    exact leads_dedup hlast hidle hlists hword
  · have hfree : word ∉ Vocabulary.reserved := by
      intro hmem
      simpa [hwhere, hstats, hfields, hdedup] using hreserved hmem
    exact leads_nowhere hlast hidle hlists (plain_of_grammar htame hgrammar hfree).argument

/-- An aggregate is offered closed or open, and only an open one waits for its argument. -/
theorem leads_function (htame : catalog.Tame) (hlast : awaitsEquals completed = false)
    (hclause : session.clause = .stats (completed.length + 1))
    (hfunction : word ∈ Vocabulary.statsFunctions) :
    Leads settings catalog session (completed ++ [word])
      (Position.statsFunction.successor word) := by
  have hall : ∀ word ∈ Vocabulary.statsFunctions, word ∈ Vocabulary.grammarWords ∧
      word ∉ Vocabulary.reserved ∧ Vocabulary.takesField word = !(word == "count()") := by decide
  obtain ⟨hgrammar, hfree, htakes⟩ := hall word hfunction
  have hword := (plain_of_grammar htame hgrammar hfree).argument
  simp only [Position.successor]
  split_ifs with hcount
  · exact leads_closed hlast hword hclause (by rw [htakes, hcount]; rfl)
  · exact leads_open hlast hword hclause (by simp [htakes, hcount])

/-- The argument that is offered closes the aggregate, and the two are one word. -/
theorem leads_argued (htame : catalog.Tame) (hlast : awaitsEquals completed = false)
    (hclause : session.clause = .stats (completed.length + 1)) {function argument : String}
    (hfunction : Text.mentions ',' function = false)
    (hargument : Text.mentions ',' argument = false) :
    Leads settings catalog session (completed ++ [function ++ (argument ++ ")")])
      .statsByKeyword := by
  have hclosed : Text.endsIn ')' (function ++ (argument ++ ")")) = true := by
    simp [Text.endsIn]
  have hcomma : Text.mentions ',' (function ++ (argument ++ ")")) = false := by
    rw [Text.mentions_eq_false_iff] at hfunction hargument ⊢
    simp [hfunction, hargument]
  have htakes : Vocabulary.takesField (function ++ (argument ++ ")")) = false := by
    simp [Vocabulary.takesField, Text.endsIn]
  exact leads_closed hlast (argument_of_closed htame hclosed hcomma) hclause htakes

end Reading

namespace Candidate

open Reading

variable {settings : Settings} {catalog : Catalog} {session : Session} {completed : List String}
  {position : Position} {candidate : Candidate} {sample : List SampledValue}

/-- The names that can be offered stand for themselves. -/
structure Clear (catalog : Catalog) (session : Session) (sample : List SampledValue) : Prop where
  agrees : catalog.Agrees
  tame : catalog.Tame
  fields : ∀ field ∈ activeFields session catalog, Plain catalog field.name
  labels : ∀ value ∈ sample, Plain catalog value.label

/-- Where a candidate leads is the successor, also in a session with another active index. -/
theorem leads_joined (hclear : Clear catalog session sample)
    (hmem : candidate ∈ all position session catalog sample) {after : Session}
    (hfits : Fits after.clause after.listsFields completed position) :
    Leads settings catalog after (candidate.joined completed)
      (position.successor candidate.text) := by
  have htame := hclear.tame
  cases position with
  | firstCommand =>
    have hcases : candidate = keyword "index" ∨ candidate = keyword "search" ∨
        candidate = keyword "source" := by simpa [all, Vocabulary.firstCommands] using hmem
    rcases hcases with rfl | rfl | rfl
    · exact leads_source (by decide)
    · exact leads_search hfits
        (ordinary_of_grammar htame (by decide) (by decide) (by decide))
    · exact leads_source (by decide)
  | sourceKeyword =>
    obtain rfl := List.mem_singleton.mp hmem
    exact leads_source (by decide)
  | equalsAfterSource =>
    obtain rfl := List.mem_singleton.mp hmem
    exact leads_equals hfits
  | indexName =>
    obtain ⟨index, hindex, rfl⟩ := List.mem_map.mp hmem
    exact leads_known htame hfits ((hclear.agrees index).mpr hindex)
  | inlineIndexName keyword => exact hfits.elim
  | pipeSeparatorAfterIndex | clauseComplete =>
    obtain rfl := List.mem_singleton.mp hmem
    exact leads_pipe
  | pipeCommand =>
    obtain ⟨command, hcommand, rfl⟩ := List.mem_map.mp hmem
    obtain ⟨hlast, hidle, hlists⟩ := hfits
    exact leads_command htame hlast hidle hlists hcommand
  | whereField =>
    obtain ⟨field, hfield, rfl⟩ := List.mem_map.mp hmem
    exact leads_whereEquals hfits.1 (hclear.fields field hfield).argument hfits.2
  | whereEquals =>
    obtain rfl := List.mem_singleton.mp hmem
    exact leads_whereValue hfits.1 (plain_of_grammar htame (by decide) (by decide)).argument
      hfits.2
  | whereValue =>
    obtain ⟨value, hvalue, rfl⟩ := List.mem_map.mp hmem
    exact leads_filtered hfits.1 (hclear.labels value hvalue).argument hfits.2
  | statsFunction =>
    obtain ⟨function, hfunction, rfl⟩ := List.mem_map.mp hmem
    exact leads_function htame hfits.1 hfits.2 hfunction
  | statsFieldArg =>
    obtain ⟨field, hfield, rfl⟩ := List.mem_map.mp hmem
    obtain ⟨done, function, rfl, _, hcomma, hlast, hclause⟩ := hfits
    rw [joined_of_glued rfl]
    exact leads_argued htame hlast hclause hcomma
      (hclear.fields field (List.mem_filter.mp hfield).1).comma
  | statsByKeyword =>
    obtain rfl := List.mem_singleton.mp hmem
    exact leads_by hfits.1 (plain_of_grammar htame (by decide) (by decide)).argument hfits.2
  | statsGroupField =>
    obtain ⟨field, hfield, rfl⟩ := List.mem_map.mp hmem
    exact leads_tallied hfits.1 (hclear.fields field hfield).argument hfits.2
  | fieldsFirst | fieldListContinuation =>
    obtain ⟨field, hfield, rfl⟩ := List.mem_map.mp hmem
    obtain ⟨hlast, hidle, hlists⟩ := hfits
    exact leads_listed hlast hidle hlists (hclear.fields field hfield).argument
  | fieldListOrPipe =>
    obtain ⟨hsome, hidle, hlists⟩ := hfits
    have hcases : candidate = { text := ",", glued := true } ∨ candidate = sign "|" := by
      simpa [all] using hmem
    rcases hcases with rfl | rfl
    · obtain ⟨done, word, rfl⟩ := (List.eq_nil_or_concat' completed).resolve_left hsome
      rw [joined_of_glued rfl]
      exact leads_comma hidle hlists word
    · exact leads_pipe
  | dedupField =>
    obtain ⟨field, hfield, rfl⟩ := List.mem_map.mp hmem
    obtain ⟨hlast, hidle, hlists⟩ := hfits
    exact leads_nowhere hlast hidle hlists (hclear.fields field hfield).argument
  | none => cases hmem

theorem spaceless_text (hclear : Clear catalog session sample)
    (hmem : candidate ∈ all position session catalog sample) {clause : Clause} {lists : Bool}
    (hfits : Fits clause lists completed position) : ' ' ∉ candidate.text.toList := by
  have hplain : ∀ {word}, Plain catalog word → ' ' ∉ word.toList := fun hword ↦
    Text.mentions_eq_false_iff.mp hword.spaceless
  cases position with
  | firstCommand =>
    have hall : ∀ word ∈ Vocabulary.firstCommands, ' ' ∉ word.toList := by decide
    obtain ⟨word, hword, rfl⟩ := List.mem_map.mp hmem
    exact hall word hword
  | pipeCommand =>
    have hall : ∀ word ∈ Vocabulary.pipeCommands, ' ' ∉ word.toList := by decide
    obtain ⟨word, hword, rfl⟩ := List.mem_map.mp hmem
    exact hall word hword
  | statsFunction =>
    have hall : ∀ word ∈ Vocabulary.statsFunctions, ' ' ∉ word.toList := by decide
    obtain ⟨word, hword, rfl⟩ := List.mem_map.mp hmem
    exact hall word hword
  | sourceKeyword | equalsAfterSource | whereEquals | pipeSeparatorAfterIndex | clauseComplete
  | statsByKeyword =>
    obtain rfl := List.mem_singleton.mp hmem
    decide
  | fieldListOrPipe =>
    have hcases : candidate = { text := ",", glued := true } ∨ candidate = sign "|" := by
      simpa [all] using hmem
    rcases hcases with rfl | rfl <;> decide
  | indexName =>
    obtain ⟨index, hindex, rfl⟩ := List.mem_map.mp hmem
    have hknown : catalog.knows index = true := (hclear.agrees index).mpr hindex
    exact Text.mentions_eq_false_iff.mp (hclear.tame index hknown).spaceless
  | inlineIndexName keyword => exact hfits.elim
  | fieldListContinuation | statsGroupField | fieldsFirst | dedupField | whereField =>
    obtain ⟨field, hfield, rfl⟩ := List.mem_map.mp hmem
    exact hplain (hclear.fields field hfield)
  | statsFieldArg =>
    obtain ⟨field, hfield, rfl⟩ := List.mem_map.mp hmem
    simpa [argument] using hplain (hclear.fields field (List.mem_filter.mp hfield).1)
  | whereValue =>
    obtain ⟨value, hvalue, rfl⟩ := List.mem_map.mp hmem
    exact hplain (hclear.labels value hvalue)
  | none => cases hmem

/-- The joined words are those of `done` and one more, of which the text is the end. -/
theorem exists_joined (candidate : Candidate) (completed : List String) :
    ∃ done lead, candidate.joined completed = done ++ [lead ++ candidate.text] ∧
      (if candidate.glued then (⟨completed, ""⟩ : Tokens).gluedHead
        else (⟨completed, ""⟩ : Tokens).head) = (⟨done, ""⟩ : Tokens).head ++ lead ∧
      (completed = done ++ [lead] ∨ completed = done ∧ lead = "") := by
  cases hglued : candidate.glued with
  | false => exact ⟨completed, "", by simp [joined, hglued], by simp, Or.inr ⟨rfl, rfl⟩⟩
  | true =>
    rcases List.eq_nil_or_concat' completed with rfl | ⟨done, word, rfl⟩
    · exact ⟨[], "", by simp [joined, hglued], by simp [Tokens.gluedHead, Tokens.head],
        Or.inr ⟨rfl, rfl⟩⟩
    · exact ⟨done, word, joined_of_glued hglued done word,
        by simp [Tokens.gluedHead_concat], Or.inl rfl⟩

theorem spaceless_joined (hcompleted : ∀ word ∈ completed, ' ' ∉ word.toList)
    (htext : ' ' ∉ candidate.text.toList) :
    ∀ word ∈ candidate.joined completed, ' ' ∉ word.toList := by
  obtain ⟨done, lead, hjoined, -, hwords⟩ := candidate.exists_joined completed
  have hdone : ∀ word ∈ done, ' ' ∉ word.toList := by
    rcases hwords with rfl | ⟨rfl, -⟩
    · exact fun word hword ↦ hcompleted word (List.mem_append_left _ hword)
    · exact hcompleted
  have hlead : ' ' ∉ lead.toList := by
    rcases hwords with rfl | ⟨-, rfl⟩
    · exact hcompleted lead (by simp)
    · simp
  rw [hjoined]
  simp only [List.mem_append, List.mem_singleton]
  rintro word (hword | rfl)
  · exact hdone word hword
  · simp [hlead, htext]

/-- A suggestion that is taken, with the space behind it, is the query of the joined words. -/
theorem label_joined {suggestion : Suggestion}
    (hsuggestion : candidate.suggestion ⟨completed, ""⟩ = some suggestion) :
    suggestion.label ++ " " = (⟨candidate.joined completed, ""⟩ : Tokens).query ∧
      suggestion.tail = candidate.text ∧ suggestion.item = candidate.item := by
  have hafter : Text.after "" candidate.text = some candidate.text := by
    simp [Text.after, Text.dropLead]
  obtain ⟨done, lead, hjoined, hhead, -⟩ := candidate.exists_joined completed
  simp only [Candidate.suggestion, hafter, hhead] at hsuggestion
  split_ifs at hsuggestion
  obtain rfl := Option.some.inj hsuggestion
  refine ⟨?_, rfl, rfl⟩
  simp [hjoined, Tokens.query, Tokens.head, String.append_assoc]

end Candidate
end PipedQuery
