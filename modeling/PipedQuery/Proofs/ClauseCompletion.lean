import PipedQuery.Proofs.Dialogue
import PipedQuery.Proofs.Keystrokes
import PipedQuery.Proofs.SampleOffer

/-!
Values that end their filter. A value is offered as the backend words it, and once it is taken the
query is cut at its spaces again and the rules are tried in their order. A position in a filter
tells that the word before the cursor is an argument and how many words stand behind the keyword
(`argument_of_position`). So a value that is taken completes the clause exactly if it is one plain
word (`take_completes_iff`).
-/

set_option autoImplicit false
set_option relaxedAutoImplicit false

namespace PipedQuery

/-! ### What a position in a filter tells -/

/-- A phase of a filter leads there. -/
def Position.inFilter : Position → Bool
  | whereEquals | whereValue | clauseComplete => true
  | _ => false

namespace FilterPhase

/-- The number of words behind the keyword of the filter. -/
def behind : FilterPhase → Nat
  | equals => 1
  | value => 2
  | complete => 3

theorem position_injective : Function.Injective position := by
  intro phase other hsame
  cases phase <;> cases other <;> first | rfl | cases hsame

theorem ne_position {found : Position} (hother : found.inFilter = false) (phase : FilterPhase) :
    found ≠ phase.position := by
  rintro rfl
  cases phase <;> cases hother

end FilterPhase

theorem Clause.filterPhase_eq_some_iff {clause : Clause} {size : Nat} {phase : FilterPhase} :
    clause.filterPhase size = some phase ↔
      ∃ anchor, clause = .filter anchor ∧ size = anchor + phase.behind := by
  cases clause with
  | filter anchor => cases phase <;> grind [filterPhase, FilterPhase.behind]
  | idle => simp [filterPhase]
  | stats anchor => simp [filterPhase]

namespace Reading

variable {settings : Settings} {catalog : Catalog} {session : Session} {tokens : Tokens}
  {previous : String} {phase : FilterPhase}

/-- The query stands in the phase of a filter, or behind a tally, which ends alike. -/
def Reaches (session : Session) (tokens : Tokens) (phase : FilterPhase) : Prop :=
  session.clause.filterPhase tokens.size = some phase ∨
    phase = .complete ∧ session.clause.statsPhase tokens = some .complete

theorem position_ofFilter (previous : String) (phase : FilterPhase) :
    (ofFilter catalog session previous phase).position = phase.position := by
  cases phase <;> rfl

theorem reaches_of_ofCommand
    (hposition : (ofCommand catalog session tokens previous).position = phase.position) :
    Reaches session tokens phase ∧ previous ∉ ["fields", "dedup", "where"] := by
  unfold ofCommand at hposition
  split at hposition
  · exact absurd hposition (phase.ne_position rfl)
  split at hposition
  · exact absurd hposition (phase.ne_position rfl)
  split at hposition
  · exact absurd hposition (phase.ne_position rfl)
  next hfields hdedup hwhere =>
    refine ⟨?_, by simp [hfields, hdedup, hwhere]⟩
    split at hposition
    next found hphase =>
      rw [position_ofFilter] at hposition
      exact Or.inl (hphase.trans (congrArg some (FilterPhase.position_injective hposition)))
    next =>
      split_ifs at hposition with hstats
      · exact Or.inr ⟨FilterPhase.position_injective hposition.symm, hstats⟩
      · exact absurd hposition (phase.ne_position rfl)
      · exact absurd hposition (phase.ne_position rfl)

theorem reaches_of_ofSegment
    (hposition : (ofSegment catalog session tokens previous).position = phase.position) :
    Reaches session tokens phase ∧ previous ∉ Vocabulary.clauseWords := by
  unfold ofSegment at hposition
  split at hposition
  · exact absurd hposition (phase.ne_position rfl)
  split at hposition
  · exact absurd hposition (phase.ne_position rfl)
  next hsearch hstats =>
    have hcommand : (ofCommand catalog session tokens previous).position = phase.position := by
      split at hposition
      · exact absurd hposition (phase.ne_position rfl)
      · exact absurd hposition (phase.ne_position rfl)
      · exact absurd hposition (phase.ne_position rfl)
      · exact hposition
      · exact hposition
    obtain ⟨hreaches, hfree⟩ := reaches_of_ofCommand hcommand
    refine ⟨hreaches, ?_⟩
    simpa [Vocabulary.clauseWords, hsearch, hstats] using hfree

/-- In a filter the word before the cursor opens no clause, and no rule about pipes, lists, sources
or indices is about it. -/
theorem argument_of_position
    (hposition : (ofTokens settings catalog session tokens).position = phase.position) :
    ∃ previous, tokens.previous = some previous ∧ Argument catalog previous ∧
      Reaches session tokens phase := by
  unfold ofTokens at hposition
  split at hposition
  · exact absurd hposition (phase.ne_position rfl)
  next previous hprevious =>
    refine ⟨previous, hprevious, ?_⟩
    -- Each rule that comes before those of the segment leads out of the filter.
    unfold ofPrevious at hposition
    split_ifs at hposition with hpipe hcomma hlists hsource hback
    · exact absurd hposition (phase.ne_position rfl)
    · exact absurd hposition (phase.ne_position rfl)
    · exact absurd hposition (phase.ne_position rfl)
    · exact absurd hposition (phase.ne_position rfl)
    · exact absurd hposition (phase.ne_position rfl)
    · split at hposition
      · exact absurd hposition (phase.ne_position rfl)
      · dsimp only at hposition
        split_ifs at hposition with hknown
        · exact absurd hposition (phase.ne_position rfl)
        · obtain ⟨hreaches, hfree⟩ := reaches_of_ofSegment hposition
          exact ⟨⟨⟨hpipe, by simpa using hcomma, by simpa using hsource, by simpa using hknown⟩,
            hfree⟩, hreaches⟩

/-- Where a value is expected, two words stand behind the keyword of the filter. -/
theorem filters_of_whereValue
    (hposition : (ofTokens settings catalog session tokens).position = .whereValue) :
    session.clause.Filters tokens.completed 2 ∧ awaitsEquals tokens.completed = false := by
  have hphase : (ofTokens settings catalog session tokens).position = FilterPhase.value.position :=
    hposition
  obtain ⟨previous, hprevious, hargument, hreaches⟩ := argument_of_position hphase
  constructor
  · rcases hreaches with hfilter | ⟨hother, -⟩
    · exact Clause.filterPhase_eq_some_iff.mp hfilter
    · cases hother
  · have hlast : tokens.completed.getLast? = some previous := hprevious
    rw [awaitsEquals, hlast, Option.any_some, hargument.source]

end Reading

namespace Plain

theorem of_argument {catalog : Catalog} {word : String} (hargument : Reading.Argument catalog word)
    (hnonempty : word ≠ "") (hspaceless : ' ' ∉ word.toList) : Plain catalog word := by
  have hfree := hargument.free
  have hsource := hargument.source
  refine ⟨hnonempty, Text.mentions_eq_false_iff.mpr hspaceless, hargument.comma, ?_,
    hargument.unknown⟩
  simp only [Vocabulary.clauseWords, Vocabulary.isSourceKeyword, Vocabulary.sourceKeywords,
    List.mem_cons, List.not_mem_nil, or_false, not_or, List.contains_eq_mem,
    decide_eq_false_iff_not] at hfree hsource
  simp [Vocabulary.reserved, hargument.pipe, hfree, hsource]

end Plain

/-! ### The words of a value -/

namespace Tokens

/-- A text behind the head of a query adds its words to the completed ones. -/
theorem words_head_append (query text : String) :
    (ofQuery ((ofQuery query).head ++ text)).words =
      (ofQuery query).completed ++ (ofQuery text).words := by
  have hspaceless : (⟨(ofQuery query).completed ++ (ofQuery text).completed,
      (ofQuery text).stem⟩ : Tokens).Spaceless := by
    intro word hword
    rw [words, List.append_assoc, List.mem_append] at hword
    rcases hword with hbefore | hbehind
    · exact spaceless_ofQuery query word (List.mem_append_left _ hbefore)
    · exact spaceless_ofQuery text word hbehind
  have hquery : (⟨(ofQuery query).completed ++ (ofQuery text).completed, (ofQuery text).stem⟩ :
      Tokens).query = (ofQuery query).head ++ text := by
    rw [← congrArg ((ofQuery query).head ++ ·) (query_ofQuery text)]
    simp [Tokens.query, head, String.append_assoc]
  rw [← hquery, ofQuery_query hspaceless]
  simp [words]

/-- A text is one word exactly if it has no space. -/
theorem words_eq_singleton_iff {text word : String} :
    (ofQuery text).words = [word] ↔ word = text ∧ ' ' ∉ text.toList := by
  constructor
  · intro hwords
    obtain ⟨hcompleted, hstem⟩ : (ofQuery text).completed = [] ∧ (ofQuery text).stem = word := by
      simpa [words, List.append_eq_cons_iff] using hwords
    have htext : word = text := by
      rw [← query_ofQuery text, query, head, hcompleted, hstem]
      simp
    exact ⟨htext, spaceless_ofQuery text text (by simp [hwords, htext])⟩
  · rintro ⟨rfl, hspaceless⟩
    have hword : (⟨[], word⟩ : Tokens).Spaceless := by simpa [Spaceless, words] using hspaceless
    have hquery : (⟨[], word⟩ : Tokens).query = word := by simp [query, head]
    rw [← hquery, ofQuery_query hword, hquery]
    rfl

end Tokens

/-! ### A value that is taken -/

namespace Reading

/-- A text behind the two words of a filter ends the clause exactly if it is one plain word. -/
theorem clauseComplete_iff_plain {settings : Settings} {catalog : Catalog} {session : Session}
    {completed : List String} (hfilters : session.clause.Filters completed 2)
    (hlast : awaitsEquals completed = false) {text : String} (hnonempty : text ≠ "") :
    (ofTokens settings catalog session ⟨completed ++ (Tokens.ofQuery text).words, ""⟩).position =
      .clauseComplete ↔ Plain catalog text := by
  constructor
  · intro hposition
    have hphase : (ofTokens settings catalog session
        ⟨completed ++ (Tokens.ofQuery text).words, ""⟩).position = FilterPhase.complete.position :=
      hposition
    obtain ⟨previous, hprevious, hargument, hreaches⟩ := argument_of_position hphase
    obtain ⟨anchor, hclause, hlength⟩ := hfilters
    -- The end of the clause is one word behind the place of the value.
    have hone : (Tokens.ofQuery text).words.length = 1 := by
      rcases hreaches with hfilter | ⟨-, hstats⟩
      · obtain ⟨other, hsame, hsize⟩ := Clause.filterPhase_eq_some_iff.mp hfilter
        obtain rfl : anchor = other := by simpa [hclause] using hsame
        simp only [Tokens.size, List.length_append, FilterPhase.behind] at hsize
        omega
      · simp [hclause, Clause.statsPhase] at hstats
    obtain ⟨word, hwords⟩ := List.length_eq_one_iff.mp hone
    obtain ⟨rfl, hspaceless⟩ := Tokens.words_eq_singleton_iff.mp hwords
    obtain rfl : word = previous := by simpa [Tokens.previous, hwords] using hprevious
    exact .of_argument hargument hnonempty hspaceless
  · intro hplain
    have hspaceless : ' ' ∉ text.toList := Text.mentions_eq_false_iff.mp hplain.spaceless
    rw [Tokens.words_eq_singleton_iff.mpr ⟨rfl, hspaceless⟩]
    exact (leads_filtered hlast hplain.argument hfilters).1

end Reading

namespace Candidate

theorem makes_of_suggestion {candidate : Candidate} {query : String} {suggestion : Suggestion}
    (hsuggestion : candidate.suggestion (Tokens.ofQuery query) = some suggestion) :
    candidate.Makes query (Tokens.ofQuery query).stem suggestion := by
  by_cases hextends : candidate.Extends (Tokens.ofQuery query).stem
  · obtain ⟨made, hmade, hmakes⟩ := exists_makes query hextends
    rwa [← Option.some.inj (hmade.symm.trans hsuggestion)]
  · rw [suggestion_eq_none _ hextends] at hsuggestion
    cases hsuggestion

end Candidate

namespace Suggestion

/-- The label of an offered value is the query with the value in the place of its stem. -/
theorem value_of_mem {query : String} {session : Session} {catalog : Catalog}
    {sample : List SampledValue} {item : Suggestion}
    (hitem : item ∈ all .whereValue (Tokens.ofQuery query) session catalog sample) :
    ∃ value, item.item = some value ∧ value ≠ "" ∧
      item.label = (Tokens.ofQuery query).head ++ value := by
  obtain ⟨candidate, hcandidate, hsuggestion⟩ := List.mem_filterMap.mp hitem
  obtain ⟨value, -, rfl⟩ := List.mem_map.mp hcandidate
  have hmakes := Candidate.makes_of_suggestion hsuggestion
  have htext : value.label = (Tokens.ofQuery query).stem ++ item.tail := hmakes.text
  refine ⟨value.label, hmakes.item, ?_, ?_⟩
  · intro hempty
    rw [hempty] at htext
    exact hmakes.tail (String.append_eq_empty_iff.mp htext.symm).2
  · have hquery := Tokens.query_ofQuery query
    rw [hmakes.label, hmakes.whole rfl, htext, ← String.append_assoc]
    exact congrArg (· ++ item.tail) hquery.symm

/-- Behind a whole clause and a space the pipe is offered, and nothing else. -/
theorem all_clauseComplete {query : String} (hstem : (Tokens.ofQuery query).stem = "")
    (session : Session) (catalog : Catalog) (sample : List SampledValue) :
    all .clauseComplete (Tokens.ofQuery query) session catalog sample =
      [⟨query ++ "|", query, "|", none, none⟩] := by
  have hquery : (Tokens.ofQuery query).head = query := by
    nth_rewrite 2 [← Tokens.query_ofQuery query]
    simp [Tokens.query, hstem]
  have hafter : Text.after "" "|" = some "|" := by decide
  simp [all, Candidate.all, Candidate.suggestion, Candidate.sign, hstem, hquery, hafter]

end Suggestion

namespace Engine

variable {engine : Engine} {query : String}

theorem serve_position (engine : Engine) (gateway : Gateway) (query : String) :
    (engine.serve gateway query).batch.position = (engine.prepare query).batch.position := by
  unfold serve complete
  dsimp only
  split_ifs <;> rfl

/-- With a text in the place of its stem a query for a value is read at the end of its clause
exactly if the text is a plain word. -/
theorem reading_select_iff {item : Suggestion} {value : String}
    (hfilters : engine.session.clause.Filters (Tokens.ofQuery query).completed 2)
    (hlast : Reading.awaitsEquals (Tokens.ofQuery query).completed = false)
    (hlabel : item.label = (Tokens.ofQuery query).head ++ value) (hnonempty : value ≠ "") :
    ((engine.select item).engine.reading (engine.select item).query).position = .clauseComplete ↔
      Plain engine.catalog value := by
  obtain ⟨-, hcatalog, hclause, -⟩ := engine.select_keeps item
  rw [reading, select_query, Tokens.ofQuery_append_space, hlabel, Tokens.words_head_append,
    ← hcatalog]
  exact Reading.clauseComplete_iff_plain (hclause ▸ hfilters) hlast hnonempty

/-- A value that was offered and is taken completes its filter exactly if it is a plain word, and
then the pipe is all that is offered. -/
theorem take_completes_iff (gateway later : Gateway) {item : Suggestion}
    (hposition : (engine.serve gateway query).batch.position = .whereValue)
    (hitem : item ∈ (engine.serve gateway query).batch.items) :
    ∃ value, item.item = some value ∧
      (((engine.serve gateway query).take later item).batch.position = .clauseComplete ↔
        Plain (engine.serve gateway query).engine.catalog value) ∧
      (Plain (engine.serve gateway query).engine.catalog value →
        ((engine.serve gateway query).take later item).batch.items =
          [⟨item.label ++ " " ++ "|", item.label ++ " ", "|", none, none⟩]) := by
  rw [serve_position] at hposition
  obtain ⟨hopen, hvalue⟩ := reading_of_position hposition nofun
  rw [items_of_whereValue hposition] at hitem
  obtain ⟨value, hname, hnonempty, hlabel⟩ := Suggestion.value_of_mem hitem
  obtain ⟨hfilters, hlast⟩ := Reading.filters_of_whereValue hvalue
  have hsession : (engine.serve gateway query).engine.session = engine.session := by
    rw [serve_session hopen, (engine.entailed_reading query).1, hvalue]
    rfl
  have hread := reading_select_iff (hsession ▸ hfilters) hlast hlabel hnonempty
  have hstays : ((engine.serve gateway query).engine.select item).engine.closed = false := by
    rw [((engine.serve gateway query).engine.select_keeps item).1, serve_closed hopen]
  refine ⟨value, hname, ?_, ?_⟩
  · rw [Served.take, serve_eq hstays]
    exact hread
  · intro hplain
    have hstem : (Tokens.ofQuery (item.label ++ " ")).stem = "" := by
      rw [Tokens.ofQuery_append_space]
    rw [Served.take, serve_eq hstays]
    dsimp only
    rw [hread.mpr hplain, select_query, Suggestion.all_clauseComplete hstem]

end Engine

namespace Gateway

/-- The backend with two indices, and with texts for values. One of them has a space. -/
def worded : Gateway :=
  { furnished with buckets := fun _ _ ↦ .ok [⟨.string "on hold", 2⟩, ⟨.string "done", 1⟩] }

end Gateway

namespace Engine

/-- A query typed word by word up to the field of its filter. -/
def filtering : Engine :=
  following {} (["s", "source = jobs ", "source = jobs | where ",
    "source = jobs | where state "].map (Gateway.worded, ·))

def filterQuery : String := "source = jobs | where state = "

/-- A text that is offered for the value. -/
def offered (value : String) (count : UInt64) : Suggestion where
  label := filterQuery ++ value
  replaced := filterQuery
  tail := value
  item := some value
  details := some { count := some count, type := some .string }

/-- A text of one word is taken, and the pipe is next. -/
theorem take_completes_iff_done :
    (filtering.serve .worded filterQuery).batch.position = .whereValue ∧
      offered "\"done\"" 1 ∈ (filtering.serve .worded filterQuery).batch.items ∧
      Plain (filtering.serve .worded filterQuery).engine.catalog "\"done\"" ∧
      ((filtering.serve .worded filterQuery).take .worded (offered "\"done\"" 1)).batch.position =
        .clauseComplete ∧
      ((filtering.serve .worded filterQuery).take .worded (offered "\"done\"" 1)).batch.items =
        [⟨"source = jobs | where state = \"done\" |", "source = jobs | where state = \"done\" ",
          "|", none, none⟩] := by
  have hposition : (filtering.serve .worded filterQuery).batch.position = .whereValue := by
    decide +kernel
  have hitem : offered "\"done\"" 1 ∈ (filtering.serve .worded filterQuery).batch.items := by
    decide +kernel
  have hplain : Plain (filtering.serve .worded filterQuery).engine.catalog "\"done\"" := by
    decide +kernel
  obtain ⟨value, hvalue, hcompletes, hitems⟩ := take_completes_iff .worded .worded hposition hitem
  obtain rfl : "\"done\"" = value := Option.some.inj hvalue
  exact ⟨hposition, hitem, hplain, hcompletes.mpr hplain,
    (hitems hplain).trans (by decide +kernel)⟩

/-- A text with a space is offered too. Once it is taken the filter has a word too many, and
nothing is expected behind it. -/
theorem take_spaced_value :
    (filtering.serve .worded filterQuery).batch.position = .whereValue ∧
      offered "\"on hold\"" 2 ∈ (filtering.serve .worded filterQuery).batch.items ∧
      ((filtering.serve .worded filterQuery).take .worded
        (offered "\"on hold\"" 2)).batch.position = .none ∧
      ((filtering.serve .worded filterQuery).take .worded
        (offered "\"on hold\"" 2)).batch.items = [] := by
  decide +kernel

end Engine
end PipedQuery
