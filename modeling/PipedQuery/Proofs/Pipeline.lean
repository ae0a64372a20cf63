import PipedQuery.Proofs.Steps

/-!
The grammar of well-formed pipelines. A pipeline names a source and then passes through segments,
each with a pipe before it. `words` spells a pipeline, and `positions` says where its grammar
stands after each word. A query that is read once for every word finds exactly these positions
(`positions_of_pipeline`), wherever in the query a clause begins: a segment starts from a fresh
session, so the positions of a segment depend on no word before it (`walk_segment`).
-/

set_option autoImplicit false
set_option relaxedAutoImplicit false

namespace PipedQuery

namespace Vocabulary

/-- The words of the grammar. -/
def fixed : List String := "=" :: "by" :: reserved

end Vocabulary

inductive Segment where
  /-- `where field = value` -/
  | filter (field value : String)
  /-- `stats function by group`, with a function that is not left open -/
  | tally (function group : String)
  /-- `stats function argument by group`, with a function that is left open -/
  | tallyOf (function argument group : String)
  /-- `fields a, b, last` -/
  | select (listed : List String) (last : String)
  /-- `dedup field` -/
  | dedup (field : String)

structure Pipeline where
  /-- The query begins with `search`. -/
  searches : Bool
  /-- The source is assigned in one word, as in `source=logs`. -/
  inline : Bool
  index : String
  segments : List Segment

namespace Segment

def words : Segment → List String
  | filter field value => ["|", "where", field, "=", value]
  | tally function group => ["|", "stats", function, "by", group]
  | tallyOf function argument group => ["|", "stats", function, argument, "by", group]
  | select listed last => "|" :: "fields" :: listed.map (· ++ ",") ++ [last]
  | dedup field => ["|", "dedup", field]

/-- The words that the writer of the query chose. -/
def names : Segment → List String
  | filter field value => [field, value]
  | tally function group => [function, group]
  | tallyOf function argument group => [function, argument, group]
  | select listed last => listed ++ [last]
  | dedup field => [field]

/-- Where the grammar stands after each word. -/
def positions : Segment → List Position
  | filter _ _ => [.pipeCommand, .whereField, .whereEquals, .whereValue, .clauseComplete]
  | tally _ _ =>
    [.pipeCommand, .statsFunction, .statsByKeyword, .statsGroupField, .clauseComplete]
  | tallyOf _ _ _ =>
    [.pipeCommand, .statsFunction, .statsFieldArg, .statsByKeyword, .statsGroupField,
      .clauseComplete]
  | select listed _ =>
    .pipeCommand :: .fieldsFirst :: listed.map (fun _ ↦ .fieldListContinuation) ++
      [.fieldListOrPipe]
  | dedup _ => [.pipeCommand, .dedupField, .none]

/-- A function is left open exactly where the segment has a word for its argument. -/
def FunctionFits : Segment → Prop
  | tally function _ => Text.endsIn '(' function = false
  | tallyOf function _ _ => Text.endsIn '(' function = true
  | _ => True

/-- Every word is one of the grammar or a chosen one, maybe with a comma. -/
theorem word_cases {segment : Segment} {word : String} (hword : word ∈ segment.words) :
    word ∈ Vocabulary.fixed ∨ ∃ name ∈ segment.names, word = name ∨ word = name ++ "," := by
  cases segment with
  | select listed last =>
    have hcases : word = "|" ∨ word = "fields" ∨ (∃ field ∈ listed, field ++ "," = word) ∨
        word = last := by simpa [words, or_assoc] using hword
    rcases hcases with rfl | rfl | ⟨field, hfield, rfl⟩ | rfl
    · exact Or.inl (by decide)
    · exact Or.inl (by decide)
    · exact Or.inr ⟨field, by simp [names, hfield], Or.inr rfl⟩
    · exact Or.inr ⟨word, by simp [names], Or.inl rfl⟩
  | _ =>
    simp only [words, names, Vocabulary.fixed, Vocabulary.reserved, List.mem_cons,
      List.not_mem_nil, or_false, exists_eq_or_imp, exists_eq_left] at hword ⊢
    tauto

theorem spaceless_words {segment : Segment}
    (hnames : ∀ word ∈ segment.names, Text.mentions ' ' word = false) :
    ∀ word ∈ segment.words, ' ' ∉ word.toList := by
  intro word hword
  rcases word_cases hword with hfixed | ⟨name, hname, rfl | rfl⟩
  · have hall : ∀ word ∈ Vocabulary.fixed, ' ' ∉ word.toList := by decide
    exact hall word hfixed
  · exact Text.mentions_eq_false_iff.mp (hnames _ hname)
  · simpa using Text.mentions_eq_false_iff.mp (hnames name hname)

end Segment

namespace Pipeline

def sourceWords (pipeline : Pipeline) : List String :=
  (if pipeline.searches then ["search"] else []) ++
    if pipeline.inline then ["source=" ++ pipeline.index] else ["source", "=", pipeline.index]

def sourcePositions (pipeline : Pipeline) : List Position :=
  (if pipeline.searches then [.sourceKeyword] else []) ++
    if pipeline.inline then [.pipeSeparatorAfterIndex]
    else [.equalsAfterSource, .indexName, .pipeSeparatorAfterIndex]

def words (pipeline : Pipeline) : List String :=
  pipeline.sourceWords ++ pipeline.segments.flatMap Segment.words

/-- Where the grammar stands after each word. -/
def positions (pipeline : Pipeline) : List Position :=
  pipeline.sourcePositions ++ pipeline.segments.flatMap Segment.positions

/-- The pipeline as text, with a space after every word. -/
def query (pipeline : Pipeline) : String :=
  String.intercalate " " pipeline.words ++ " "

end Pipeline

/-- No index has the name of a word of the grammar. -/
def Catalog.Distinct (catalog : Catalog) : Prop :=
  ∀ word ∈ Vocabulary.fixed, catalog.knows word = false

/-- The pipeline reads from a known index, its other words are plain, and no index has the name of
a word of the grammar. -/
@[mk_iff]
structure Pipeline.WellFormed (catalog : Catalog) (pipeline : Pipeline) : Prop where
  known : catalog.knows pipeline.index = true
  spaceless : Text.mentions ' ' pipeline.index = false
  comma : Text.mentions ',' pipeline.index = false
  equals : Text.mentions '=' pipeline.index = false
  free : pipeline.index ∉ Vocabulary.reserved
  distinct : catalog.Distinct
  plain : ∀ segment ∈ pipeline.segments, ∀ word ∈ segment.names, Plain catalog word
  fits : ∀ segment ∈ pipeline.segments, segment.FunctionFits

instance (catalog : Catalog) : Decidable catalog.Distinct :=
  inferInstanceAs (Decidable (∀ word ∈ Vocabulary.fixed, catalog.knows word = false))

instance : DecidablePred Segment.FunctionFits
  | .tally function _ => inferInstanceAs (Decidable (Text.endsIn '(' function = false))
  | .tallyOf function _ _ => inferInstanceAs (Decidable (Text.endsIn '(' function = true))
  | .filter _ _ | .select _ _ | .dedup _ => inferInstanceAs (Decidable True)

instance (catalog : Catalog) (pipeline : Pipeline) : Decidable (pipeline.WellFormed catalog) :=
  decidable_of_iff _ (Pipeline.wellFormed_iff catalog pipeline).symm

namespace Reading

/-- Reads queries in order, each in the session that the one before it left. -/
def positions (settings : Settings) (catalog : Catalog) (session : Session) :
    List String → List Position
  | [] => []
  | query :: rest =>
    let reading := ofTokens settings catalog session (Tokens.ofQuery query)
    reading.position :: positions settings catalog reading.session rest

/-- Reads a query once for every word that is added behind `done`. -/
def walk (settings : Settings) (catalog : Catalog) (session : Session) (done : List String) :
    List String → List Position
  | [] => []
  | word :: rest =>
    let reading := ofTokens settings catalog session (.after done word)
    reading.position :: walk settings catalog reading.session (done ++ [word]) rest

/-- One word leads to its position, and the words behind it are read in any session that fits. -/
theorem walk_step {settings : Settings} {catalog : Catalog} {session : Session}
    {done rest : List String} {word : String} {position : Position} {positions : List Position}
    (hleads : Leads settings catalog session (done ++ [word]) position)
    (hrest : ∀ next : Session, Fits next.clause next.listsFields (done ++ [word]) position →
      walk settings catalog next (done ++ [word]) rest = positions) :
    walk settings catalog session done (word :: rest) = position :: positions := by
  obtain ⟨hposition, hfits⟩ := hleads
  have hsession := (entailed_ofTokens settings catalog session (.after done word)).1
  rw [show (ofTokens settings catalog session (.after done word)).position = position from
    hposition] at hsession
  rw [walk, hsession]
  exact congrArg₂ List.cons hposition (hrest _ hfits)

theorem walk_append (settings : Settings) (catalog : Catalog) (session : Session)
    (done words : List String) :
    ∃ next, ∀ rest, walk settings catalog session done (words ++ rest) =
      walk settings catalog session done words ++
        walk settings catalog next (done ++ words) rest := by
  induction words generalizing session done with
  | nil => exact ⟨session, fun rest ↦ by simp [walk]⟩
  | cons word words ih =>
    obtain ⟨next, hnext⟩ := ih
      (ofTokens settings catalog session (.after done word)).session (done ++ [word])
    refine ⟨next, fun rest ↦ ?_⟩
    rw [List.cons_append, walk, hnext rest, walk, List.append_assoc, List.singleton_append]
    rfl

end Reading

namespace Catalog.Distinct

variable {catalog : Catalog} (hdistinct : catalog.Distinct) {word : String}

include hdistinct

theorem ordinary (hword : word ∈ Vocabulary.clauseWords) : Reading.Ordinary catalog word := by
  have hall : ∀ word ∈ Vocabulary.clauseWords, word ∈ Vocabulary.fixed ∧ word ≠ "|" ∧
      Text.mentions ',' word = false ∧ Vocabulary.isSourceKeyword word = false ∧
      Vocabulary.indexReference word = word := by decide
  obtain ⟨hfixed, hpipe, hcomma, hsource, hself⟩ := hall word hword
  exact ⟨hpipe, hcomma, hsource, hself.symm ▸ hdistinct word hfixed⟩

theorem argument (hword : word ∈ ["=", "by"]) : Reading.Argument catalog word := by
  have hall : ∀ word ∈ ["=", "by"], word ∈ Vocabulary.fixed ∧ word ≠ "|" ∧
      Text.mentions ',' word = false ∧ Vocabulary.isSourceKeyword word = false ∧
      Vocabulary.indexReference word = word ∧ word ∉ Vocabulary.clauseWords := by decide
  obtain ⟨hfixed, hpipe, hcomma, hsource, hself, hfree⟩ := hall word hword
  exact ⟨⟨hpipe, hcomma, hsource, hself.symm ▸ hdistinct word hfixed⟩, hfree⟩

end Catalog.Distinct

namespace Reading

variable {settings : Settings} {catalog : Catalog}

/-- A list of fields goes on behind every comma, from one field to the next. -/
theorem walk_listed {listed : List String} {last : String} (hplain : Plain catalog last)
    {session : Session} {done : List String} (hlast : awaitsEquals done = false)
    (hidle : session.clause = .idle) (hlists : session.listsFields = true) :
    walk settings catalog session done (listed.map (· ++ ",") ++ [last]) =
      listed.map (fun _ ↦ .fieldListContinuation) ++ [.fieldListOrPipe] := by
  induction listed generalizing session done with
  | nil => exact walk_step (leads_listed hlast hidle hlists hplain.argument) fun _ _ ↦ rfl
  | cons field listed ih =>
    exact walk_step (leads_comma hidle hlists field) fun session ⟨hlast, hidle, hlists⟩ ↦
      ih hlast hidle hlists

section Segments

variable (hdistinct : catalog.Distinct) (session : Session) (done : List String)

include hdistinct

theorem walk_filter {field value : String} (hfield : Plain catalog field)
    (hvalue : Plain catalog value) :
    walk settings catalog session done (Segment.filter field value).words =
      (Segment.filter field value).positions := by
  have hwhere : Ordinary catalog "where" := hdistinct.ordinary (by decide)
  have hequals : Argument catalog "=" := hdistinct.argument (by decide)
  refine walk_step leads_pipe fun session ⟨hlast, hidle, _⟩ ↦ ?_
  refine walk_step (leads_where hlast hidle hwhere) fun session ⟨hlast, hfilters⟩ ↦ ?_
  refine walk_step (leads_whereEquals hlast hfield.argument hfilters)
    fun session ⟨hlast, hfilters⟩ ↦ ?_
  refine walk_step (leads_whereValue hlast hequals hfilters) fun session ⟨hlast, hfilters⟩ ↦ ?_
  exact walk_step (leads_filtered hlast hvalue.argument hfilters) fun _ _ ↦ rfl

/-- Behind a closed aggregate or behind the argument of an open one. -/
theorem walk_grouped {group : String} (hgroup : Plain catalog group) {session : Session}
    {done : List String} (hlast : awaitsEquals done = false)
    (htallies : session.clause.Tallies done 0) :
    walk settings catalog session done ["by", group] = [.statsGroupField, .clauseComplete] := by
  have hby : Argument catalog "by" := hdistinct.argument (by decide)
  refine walk_step (leads_by hlast hby htallies) fun session ⟨hlast, htallies⟩ ↦ ?_
  exact walk_step (leads_tallied hlast hgroup.argument htallies) fun _ _ ↦ rfl

theorem walk_tally {function group : String} (hfunction : Plain catalog function)
    (hgroup : Plain catalog group) (hclosed : Text.endsIn '(' function = false) :
    walk settings catalog session done (Segment.tally function group).words =
      (Segment.tally function group).positions := by
  have hstats : Ordinary catalog "stats" := hdistinct.ordinary (by decide)
  have htakes : Vocabulary.takesField function = false := by
    simp [Vocabulary.takesField, hclosed]
  refine walk_step leads_pipe fun session ⟨hlast, _⟩ ↦ ?_
  refine walk_step (leads_stats hlast hstats) fun session ⟨hlast, hclause⟩ ↦ ?_
  exact walk_step (leads_closed hlast hfunction.argument hclause htakes)
    fun session ⟨hlast, htallies⟩ ↦ walk_grouped hdistinct hgroup hlast htallies

theorem walk_tallyOf {function argument group : String} (hfunction : Plain catalog function)
    (hargument : Plain catalog argument) (hgroup : Plain catalog group)
    (hopen : Text.endsIn '(' function = true) :
    walk settings catalog session done (Segment.tallyOf function argument group).words =
      (Segment.tallyOf function argument group).positions := by
  have hstats : Ordinary catalog "stats" := hdistinct.ordinary (by decide)
  have htakes : Vocabulary.takesField function = true := by
    have hcount : function ≠ "count()" := by
      rintro rfl
      exact absurd hopen (by decide)
    simp [Vocabulary.takesField, hopen, hcount]
  refine walk_step leads_pipe fun session ⟨hlast, _⟩ ↦ ?_
  refine walk_step (leads_stats hlast hstats) fun session ⟨hlast, hclause⟩ ↦ ?_
  refine walk_step (leads_open hlast hfunction.argument hclause htakes) fun session hfits ↦ ?_
  exact walk_step (leads_argument hargument.argument hfits)
    fun session ⟨hlast, htallies⟩ ↦ walk_grouped hdistinct hgroup hlast htallies

theorem walk_select {listed : List String} {last : String} (hlast : Plain catalog last) :
    walk settings catalog session done (Segment.select listed last).words =
      (Segment.select listed last).positions := by
  have hfields : Ordinary catalog "fields" := hdistinct.ordinary (by decide)
  refine walk_step leads_pipe fun session ⟨hdone, hidle, _⟩ ↦ ?_
  exact walk_step (leads_fields hdone hidle hfields) fun session ⟨hdone, hidle, hlists⟩ ↦
    walk_listed hlast hdone hidle hlists

theorem walk_dedup {field : String} (hfield : Plain catalog field) :
    walk settings catalog session done (Segment.dedup field).words =
      (Segment.dedup field).positions := by
  have hdedup : Ordinary catalog "dedup" := hdistinct.ordinary (by decide)
  refine walk_step leads_pipe fun session ⟨hlast, hidle, hlists⟩ ↦ ?_
  refine walk_step (leads_dedup hlast hidle hlists hdedup) fun session ⟨hlast, hidle, hlists⟩ ↦ ?_
  exact walk_step (leads_nowhere hlast hidle hlists hfield.argument) fun _ _ ↦ rfl

/-- A segment is read by its own words, whatever stands before it. -/
theorem walk_segment {segment : Segment} (hplain : ∀ word ∈ segment.names, Plain catalog word)
    (hfits : segment.FunctionFits) :
    walk settings catalog session done segment.words = segment.positions := by
  cases segment with
  | filter field value =>
    exact walk_filter hdistinct session done (hplain field (by simp [Segment.names]))
      (hplain value (by simp [Segment.names]))
  | tally function group =>
    exact walk_tally hdistinct session done (hplain function (by simp [Segment.names]))
      (hplain group (by simp [Segment.names])) hfits
  | tallyOf function argument group =>
    exact walk_tallyOf hdistinct session done (hplain function (by simp [Segment.names]))
      (hplain argument (by simp [Segment.names])) (hplain group (by simp [Segment.names])) hfits
  | select listed last =>
    exact walk_select hdistinct session done (hplain last (by simp [Segment.names]))
  | dedup field =>
    exact walk_dedup hdistinct session done (hplain field (by simp [Segment.names]))

theorem walk_segments {segments : List Segment}
    (hplain : ∀ segment ∈ segments, ∀ word ∈ segment.names, Plain catalog word)
    (hfits : ∀ segment ∈ segments, segment.FunctionFits) :
    walk settings catalog session done (segments.flatMap Segment.words) =
      segments.flatMap Segment.positions := by
  induction segments generalizing session done with
  | nil => rfl
  | cons segment rest ih =>
    obtain ⟨next, hnext⟩ := walk_append settings catalog session done segment.words
    have hfirst : walk settings catalog session done segment.words = segment.positions :=
      walk_segment hdistinct session done (hplain segment List.mem_cons_self)
        (hfits segment List.mem_cons_self)
    have hrest := ih next (done ++ segment.words)
      (fun other hother ↦ hplain other (List.mem_cons_of_mem _ hother))
      (fun other hother ↦ hfits other (List.mem_cons_of_mem _ hother))
    rw [List.flatMap_cons, List.flatMap_cons, hnext, hfirst, hrest]

end Segments

section Source

variable {index : String} (hknown : catalog.knows index = true)
  (hcomma : Text.mentions ',' index = false) (session : Session) {done : List String}
  (hdone : awaitsEquals done = false)

include hknown hcomma

theorem walk_spread (hequals : Text.mentions '=' index = false)
    (hfree : index ∉ Vocabulary.reserved) :
    walk settings catalog session done ["source", "=", index] =
      [.equalsAfterSource, .indexName, .pipeSeparatorAfterIndex] := by
  have hpipe : index ≠ "|" := fun hsame ↦ hfree (by simp [hsame, Vocabulary.reserved])
  have hsource := isSourceKeyword_eq_false (· ∉ Vocabulary.reserved) hfree (by decide)
  have hreference : catalog.knows (Vocabulary.indexReference index) = true := by
    rw [Vocabulary.indexReference_of_not_assigned hequals, hknown]
  refine walk_step (leads_source (by decide)) fun session hlast ↦ ?_
  refine walk_step (leads_equals hlast) fun session hlast ↦ ?_
  exact walk_step (leads_index hlast hpipe hcomma hsource hreference) fun _ _ ↦ rfl

include hdone

theorem walk_inline :
    walk settings catalog session done ["source=" ++ index] = [.pipeSeparatorAfterIndex] := by
  have hequals : '=' ∈ ("source=" ++ index).toList := by simp
  have hpipe : "source=" ++ index ≠ "|" := by
    intro hsame
    rw [hsame] at hequals
    exact absurd hequals (by decide)
  have hsource := isSourceKeyword_eq_false ('=' ∈ String.toList ·) hequals (by decide)
  have hlist : Text.mentions ',' ("source=" ++ index) = false := by
    rw [Text.mentions_eq_false_iff] at hcomma ⊢
    simpa using hcomma
  have hreference : catalog.knows (Vocabulary.indexReference ("source=" ++ index)) = true := by
    rw [Vocabulary.indexReference_assigned, hknown]
  exact walk_step (leads_index hdone hpipe hlist hsource hreference) fun _ _ ↦ rfl

end Source

/-- The words before the first pipe. -/
theorem walk_source {pipeline : Pipeline} (hformed : pipeline.WellFormed catalog)
    (session : Session) :
    walk settings catalog session [] pipeline.sourceWords = pipeline.sourcePositions := by
  obtain ⟨searches, inline, index, segments⟩ := pipeline
  have hassigns : ∀ (session : Session) (done : List String), awaitsEquals done = false →
      walk settings catalog session done
          (if inline then ["source=" ++ index] else ["source", "=", index]) =
        if inline then [.pipeSeparatorAfterIndex]
        else [.equalsAfterSource, .indexName, .pipeSeparatorAfterIndex] := by
    intro session done hdone
    cases inline with
    | true => exact walk_inline hformed.known hformed.comma session hdone
    | false =>
      exact walk_spread hformed.known hformed.comma session hformed.equals hformed.free
  cases searches with
  | false => exact hassigns session [] rfl
  | true =>
    have hsearch : Ordinary catalog "search" := hformed.distinct.ordinary (by decide)
    exact walk_step (leads_search rfl hsearch) fun session _ ↦ hassigns session _ (by decide)

/-- Reading a query at the end of each word is a walk along its words. -/
theorem positions_eq_walk {done words : List String} (session : Session)
    (hspaceless : ∀ word ∈ done ++ words, ' ' ∉ word.toList) :
    positions settings catalog session
        (words.inits.tail.map fun first ↦ (⟨done ++ first, ""⟩ : Tokens).query) =
      walk settings catalog session done words := by
  induction words generalizing done session with
  | nil => rfl
  | cons word rest ih =>
    have hfirst : ∀ other ∈ done ++ [word], ' ' ∉ other.toList := fun other hother ↦
      hspaceless other (by simp only [List.mem_append, List.mem_cons] at hother ⊢; tauto)
    have hread : Tokens.ofQuery (⟨done ++ [word], ""⟩ : Tokens).query = .after done word :=
      Tokens.ofQuery_query (Tokens.spaceless_of_completed hfirst)
    have hinits : (word :: rest).inits.tail = [word] :: rest.inits.tail.map (word :: ·) := by
      cases rest <;> simp
    have hsplit : done ++ word :: rest = (done ++ [word]) ++ rest := by simp
    have hnext := ih (ofTokens settings catalog session (.after done word)).session
      (hsplit ▸ hspaceless)
    simp only [List.append_assoc, List.singleton_append] at hnext
    rw [hinits, List.map_cons, positions, hread, walk, ← hnext, List.map_map]
    rfl

end Reading

namespace Pipeline

variable {catalog : Catalog} {pipeline : Pipeline}

theorem spaceless_words (hformed : pipeline.WellFormed catalog) :
    ∀ word ∈ pipeline.words, ' ' ∉ word.toList := by
  intro word hword
  have hindex := Text.mentions_eq_false_iff.mp hformed.spaceless
  rcases List.mem_append.mp hword with hsource | hsegment
  · have hcases : word = "search" ∨ word = "source" ∨ word = "=" ∨
        word = "source=" ++ pipeline.index ∨ word = pipeline.index := by
      simp only [sourceWords] at hsource
      split_ifs at hsource <;> simp at hsource <;> tauto
    rcases hcases with rfl | rfl | rfl | rfl | rfl
    · decide
    · decide
    · decide
    · simpa using hindex
    · exact hindex
  · obtain ⟨segment, hsegment, hmem⟩ := List.mem_flatMap.mp hsegment
    exact Segment.spaceless_words
      (fun name hname ↦ (hformed.plain segment hsegment name hname).spaceless) word hmem

theorem query_eq (pipeline : Pipeline) :
    pipeline.query = (⟨pipeline.words, ""⟩ : Tokens).query := by
  have hsome : pipeline.words ≠ [] := by
    simp only [words, sourceWords]
    split_ifs <;> simp
  obtain ⟨done, word, hwords⟩ := (List.eq_nil_or_concat' pipeline.words).resolve_left hsome
  have hglued : String.intercalate " " pipeline.words = (⟨done, ""⟩ : Tokens).head ++ word :=
    hwords ▸ Tokens.gluedHead_concat done word ""
  rw [query, hglued, hwords]
  simp [Tokens.query, Tokens.head, String.append_assoc]

/-- The rules follow the grammar. -/
theorem positions_of_pipeline (settings : Settings) (session : Session)
    (hformed : pipeline.WellFormed catalog) :
    Reading.positions settings catalog session ("" :: Text.spacedBeginnings pipeline.query) =
      .firstCommand :: pipeline.positions := by
  have hspaceless := spaceless_words hformed
  have hsource : Reading.walk settings catalog {} [] pipeline.sourceWords =
      pipeline.sourcePositions := Reading.walk_source hformed {}
  obtain ⟨next, hnext⟩ := Reading.walk_append settings catalog {} [] pipeline.sourceWords
  have hsegments : Reading.walk settings catalog next ([] ++ pipeline.sourceWords)
      (pipeline.segments.flatMap Segment.words) = pipeline.segments.flatMap Segment.positions :=
    Reading.walk_segments hformed.distinct next _ hformed.plain hformed.fits
  have hinits : pipeline.words.inits = [] :: pipeline.words.inits.tail := by
    cases pipeline.words <;> simp
  rw [query_eq, Tokens.cons_spacedBeginnings hspaceless, hinits, List.map_cons,
    Reading.positions]
  have hfollowing : Reading.positions settings catalog {}
      (pipeline.words.inits.tail.map fun first ↦ (⟨[] ++ first, ""⟩ : Tokens).query) =
        Reading.walk settings catalog {} [] pipeline.words :=
    Reading.positions_eq_walk {} hspaceless
  rw [positions, ← hsource, ← hsegments, ← hnext]
  exact congrArg (Position.firstCommand :: ·) hfollowing

/-- A pipeline with a segment of every kind. -/
def mixed : Pipeline where
  searches := true
  inline := false
  index := "logs"
  segments := [.filter "state" "True", .tally "count()" "state", .tallyOf "avg(" "size)" "state",
    .select ["size"] "state", .dedup "size"]

theorem positions_of_pipeline_mixed :
    Reading.positions {} (.stocked ["logs"]) {}
        ("" :: Text.spacedBeginnings mixed.query) = .firstCommand :: mixed.positions :=
  positions_of_pipeline {} {} (by decide)

example : mixed.query =
    "search source = logs | where state = True | stats count() by state | stats avg( size) by " ++
      "state | fields size, state | dedup size " := by decide

end Pipeline
end PipedQuery
