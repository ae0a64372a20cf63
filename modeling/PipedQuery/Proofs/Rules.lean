import PipedQuery.Proofs.Consequence
import PipedQuery.Proofs.Words

/-!
The rules, one completed word at a time. For a query in which a word has just been completed the
position follows from that word, from the one before it and from the clause. The rules about
pipes, lists, sources and indices come first; an `Ordinary` word is one that none of them is
about, and an `Argument` is one that opens no clause either, so that the phase of the clause
decides (`position_of_filterPhase`, `position_of_statsPhase`) or, without a clause, whether a list
of fields is being typed (`position_of_idle`).
-/

set_option autoImplicit false
set_option relaxedAutoImplicit false

namespace PipedQuery

namespace Vocabulary

/-- The words that open a clause or lead to one. -/
def clauseWords : List String := ["search", "stats", "fields", "dedup", "where"]

/-- The words with a rule of their own. -/
def reserved : List String :=
  ["|", "search", "source", "index", "stats", "fields", "dedup", "where"]

end Vocabulary

namespace FilterPhase

def position : FilterPhase → Position
  | equals => .whereEquals
  | value => .whereValue
  | complete => .clauseComplete

end FilterPhase

namespace StatsPhase

def position : StatsPhase → Position
  | argument => .statsFieldArg
  | byKeyword => .statsByKeyword
  | groupField => .statsGroupField
  | complete => .clauseComplete

end StatsPhase

namespace Clause

variable {tokens : Tokens} {place : Nat} {function : String}

theorem opensAt_succ (hplace : tokens.get place = some function) :
    opensAt (place + 1) tokens = Vocabulary.takesField function := by
  simp [opensAt, hplace]

/-- Behind a closed aggregate the phases begin with `by`. -/
theorem statsPhase_of_closed (hplace : tokens.get place = some function)
    (hclosed : Vocabulary.takesField function = false) :
    (stats (place + 1)).statsPhase tokens =
      if tokens.size = place + 2 then some .byKeyword
      else if tokens.size = place + 3 then some .groupField
      else if tokens.size = place + 4 then some .complete
      else none := by
  simp [statsPhase, opensAt_succ hplace, hclosed]

/-- An open aggregate takes one more word first. -/
theorem statsPhase_of_open (hplace : tokens.get place = some function)
    (hopen : Vocabulary.takesField function = true) :
    (stats (place + 1)).statsPhase tokens =
      if tokens.size = place + 2 then some .argument
      else if tokens.size = place + 3 then some .byKeyword
      else if tokens.size = place + 4 then some .groupField
      else if tokens.size = place + 5 then some .complete
      else none := by
  simp [statsPhase, opensAt_succ hplace, hopen]

end Clause

namespace Reading

variable {settings : Settings} {catalog : Catalog} {session : Session} {done : List String}
  {word : String}

/-- No rule about pipes, lists, sources or indices is about the word. -/
structure Ordinary (catalog : Catalog) (word : String) : Prop where
  pipe : word ≠ "|"
  comma : Text.mentions ',' word = false
  source : Vocabulary.isSourceKeyword word = false
  unknown : catalog.knows (Vocabulary.indexReference word) = false

/-- An ordinary word that opens no clause. -/
structure Argument (catalog : Catalog) (word : String) : Prop extends Ordinary catalog word where
  free : word ∉ Vocabulary.clauseWords

/-- The last completed word is a source keyword. -/
def awaitsEquals (done : List String) : Bool :=
  done.getLast?.any Vocabulary.isSourceKeyword

@[simp] theorem awaitsEquals_concat (done : List String) (word : String) :
    awaitsEquals (done ++ [word]) = Vocabulary.isSourceKeyword word := by
  simp [awaitsEquals]

theorem awaitsEquals_of_not_source (done : List String)
    (hword : Vocabulary.isSourceKeyword word = false) : awaitsEquals (done ++ [word]) = false := by
  rw [awaitsEquals_concat, hword]

/-- A word is no source keyword if it shows something that these do not. -/
theorem isSourceKeyword_eq_false (Shows : String → Prop) (hword : Shows word)
    (hkeywords : ∀ keyword ∈ Vocabulary.sourceKeywords, ¬ Shows keyword) :
    Vocabulary.isSourceKeyword word = false := by
  rw [Bool.eq_false_iff]
  intro hsource
  exact hkeywords word (List.contains_iff_mem.mp hsource) hword

theorem sourceAssignment_empty : Vocabulary.sourceAssignment "" = none := by decide

/-! ### Pipes, lists, sources and indices -/

theorem position_of_pipe :
    (ofTokens settings catalog session (.after done "|")).position = .pipeCommand := by
  simp [ofTokens, ofPrevious]

theorem position_of_comma (hcomma : Text.mentions ',' word = true)
    (hlists : session.listsFields = true) :
    (ofTokens settings catalog session (.after done word)).position =
      .fieldListContinuation := by
  have hpipe : word ≠ "|" := by
    rintro rfl
    exact absurd hcomma (by decide)
  simp [ofTokens, ofPrevious, hpipe, hcomma, hlists, atField]

theorem position_of_sourceKeyword (hsource : Vocabulary.isSourceKeyword word = true) :
    (ofTokens settings catalog session (.after done word)).position = .equalsAfterSource := by
  have hword : word = "source" ∨ word = "index" := by
    simpa [Vocabulary.isSourceKeyword, Vocabulary.sourceKeywords] using hsource
  rcases hword with rfl | rfl <;> simp [ofTokens, ofPrevious, Text.mentions, hsource]

theorem position_of_awaitsEquals (hsource : awaitsEquals done = true) :
    (ofTokens settings catalog session (.after done "=")).position = .indexName := by
  have hback : done.getLast?.any Vocabulary.isSourceKeyword = true := hsource
  have hequals : Vocabulary.isSourceKeyword "=" = false := by decide
  simp [ofTokens, ofPrevious, Text.mentions, hequals, hback]

theorem position_of_index (hpipe : word ≠ "|") (hcomma : Text.mentions ',' word = false)
    (hsource : Vocabulary.isSourceKeyword word = false) (hlast : awaitsEquals done = false)
    (hknown : catalog.knows (Vocabulary.indexReference word) = true) :
    (ofTokens settings catalog session (.after done word)).position =
      .pipeSeparatorAfterIndex := by
  have hback : done.getLast?.any Vocabulary.isSourceKeyword = false := hlast
  simp [ofTokens, ofPrevious, hpipe, hcomma, hsource, hback, sourceAssignment_empty, hknown]

/-- An ordinary word is left to the rules of the segment. -/
theorem position_of_ordinary (hword : Ordinary catalog word) (hlast : awaitsEquals done = false) :
    (ofTokens settings catalog session (.after done word)).position =
      (ofSegment catalog session (.after done word) word).position := by
  have hback : done.getLast?.any Vocabulary.isSourceKeyword = false := hlast
  simp [ofTokens, ofPrevious, hword.pipe, hword.comma, hword.source, hback,
    sourceAssignment_empty, hword.unknown]

/-! ### Commands -/

theorem position_of_search (hword : Ordinary catalog "search")
    (hlast : awaitsEquals done = false) :
    (ofTokens settings catalog session (.after done "search")).position = .sourceKeyword := by
  rw [position_of_ordinary hword hlast]
  simp [ofSegment]

theorem position_of_stats (hword : Ordinary catalog "stats") (hlast : awaitsEquals done = false) :
    (ofTokens settings catalog session (.after done "stats")).position = .statsFunction := by
  rw [position_of_ordinary hword hlast]
  simp [ofSegment]

section Idle

variable (hidle : session.clause = .idle) (hlast : awaitsEquals done = false)

include hidle hlast

theorem position_of_fields (hword : Ordinary catalog "fields") :
    (ofTokens settings catalog session (.after done "fields")).position = .fieldsFirst := by
  rw [position_of_ordinary hword hlast]
  simp [ofSegment, ofCommand, hidle, Clause.statsPhase, atField]

theorem position_of_dedup (hword : Ordinary catalog "dedup") :
    (ofTokens settings catalog session (.after done "dedup")).position = .dedupField := by
  rw [position_of_ordinary hword hlast]
  simp [ofSegment, ofCommand, hidle, Clause.statsPhase, atField]

theorem position_of_where (hword : Ordinary catalog "where") :
    (ofTokens settings catalog session (.after done "where")).position = .whereField := by
  rw [position_of_ordinary hword hlast]
  simp [ofSegment, ofCommand, hidle, Clause.statsPhase, atField]

/-- Outside a clause only a list of fields can go on. -/
theorem position_of_idle (hword : Argument catalog word) :
    (ofTokens settings catalog session (.after done word)).position =
      if session.listsFields then .fieldListOrPipe else .none := by
  have hfree := hword.free
  simp only [Vocabulary.clauseWords, List.mem_cons, List.not_mem_nil, or_false, not_or] at hfree
  rw [position_of_ordinary hword.toOrdinary hlast]
  simp only [ofSegment, ofCommand, hfree, hidle, Clause.statsPhase, Clause.filterPhase, if_false]
  split_ifs <;> first | rfl | contradiction

end Idle

/-! ### Clauses -/

theorem position_of_filterPhase (phase : FilterPhase) (hword : Argument catalog word)
    (hlast : awaitsEquals done = false)
    (hphase : session.clause.filterPhase (done.length + 2) = some phase) :
    (ofTokens settings catalog session (.after done word)).position = phase.position := by
  have hfree := hword.free
  simp only [Vocabulary.clauseWords, List.mem_cons, List.not_mem_nil, or_false, not_or] at hfree
  have hstats : session.clause.statsPhase (.after done word) = none := by
    cases hclause : session.clause with
    | filter anchor => rfl
    | idle => simp [hclause, Clause.filterPhase] at hphase
    | stats anchor => simp [hclause, Clause.filterPhase] at hphase
  rw [position_of_ordinary hword.toOrdinary hlast]
  simp only [ofSegment, ofCommand, hfree, hstats, Tokens.after_size, hphase, if_false]
  cases phase <;> rfl

theorem position_of_statsPhase (phase : StatsPhase) (hword : Argument catalog word)
    (hlast : awaitsEquals done = false)
    (hphase : session.clause.statsPhase (.after done word) = some phase) :
    (ofTokens settings catalog session (.after done word)).position = phase.position := by
  have hfree := hword.free
  simp only [Vocabulary.clauseWords, List.mem_cons, List.not_mem_nil, or_false, not_or] at hfree
  have hfilter : session.clause.filterPhase (Tokens.after done word).size = none := by
    cases hclause : session.clause with
    | stats anchor => rfl
    | idle => simp [hclause, Clause.statsPhase] at hphase
    | filter anchor => simp [hclause, Clause.statsPhase] at hphase
  rw [position_of_ordinary hword.toOrdinary hlast]
  simp only [ofSegment, hfree, hphase, if_false]
  cases phase with
  | argument => rfl
  | byKeyword => rfl
  | groupField => rfl
  | complete =>
    simp only [ofCommand, hfree, hfilter, hphase, if_false, if_true]
    rfl

end Reading

/-! ### Names and values -/

/-- A word that stands for a name or a value and for nothing else. -/
@[mk_iff]
structure Plain (catalog : Catalog) (word : String) : Prop where
  nonempty : word ≠ ""
  spaceless : Text.mentions ' ' word = false
  comma : Text.mentions ',' word = false
  free : word ∉ Vocabulary.reserved
  unknown : catalog.knows (Vocabulary.indexReference word) = false

instance (catalog : Catalog) (word : String) : Decidable (Plain catalog word) :=
  decidable_of_iff _ (plain_iff catalog word).symm

namespace Plain

variable {catalog : Catalog} {word : String}

theorem argument (hplain : Plain catalog word) : Reading.Argument catalog word := by
  have hfree := hplain.free
  simp only [Vocabulary.reserved, List.mem_cons, List.not_mem_nil, or_false, not_or] at hfree
  obtain ⟨hpipe, hsearch, hsource, hindex, hstats, hfields, hdedup, hwhere⟩ := hfree
  refine ⟨⟨hpipe, hplain.comma, ?_, hplain.unknown⟩, ?_⟩
  · simp [Vocabulary.isSourceKeyword, Vocabulary.sourceKeywords, hsource, hindex]
  · simp [Vocabulary.clauseWords, hsearch, hstats, hfields, hdedup, hwhere]

end Plain

end PipedQuery
