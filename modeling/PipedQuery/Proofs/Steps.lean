import PipedQuery.Proofs.Rules

/-!
From word to word. `Fits` says what holds of the words and the clause of a query that stands at a
position: how many words there are behind the keyword of a filter (`Clause.Filters`) or behind the
aggregate (`Clause.Tallies`), whether a list of fields is being typed, whether the last word is a
source keyword. It is all that the next word needs: `Leads` states that the query with one more
word is read at some position and fits that one, and there is one lemma for every word that the
grammar has there.
-/

set_option autoImplicit false
set_option relaxedAutoImplicit false

namespace PipedQuery

namespace Clause

variable {clause : Clause} {completed : List String} {behind : Nat}

/-- The clause is a filter, and there are so many words behind its keyword. -/
def Filters (clause : Clause) (completed : List String) (behind : Nat) : Prop :=
  ∃ anchor, clause = .filter anchor ∧ completed.length + 1 = anchor + behind

theorem Filters.concat (hfilters : clause.Filters completed behind) (word : String) :
    clause.Filters (completed ++ [word]) (behind + 1) := by
  obtain ⟨anchor, hclause, hlength⟩ := hfilters
  refine ⟨anchor, hclause, ?_⟩
  rw [List.length_append, List.length_singleton, hlength, Nat.add_assoc]

theorem Filters.filterPhase (hfilters : clause.Filters completed behind) :
    clause.filterPhase (completed.length + 2) =
      if behind = 0 then some .equals else if behind = 1 then some .value
      else if behind = 2 then some .complete else none := by
  obtain ⟨anchor, rfl, hlength⟩ := hfilters
  have hsize : completed.length + 2 = anchor + behind + 1 := by omega
  rw [Clause.filterPhase, hsize]
  grind

/-- The clause tallies, and there are so many words behind its aggregate, the argument of an open
one not counted. -/
def Tallies (clause : Clause) (completed : List String) (behind : Nat) : Prop :=
  ∃ done function rest, completed = done ++ function :: rest ∧
    clause = .stats (done.length + 1) ∧
    rest.length = if Vocabulary.takesField function then behind + 1 else behind

theorem Tallies.concat (htallies : clause.Tallies completed behind) (word : String) :
    clause.Tallies (completed ++ [word]) (behind + 1) := by
  obtain ⟨done, function, rest, rfl, hclause, hlength⟩ := htallies
  refine ⟨done, function, rest ++ [word], by simp, hclause, ?_⟩
  rw [List.length_append, hlength, List.length_singleton]
  split_ifs <;> rfl

theorem Tallies.statsPhase (htallies : clause.Tallies completed behind) (word : String) :
    clause.statsPhase (.after completed word) =
      if behind = 0 then some .groupField else if behind = 1 then some .complete else none := by
  obtain ⟨done, function, rest, rfl, rfl, hlength⟩ := htallies
  have hplace : (Tokens.after (done ++ function :: rest) word).get done.length = some function :=
    Tokens.after_get _ _ (by simp)
  cases htakes : Vocabulary.takesField function with
  | false =>
    rw [statsPhase_of_closed hplace htakes]
    grind [Tokens.after_size]
  | true =>
    rw [statsPhase_of_open hplace htakes]
    grind [Tokens.after_size]

end Clause

namespace Reading

/-- The words and the clause of a query agree with its position. -/
def Fits (clause : Clause) (lists : Bool) (completed : List String) : Position → Prop
  | .firstCommand | .indexName => awaitsEquals completed = false
  | .equalsAfterSource => awaitsEquals completed = true
  | .pipeCommand | .dedupField => awaitsEquals completed = false ∧ clause = .idle ∧ lists = false
  | .fieldsFirst | .fieldListContinuation =>
    awaitsEquals completed = false ∧ clause = .idle ∧ lists = true
  | .fieldListOrPipe => completed ≠ [] ∧ clause = .idle ∧ lists = true
  | .whereField => awaitsEquals completed = false ∧ clause.Filters completed 0
  | .whereEquals => awaitsEquals completed = false ∧ clause.Filters completed 1
  | .whereValue => awaitsEquals completed = false ∧ clause.Filters completed 2
  | .statsFunction => awaitsEquals completed = false ∧ clause = .stats (completed.length + 1)
  | .statsFieldArg =>
    ∃ done function, completed = done ++ [function] ∧ Vocabulary.takesField function = true ∧
      Text.mentions ',' function = false ∧ awaitsEquals done = false ∧
      clause = .stats (done.length + 1)
  | .statsByKeyword => awaitsEquals completed = false ∧ clause.Tallies completed 0
  | .statsGroupField => awaitsEquals completed = false ∧ clause.Tallies completed 1
  | .inlineIndexName _ => False
  | .sourceKeyword | .pipeSeparatorAfterIndex | .clauseComplete | .none => True

/-- The words are read at the position, and the session that this leaves fits it. -/
def Leads (settings : Settings) (catalog : Catalog) (session : Session) (words : List String)
    (position : Position) : Prop :=
  (ofTokens settings catalog session ⟨words, ""⟩).position = position ∧
    Fits (sessionAt catalog session ⟨words, ""⟩ position).clause
      (sessionAt catalog session ⟨words, ""⟩ position).listsFields words position

variable {settings : Settings} {catalog : Catalog} {session : Session} {completed : List String}
  {word : String}

theorem leads_pipe : Leads settings catalog session (completed ++ ["|"]) .pipeCommand :=
  ⟨position_of_pipe, awaitsEquals_of_not_source _ (by decide), rfl, rfl⟩

/-! ### The source -/

theorem leads_source (hsource : Vocabulary.isSourceKeyword word = true) :
    Leads settings catalog session (completed ++ [word]) .equalsAfterSource :=
  ⟨position_of_sourceKeyword hsource, (awaitsEquals_concat _ _).trans hsource⟩

theorem leads_equals (hlast : awaitsEquals completed = true) :
    Leads settings catalog session (completed ++ ["="]) .indexName :=
  ⟨position_of_awaitsEquals hlast, awaitsEquals_of_not_source _ (by decide)⟩

theorem leads_index (hlast : awaitsEquals completed = false) (hpipe : word ≠ "|")
    (hcomma : Text.mentions ',' word = false) (hsource : Vocabulary.isSourceKeyword word = false)
    (hknown : catalog.knows (Vocabulary.indexReference word) = true) :
    Leads settings catalog session (completed ++ [word]) .pipeSeparatorAfterIndex :=
  ⟨position_of_index hpipe hcomma hsource hlast hknown, trivial⟩

theorem leads_search (hlast : awaitsEquals completed = false)
    (hword : Ordinary catalog "search") :
    Leads settings catalog session (completed ++ ["search"]) .sourceKeyword :=
  ⟨position_of_search hword hlast, trivial⟩

section Words

variable (hlast : awaitsEquals completed = false)

include hlast

/-! ### Outside a clause -/

theorem leads_stats (hword : Ordinary catalog "stats") :
    Leads settings catalog session (completed ++ ["stats"]) .statsFunction :=
  ⟨position_of_stats hword hlast, awaitsEquals_of_not_source _ (by decide), rfl⟩

section Idle

variable (hidle : session.clause = .idle)

include hidle

theorem leads_where (hword : Ordinary catalog "where") :
    Leads settings catalog session (completed ++ ["where"]) .whereField :=
  ⟨position_of_where hidle hlast hword, awaitsEquals_of_not_source _ (by decide), _, rfl,
    by simp [Tokens.size]⟩

theorem leads_fields (hword : Ordinary catalog "fields") :
    Leads settings catalog session (completed ++ ["fields"]) .fieldsFirst :=
  ⟨position_of_fields hidle hlast hword, awaitsEquals_of_not_source _ (by decide), hidle, rfl⟩

theorem leads_dedup (hlists : session.listsFields = false) (hword : Ordinary catalog "dedup") :
    Leads settings catalog session (completed ++ ["dedup"]) .dedupField :=
  ⟨position_of_dedup hidle hlast hword, awaitsEquals_of_not_source _ (by decide), hidle, hlists⟩

theorem leads_nowhere (hlists : session.listsFields = false) (hword : Argument catalog word) :
    Leads settings catalog session (completed ++ [word]) .none :=
  ⟨(position_of_idle hidle hlast hword).trans (if_neg (by simp [hlists])), trivial⟩

theorem leads_listed (hlists : session.listsFields = true) (hword : Argument catalog word) :
    Leads settings catalog session (completed ++ [word]) .fieldListOrPipe :=
  ⟨(position_of_idle hidle hlast hword).trans (if_pos hlists), by simp, hidle, hlists⟩

omit hlast in
theorem leads_comma (hlists : session.listsFields = true) (word : String) :
    Leads settings catalog session (completed ++ [word ++ ","]) .fieldListContinuation := by
  have hcomma : Text.mentions ',' (word ++ ",") = true := by simp [Text.mentions]
  have hsource := isSourceKeyword_eq_false (Text.mentions ',' · = true) hcomma (by decide)
  exact ⟨position_of_comma hcomma hlists, awaitsEquals_of_not_source _ hsource, hidle, hlists⟩

end Idle

/-! ### In a filter -/

variable (hword : Argument catalog word)

include hword

theorem leads_whereEquals (hfilters : session.clause.Filters completed 0) :
    Leads settings catalog session (completed ++ [word]) .whereEquals :=
  ⟨position_of_filterPhase .equals hword hlast hfilters.filterPhase,
    awaitsEquals_of_not_source _ hword.source, hfilters.concat word⟩

theorem leads_whereValue (hfilters : session.clause.Filters completed 1) :
    Leads settings catalog session (completed ++ [word]) .whereValue :=
  ⟨position_of_filterPhase .value hword hlast hfilters.filterPhase,
    awaitsEquals_of_not_source _ hword.source, hfilters.concat word⟩

theorem leads_filtered (hfilters : session.clause.Filters completed 2) :
    Leads settings catalog session (completed ++ [word]) .clauseComplete :=
  ⟨position_of_filterPhase .complete hword hlast hfilters.filterPhase, trivial⟩

/-! ### In a tally -/

theorem leads_closed (hclause : session.clause = .stats (completed.length + 1))
    (hclosed : Vocabulary.takesField word = false) :
    Leads settings catalog session (completed ++ [word]) .statsByKeyword := by
  have hplace : (Tokens.after completed word).get completed.length = some word :=
    Tokens.after_get _ _ (by simp)
  have hphase : session.clause.statsPhase (.after completed word) = some .byKeyword := by
    rw [hclause, Clause.statsPhase_of_closed hplace hclosed, Tokens.after_size, if_pos rfl]
  exact ⟨position_of_statsPhase .byKeyword hword hlast hphase,
    awaitsEquals_of_not_source _ hword.source, completed, word, [], rfl, hclause,
    by simp [hclosed]⟩

theorem leads_open (hclause : session.clause = .stats (completed.length + 1))
    (hopen : Vocabulary.takesField word = true) :
    Leads settings catalog session (completed ++ [word]) .statsFieldArg := by
  have hplace : (Tokens.after completed word).get completed.length = some word :=
    Tokens.after_get _ _ (by simp)
  have hphase : session.clause.statsPhase (.after completed word) = some .argument := by
    rw [hclause, Clause.statsPhase_of_open hplace hopen, Tokens.after_size, if_pos rfl]
  exact ⟨position_of_statsPhase .argument hword hlast hphase, completed, word, rfl, hopen,
    hword.comma, hlast, hclause⟩

omit hlast in
/-- The argument of an open aggregate as a word of its own. -/
theorem leads_argument
    (hfits : Fits session.clause session.listsFields completed .statsFieldArg) :
    Leads settings catalog session (completed ++ [word]) .statsByKeyword := by
  obtain ⟨done, function, rfl, hopen, _, _, hclause⟩ := hfits
  have hplace : (Tokens.after (done ++ [function]) word).get done.length = some function :=
    Tokens.after_get _ _ (by simp)
  have hphase : session.clause.statsPhase (.after (done ++ [function]) word) =
      some .byKeyword := by
    rw [hclause, Clause.statsPhase_of_open hplace hopen]
    simp
  have hlast : awaitsEquals (done ++ [function]) = false :=
    awaitsEquals_of_not_source done
      (isSourceKeyword_eq_false (Vocabulary.takesField · = true) hopen (by decide))
  exact ⟨position_of_statsPhase .byKeyword hword hlast hphase,
    awaitsEquals_of_not_source _ hword.source, done, function, [word], by simp, hclause,
    by simp [hopen]⟩

theorem leads_by (htallies : session.clause.Tallies completed 0) :
    Leads settings catalog session (completed ++ [word]) .statsGroupField :=
  ⟨position_of_statsPhase .groupField hword hlast (htallies.statsPhase word),
    awaitsEquals_of_not_source _ hword.source, htallies.concat word⟩

theorem leads_tallied (htallies : session.clause.Tallies completed 1) :
    Leads settings catalog session (completed ++ [word]) .clauseComplete :=
  ⟨position_of_statsPhase .complete hword hlast (htallies.statsPhase word), trivial⟩

end Words

end Reading
end PipedQuery
