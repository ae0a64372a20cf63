import PipedQuery.Text.Cut

/-!
The fixed words of the query language, in the order in which they are offered.
-/

set_option autoImplicit false
set_option relaxedAutoImplicit false

namespace PipedQuery.Vocabulary

/-- Commands that may open a query. -/
def firstCommands : List String := ["index", "search", "source"]

/-- Commands that may follow a pipe. -/
def pipeCommands : List String :=
  ["dedup", "eval", "fields", "head", "rare", "rename", "sort", "stats", "top", "where"]

/-- Aggregates. All but the first are left open for a field. -/
def statsFunctions : List String :=
  ["count()", "sum(", "avg(", "max(", "min(", "var_samp(", "var_pop(", "stddev_samp(",
    "stddev_pop("]

/-- Keywords that select the index a query reads from. -/
def sourceKeywords : List String := ["source", "index"]

/-- Every word that is always a keyword. -/
def keywords : List String := firstCommands ++ pipeCommands ++ ["by"]

/-- Commands to the shell itself, offered by its completion. -/
def metaCommands : List String :=
  ["\\connect", "\\indices", "\\fields", "\\session", "\\refresh", "\\format", "\\status",
    "\\timing", "\\help", "\\quit", "\\q"]

def isSourceKeyword (word : String) : Bool :=
  sourceKeywords.contains word

/-- The keyword and the value of an assignment such as `source=logs` in one word. -/
def sourceAssignment (word : String) : Option (String × String) :=
  match Text.cut '=' word with
  | some (keyword, value) => if isSourceKeyword keyword then some (keyword, value) else none
  | none => none

/-- The index that a word names: the value of an assignment, or the word itself. -/
def indexReference (word : String) : String :=
  match sourceAssignment word with
  | some (_, value) => value
  | none => word

/-- The aggregate is left open, so that its field follows as a word of its own. -/
def takesField (function : String) : Bool :=
  function != "count()" && Text.endsIn '(' function

end PipedQuery.Vocabulary
