import PipedQuery.Catalog
import PipedQuery.Session

/-!
Where the cursor stands in the grammar. `Reading.ofTokens` tries the rules in order and the
first that applies decides the position, the session after it and what is missing from the
catalog. Nothing is fetched here.
-/

set_option autoImplicit false
set_option relaxedAutoImplicit false

namespace PipedQuery

inductive Position where
  | firstCommand
  | pipeCommand
  | fieldListContinuation
  | equalsAfterSource
  | indexName
  /-- An index after a source keyword and its equals sign, all in one word. -/
  | inlineIndexName (keyword : String)
  | pipeSeparatorAfterIndex
  | sourceKeyword
  | statsFunction
  | statsFieldArg
  | statsByKeyword
  | statsGroupField
  | fieldsFirst
  | dedupField
  | whereField
  | whereEquals
  | whereValue
  | clauseComplete
  | fieldListOrPipe
  | none
deriving DecidableEq

/-- What the rules make of a query. -/
structure Reading where
  position : Position
  requests : List Request
  session : Session
deriving DecidableEq

namespace Position

/-- The suggestions there come from the backend and change when a fetch lands. -/
def usesMetadata : Position → Bool
  | indexName | inlineIndexName _ | fieldListContinuation | statsFieldArg | statsGroupField
  | fieldsFirst | dedupField | whereField | whereValue => true
  | _ => false

end Position

namespace Reading

/-- The request for the index list, if the list is missing. -/
def indicesRequest (catalog : Catalog) : List Request :=
  if catalog.needs .indices then [.indices] else []

def fieldsRequest (catalog : Catalog) (index : String) : List Request :=
  if catalog.needs (.fields index) then [.fields index] else []

/-- The request for the fields of the active index, if there is one and they are missing. -/
def activeFieldsRequest (catalog : Catalog) (session : Session) : List Request :=
  match session.activeIndex with
  | some index => fieldsRequest catalog index
  | none => []

/-- Values are sampled when the field and its type are known and the type has a text form. -/
def valuesRequest (session : Session) : List Request :=
  match session.activeIndex, session.activeField with
  | some index, some ⟨field, some type⟩ =>
    if type = .geoPoint then [] else [.values index field type]
  | _, _ => []

/-- A position where a field of the active index is expected. -/
def atField (position : Position) (catalog : Catalog) (session : Session) : Reading :=
  ⟨position, activeFieldsRequest catalog session, session⟩

/-- The rules of the filter clause. -/
def ofFilter (catalog : Catalog) (session : Session) (previous : String) :
    FilterPhase → Reading
  | .equals =>
    let type := session.activeIndex.bind (catalog.typeOf · previous)
    ⟨.whereEquals, [], { session with activeField := some ⟨previous, type⟩ }⟩
  | .value => ⟨.whereValue, valuesRequest session, session⟩
  | .complete => ⟨.clauseComplete, [], session⟩

/-- The rules for commands and for what follows a clause. -/
def ofCommand (catalog : Catalog) (session : Session) (tokens : Tokens) (previous : String) :
    Reading :=
  if previous = "fields" then atField .fieldsFirst catalog { session with listsFields := true }
  else if previous = "dedup" then atField .dedupField catalog session
  else if previous = "where" then
    atField .whereField catalog { session with clause := .filter tokens.size }
  else match session.clause.filterPhase tokens.size with
    | some phase => ofFilter catalog session previous phase
    | none =>
      if session.clause.statsPhase tokens = some .complete then ⟨.clauseComplete, [], session⟩
      else if session.listsFields then ⟨.fieldListOrPipe, [], session⟩
      else ⟨.none, [], session⟩

/-- The rules once no source, index or pipe decides. -/
def ofSegment (catalog : Catalog) (session : Session) (tokens : Tokens) (previous : String) :
    Reading :=
  if previous = "search" then ⟨.sourceKeyword, [], session⟩
  else if previous = "stats" then
    ⟨.statsFunction, [], { session with clause := .stats tokens.size }⟩
  else match session.clause.statsPhase tokens with
    | some .argument => atField .statsFieldArg catalog session
    | some .byKeyword => ⟨.statsByKeyword, [], session⟩
    | some .groupField => atField .statsGroupField catalog session
    | some .complete => ofCommand catalog session tokens previous
    | none => ofCommand catalog session tokens previous

/-- The rules that follow a completed word. -/
def ofPrevious (catalog : Catalog) (session : Session) (tokens : Tokens) (previous : String) :
    Reading :=
  if previous = "|" then ⟨.pipeCommand, [], session.startSegment⟩
  else if Text.mentions ',' previous then
    if session.listsFields then atField .fieldListContinuation catalog session
    else ⟨.none, [], session⟩
  else if Vocabulary.isSourceKeyword previous then ⟨.equalsAfterSource, [], session⟩
  else if (tokens.back 2).any Vocabulary.isSourceKeyword then
    ⟨.indexName, indicesRequest catalog, session⟩
  else match Vocabulary.sourceAssignment tokens.stem with
    | some (keyword, _) => ⟨.inlineIndexName keyword, indicesRequest catalog, session⟩
    | none =>
      let index := Vocabulary.indexReference previous
      if catalog.knows index then
        ⟨.pipeSeparatorAfterIndex, fieldsRequest catalog index,
          { session with activeIndex := some index }⟩
      else ofSegment catalog session tokens previous

/-- Reads a query. Without a completed word it is a new one, and its session starts afresh. -/
def ofTokens (settings : Settings) (catalog : Catalog) (session : Session) (tokens : Tokens) :
    Reading :=
  match tokens.previous with
  | none =>
    ⟨.firstCommand, if settings.prefetchIndices then indicesRequest catalog else [], {}⟩
  | some previous => ofPrevious catalog session tokens previous

end Reading
end PipedQuery
