import PipedQuery.Position
import PipedQuery.Sample

/-!
Suggestions. Every position has its raw candidates; those whose text properly extends the stem
become suggestions, in the same order. A suggestion's label is the whole query after it is
applied: the input it replaces followed by its tail.
-/

set_option autoImplicit false
set_option relaxedAutoImplicit false

namespace PipedQuery

/-- Details shown beside a suggestion. -/
structure Details where
  count : Option UInt64 := none
  type : Option FieldType := none
deriving DecidableEq

structure Suggestion where
  label : String
  replaced : String
  tail : String
  item : Option String := none
  details : Option Details := none
deriving DecidableEq

/-- A text that may stand under the cursor, before the stem is looked at. -/
structure Candidate where
  text : String
  /-- It attaches to the last completed word, over the space between. -/
  glued : Bool := false
  item : Option String := none
  details : Option Details := none
deriving DecidableEq

namespace Details

def toJson (details : Details) : Json :=
  .present [("docCount", details.count.map .ofWord),
    ("fieldType", details.type.map FieldType.toJson)]

def ofJson (value : Json) : Option Details := do
  let fields ← value.fullRecord ["docCount", "fieldType"]
  let count ← fields.optional "docCount" Json.word?
  let type ← fields.optional "fieldType" FieldType.ofJson
  return ⟨count, type⟩

end Details

namespace Candidate

def keyword (text : String) : Candidate :=
  { text, item := some text }

/-- A sign of the grammar, which names nothing. -/
def sign (text : String) : Candidate :=
  { text }

def field (field : Field) : Candidate :=
  { text := field.name, item := some field.name, details := some { type := some field.type } }

/-- A field as the argument of an open aggregate, which it closes. -/
def argument (field : Field) : Candidate :=
  { Candidate.field field with text := field.name ++ ")", glued := true }

def value (type : Option FieldType) (value : SampledValue) : Candidate :=
  { text := value.label, item := some value.label,
    details := some { count := some value.count, type } }

/-- The fields of the active index, if they are resident. -/
def activeFields (session : Session) (catalog : Catalog) : List Field :=
  (session.activeIndex.bind catalog.fieldsOf).getD []

/-- The raw candidates of a position. The sample is used where a value is expected and
nowhere else. -/
def all (position : Position) (session : Session) (catalog : Catalog)
    (sample : List SampledValue) : List Candidate :=
  match position with
  | .firstCommand => Vocabulary.firstCommands.map keyword
  | .pipeCommand => Vocabulary.pipeCommands.map keyword
  | .statsFunction => Vocabulary.statsFunctions.map keyword
  | .sourceKeyword => [keyword "source"]
  | .equalsAfterSource | .whereEquals => [sign "="]
  | .pipeSeparatorAfterIndex | .clauseComplete => [sign "|"]
  | .statsByKeyword => [sign "by"]
  | .fieldListOrPipe => [{ text := ",", glued := true }, sign "|"]
  | .indexName => catalog.indices.map keyword
  | .inlineIndexName source => catalog.indices.map fun index ↦
      { text := source ++ "=" ++ index, item := some index }
  | .fieldListContinuation | .statsGroupField | .fieldsFirst | .dedupField | .whereField =>
    (activeFields session catalog).map field
  | .statsFieldArg => ((activeFields session catalog).filter (·.type.isNumeric)).map argument
  | .whereValue => sample.map (value (session.activeField.bind ActiveField.type))
  | .none => []

/-- The suggestion that a candidate makes, if its text properly extends the stem. -/
def suggestion (tokens : Tokens) (candidate : Candidate) : Option Suggestion :=
  match Text.after tokens.stem candidate.text with
  | none => none
  | some tail =>
    if tail.isEmpty then none
    else
      let replaced := (if candidate.glued then tokens.gluedHead else tokens.head) ++ tokens.stem
      some ⟨replaced ++ tail, replaced, tail, candidate.item, candidate.details⟩

end Candidate

namespace Suggestion

/-- The suggestions of a position for a query. -/
def all (position : Position) (tokens : Tokens) (session : Session) (catalog : Catalog)
    (sample : List SampledValue) : List Suggestion :=
  (Candidate.all position session catalog sample).filterMap (Candidate.suggestion tokens)

def toJson (suggestion : Suggestion) : Json :=
  .present [
    ("label", some (.string suggestion.label)),
    ("replacementInput", some (.string suggestion.replaced)),
    ("suggestionTail", some (.string suggestion.tail)),
    ("itemName", suggestion.item.map .string),
    ("meta", suggestion.details.map Details.toJson)]

def ofJson (value : Json) : Option Suggestion := do
  let fields ← value.fullRecord
    ["label", "replacementInput", "suggestionTail", "itemName", "meta"]
  let label ← fields.required "label" Json.string?
  let replaced ← fields.required "replacementInput" Json.string?
  let tail ← fields.required "suggestionTail" Json.string?
  let item ← fields.optional "itemName" Json.string?
  let details ← fields.optional "meta" Details.ofJson
  return ⟨label, replaced, tail, item, details⟩

end Suggestion
end PipedQuery
