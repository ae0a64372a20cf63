import PipedQuery.Client
import PipedQuery.Shell.Csv
import PipedQuery.Shell.Grid
import PipedQuery.Suggestion
import PipedQuery.Text.Lowercase

/-!
What the shell prints: columns and rows, beside the JSON of the same data, in one of three
formats.
-/

set_option autoImplicit false
set_option relaxedAutoImplicit false

namespace PipedQuery.Shell

inductive Format where
  | table
  | json
  | csv
deriving DecidableEq

structure Listing where
  columns : List String
  rows : List (List String)
  json : Json
  singular : String
  plural : String

namespace Format

def name : Format → String
  | table => "table"
  | json => "json"
  | csv => "csv"

/-- A format by its name in any case, or what is wrong with the name. -/
def parse (text : String) : Except String Format :=
  let lower := Text.lowercase text
  if lower = "table" then .ok table
  else if lower = "json" then .ok json
  else if lower = "csv" then .ok csv
  else .error ("Unknown format '" ++ lower ++ "'. Valid formats: table, json, csv")

end Format

namespace Listing

def suggestionRow (suggestion : Suggestion) : List String :=
  let details := suggestion.details.getD {}
  [suggestion.tail, suggestion.label, (details.type.map FieldType.name).getD "",
    (details.count.map fun count ↦ toString count.toNat).getD ""]

def ofSuggestions (items : List Suggestion) : Listing where
  columns := ["completion", "label", "type", "docs"]
  rows := items.map suggestionRow
  json := .array (items.map Suggestion.toJson)
  singular := "suggestion"
  plural := "suggestions"

def ofIndices (names : List String) : Listing where
  columns := ["index"]
  rows := names.map ([·])
  json := .array (names.map .string)
  singular := "index"
  plural := "indices"

def ofFields (held : IndexFields) : Listing where
  columns := ["field", "type"]
  rows := held.fields.map fun field ↦ [field.name, field.type.name]
  json := held.toJson
  singular := "field"
  plural := "fields"

/-- A value in a cell: a dash for none, a text as it is, anything else as compact JSON. -/
def cellText : Json → String
  | .null => "-"
  | .string text => text
  | other => other.compact

def ofMembers (members : List (String × Json)) : Listing where
  columns := ["key", "value"]
  rows := members.map fun (name, value) ↦ [name, cellText value]
  json := .object members
  singular := "entry"
  plural := "entries"

def ofSession (session : Session) : Listing :=
  ofMembers session.members

def ofCluster (info : ClusterInfo) : Listing :=
  ofMembers info.members

def isEmpty (listing : Listing) : Bool :=
  listing.rows.isEmpty

def renderTable (listing : Listing) : String :=
  let count := listing.rows.length
  let noun := if count = 1 then listing.singular else listing.plural
  Grid.render listing.columns listing.rows ++ "\n(" ++ toString count ++ " " ++ noun ++ ")"

def render (listing : Listing) : Format → String
  | .table => listing.renderTable
  | .json => listing.json.canonical.pretty
  | .csv => Csv.render listing.columns listing.rows

end Listing
end PipedQuery.Shell
