import PipedQuery.Json.Record
import PipedQuery.Text.Cut

/-!
Settings of the completion engine.
-/

set_option autoImplicit false
set_option relaxedAutoImplicit false

namespace PipedQuery

structure Settings where
  /-- Leave out the indices whose names begin with the system lead. -/
  hideSystemIndices : Bool := true
  systemLead : String := "."
  /-- Ask for the index list while the first command is being typed. -/
  prefetchIndices : Bool := true
deriving DecidableEq

namespace Settings

/-- Hiding needs a lead, since every name begins with the empty text. -/
def isValid (settings : Settings) : Bool :=
  !(settings.hideSystemIndices && settings.systemLead.isEmpty)

def complaint : String :=
  "system_index_prefix must not be empty while hide_system_indices is set"

def shows (settings : Settings) (index : String) : Bool :=
  !(settings.hideSystemIndices && Text.beginsWith settings.systemLead index)

def toJson (settings : Settings) : Json :=
  .object [
    ("hide_system_indices", .bool settings.hideSystemIndices),
    ("system_index_prefix", .string settings.systemLead),
    ("prefetch_indices", .bool settings.prefetchIndices)]

def ofJson (value : Json) : Option Settings := do
  let fields ← value.record ["hide_system_indices", "system_index_prefix", "prefetch_indices"]
  let hide ← fields.withDefault "hide_system_indices" true Json.bool?
  let lead ← fields.withDefault "system_index_prefix" "." Json.string?
  let prefetch ← fields.withDefault "prefetch_indices" true Json.bool?
  return ⟨hide, lead, prefetch⟩

end Settings
end PipedQuery
