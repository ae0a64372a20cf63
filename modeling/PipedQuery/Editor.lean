import PipedQuery.Engine

/-!
The text field that an engine serves. The host is told of every change of the text, and a batch
is accepted only for the text that stands in the field.
-/

set_option autoImplicit false
set_option relaxedAutoImplicit false

namespace PipedQuery

structure Editor where
  query : String := ""
  /-- The host wants to be told of changes. -/
  reports : Bool := true
deriving DecidableEq

/-- A change as the host is told of it: the new text and the active index. -/
structure Change where
  text : String
  activeIndex : Option String
deriving DecidableEq

namespace Editor

/-- Puts a text into the field; the same text again is no change. -/
def setQuery (editor : Editor) (engine : Engine) (text : String) : Editor × Option Change :=
  if editor.query = text then (editor, none)
  else
    ({ editor with query := text },
      if editor.reports then some ⟨text, engine.session.activeIndex⟩ else none)

/-- The items of a batch, unless the text has changed since or the engine is closed. -/
def accept (editor : Editor) (engine : Engine) (batch : Batch) : Option (List Suggestion) :=
  if batch.isFor editor.query && !engine.closed then some batch.items else none

end Editor
end PipedQuery
