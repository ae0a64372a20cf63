import PipedQuery.Engine
import PipedQuery.Text.Blank

/-!
Completion at the cursor of the shell. The text before the cursor goes to the engine and every
suggestion stands for the whole of it. A single suggestion counts as taken, so that what it needs
is fetched at once.
-/

set_option autoImplicit false
set_option relaxedAutoImplicit false

namespace PipedQuery.Shell

/-- What may be put in: the text shown and the text that takes the place of the input. -/
structure Entry where
  shown : String
  replacement : String
deriving DecidableEq

structure Completion where
  /-- The byte at which the replacement begins. -/
  start : Nat
  options : List Entry
  engine : Engine
  calls : List Request

namespace Completion

/-- The characters in the first `size` bytes, if those end between characters. -/
def takeBytes : Nat → List Char → Option (List Char)
  | 0, _ => some []
  | _ + 1, [] => none
  | size + 1, c :: rest =>
    if c.utf8Size ≤ size + 1 then (takeBytes (size + 1 - c.utf8Size) rest).map (c :: ·) else none

/-- Completion of a command to the shell, which has no blank yet. -/
def ofCommand (engine : Engine) (input : String) : Completion :=
  let found := Vocabulary.metaCommands.filter (Text.beginsWith input)
  ⟨0, found.map fun command ↦ ⟨command, command⟩, engine, []⟩

/-- Completion of a query. -/
def ofQuery (gateway : Gateway) (engine : Engine) (input : String) : Completion :=
  let served := engine.serve gateway input
  match served.batch.items with
  | [only] =>
    let selection := served.engine.select only
    let resolved := selection.engine.resolve gateway [] selection.requests
    ⟨0, [⟨only.label, selection.query⟩], resolved.engine, served.calls ++ resolved.calls⟩
  | items =>
    ⟨0, items.map fun item ↦ ⟨item.item.getD item.tail, item.label⟩, served.engine, served.calls⟩

/-- Completion at a byte of a line; none if the byte is past the end or inside a character. -/
def atByte (gateway : Gateway) (engine : Engine) (line : String) (place : Nat) : Option Completion :=
  (takeBytes place line.toList).map fun before ↦
    match before with
    | '\\' :: _ =>
      if before.any Text.isBlank then ⟨place, [], engine, []⟩
      else ofCommand engine (String.ofList before)
    | _ => ofQuery gateway engine (String.ofList before)

end Completion
end PipedQuery.Shell
