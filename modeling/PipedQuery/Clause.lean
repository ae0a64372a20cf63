import PipedQuery.Tokens
import PipedQuery.Vocabulary

/-!
The clause being typed. A clause remembers how many words the query had when its keyword was
complete, and where the cursor stands in it is a function of the number of words now. So typing
on inside a word, or asking twice, changes nothing.
-/

set_option autoImplicit false
set_option relaxedAutoImplicit false

namespace PipedQuery

inductive Clause where
  | idle
  /-- The aggregate is the word before position `anchor`. -/
  | stats (anchor : Nat)
  /-- The field is the word before position `anchor`. -/
  | filter (anchor : Nat)
deriving DecidableEq

inductive StatsPhase where
  /-- The field of an open aggregate, as a word of its own. -/
  | argument
  | byKeyword
  | groupField
  | complete
deriving DecidableEq

inductive FilterPhase where
  | equals
  | value
  | complete
deriving DecidableEq

namespace Clause

/-- The aggregate of a clause anchored there is open. -/
def opensAt (anchor : Nat) (tokens : Tokens) : Bool :=
  match anchor with
  | 0 => false
  | position + 1 => (tokens.get position).any Vocabulary.takesField

/-- An open aggregate takes one more word, for its field, before `by` may follow. -/
def statsPhase (clause : Clause) (tokens : Tokens) : Option StatsPhase :=
  match clause with
  | stats anchor =>
    let start := if opensAt anchor tokens then anchor + 1 else anchor
    if opensAt anchor tokens && tokens.size == anchor + 1 then some .argument
    else if tokens.size = start + 1 then some .byKeyword
    else if tokens.size = start + 2 then some .groupField
    else if tokens.size = start + 3 then some .complete
    else none
  | _ => none

def filterPhase (clause : Clause) (size : Nat) : Option FilterPhase :=
  match clause with
  | filter anchor =>
    if size = anchor + 1 then some .equals
    else if size = anchor + 2 then some .value
    else if size = anchor + 3 then some .complete
    else none
  | _ => none

end Clause
end PipedQuery
