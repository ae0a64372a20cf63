/-!
Sets of characters by their bounds: ascending code points at which a stretch of members begins
and, by turns, ends. A stretch includes its beginning and not its end.
-/

set_option autoImplicit false
set_option relaxedAutoImplicit false

namespace PipedQuery.Text

/-- The code point lies in one of the stretches. -/
def covers : List Nat → Nat → Bool
  | [], _ => false
  | [low], n => low ≤ n
  | low :: high :: rest, n =>
    if n < low then false else if n < high then true else covers rest n

end PipedQuery.Text
