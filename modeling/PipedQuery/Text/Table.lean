import PipedQuery.Text.Cut

/-!
Tables written as text: hexadecimal numerals between blanks, and rows of them between commas. A
mapping of code points is given by its runs, in which the images follow one another as the
points do.
-/

set_option autoImplicit false
set_option relaxedAutoImplicit false

namespace PipedQuery.Text.Table

/-- The value of a digit, of which the greater ones are capital letters. -/
def digit (c : Char) : Nat :=
  if c ≤ '9' then c.toNat - 48 else c.toNat - 55

/-- The numerals in the rest of a text, after the digits of one that has begun. -/
def numeralsAfter (begun : Option Nat) : List Char → List Nat
  | [] => begun.toList
  | c :: rest =>
    if c = ' ' ∨ c = '\n' then begun.toList ++ numeralsAfter none rest
    else numeralsAfter (some (begun.getD 0 * 16 + digit c)) rest

def numerals (text : String) : List Nat :=
  numeralsAfter none text.toList

def rows (text : String) : List (List Nat) :=
  (stretches ',' text.toList).map (numeralsAfter none)

/-- The points at every `stride` from `first` to `last`, of which the first is mapped to `target`
and every other one to what is as far from there. -/
structure Run where
  first : Nat
  last : Nat
  stride : Nat
  target : Nat

def runs (text : String) : List Run :=
  (rows text).filterMap fun
    | [first, last, stride, target] => some ⟨first, last, stride, target⟩
    | _ => none

/-- What the runs map a point to. -/
def image? (runs : List Run) (n : Nat) : Option Nat :=
  (runs.find? fun run ↦ run.first ≤ n && n ≤ run.last && (n - run.first) % run.stride = 0).map
    fun run ↦ run.target + (n - run.first)

end PipedQuery.Text.Table
