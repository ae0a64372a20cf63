import PipedQuery.Text.Cut

/-!
Labels of domain names in ASCII: the basic characters first, then every other one as the step
from the one before it in code-point order, in digits of base 36 whose thresholds adapt. `encode`
writes this form and `decode` reads it, as far as its numbers fit 32 bits.
-/

set_option autoImplicit false
set_option relaxedAutoImplicit false

namespace PipedQuery.Text.Punycode

def digit (value : Nat) : Char :=
  if value < 26 then Char.ofNat (97 + value) else Char.ofNat (22 + value)

def threshold (place bias : Nat) : Nat :=
  if place ≤ bias then 1 else if bias + 26 ≤ place then 26 else place - bias

theorem one_le_threshold (place bias : Nat) : 1 ≤ threshold place bias := by
  unfold threshold
  split
  · omega
  · split <;> omega

/-- The digits of a step, the least first. -/
def digits (bias place step : Nat) : List Char :=
  let low := threshold place bias
  if step < low then [digit step]
  else digit (low + (step - low) % (36 - low)) ::
    digits bias (place + 36) ((step - low) / (36 - low))
termination_by step
decreasing_by
  have := one_le_threshold place bias
  exact Nat.lt_of_le_of_lt (Nat.div_le_self _ _) (by omega)

def shrink (delta rounds : Nat) : Nat × Nat :=
  if 455 < delta then shrink (delta / 35) (rounds + 36) else (delta, rounds)
termination_by delta
decreasing_by omega

def adapt (delta count : Nat) (first : Bool) : Nat :=
  let start := if first then delta / 700 else delta / 2
  let (small, rounds) := shrink (start + start / count) 0
  rounds + 36 * small / (small + 38)

structure State where
  written : List Char
  delta : Nat
  bias : Nat
  handled : Nat

/-- One character of the label, while `point` is the code point being placed. -/
def visit (basic point : Nat) (state : State) (c : Char) : State :=
  if c.toNat < point then { state with delta := state.delta + 1 }
  else if c.toNat = point then
    { written := state.written ++ digits state.bias 36 state.delta
      delta := 0
      bias := adapt state.delta (state.handled + 1) (state.handled == basic)
      handled := state.handled + 1 }
  else state

def place (label : List Char) (basic : Nat) : Nat → List Nat → State → State
  | _, [], state => state
  | next, point :: rest, state =>
    let moved := { state with delta := state.delta + (point - next) * (state.handled + 1) }
    let visited := label.foldl (visit basic point) moved
    place label basic (point + 1) rest { visited with delta := visited.delta + 1 }

def insertPoint (point : Nat) : List Nat → List Nat
  | [] => [point]
  | other :: rest =>
    if point < other then point :: other :: rest
    else if point = other then other :: rest
    else other :: insertPoint point rest

/-- A label that holds a character beyond ASCII. -/
def encode (label : List Char) : List Char :=
  let basic := label.filter (·.toNat < 128)
  let points := (label.filter (128 ≤ ·.toNat)).foldl (fun sorted c ↦ insertPoint c.toNat sorted) []
  let start : State := ⟨[], 0, 72, basic.length⟩
  (if basic.isEmpty then [] else basic ++ ['-']) ++ (place label basic.length 128 points start).written

/-! Reading -/

def digitValue (c : Char) : Option Nat :=
  if 'a' ≤ c ∧ c ≤ 'z' then some (c.toNat - 97)
  else if '0' ≤ c ∧ c ≤ '9' then some (c.toNat - 22)
  else none

def greatest : Nat := 0xFFFFFFFF

/-- Adds a step to `sum`. The result is that and the digits after those of the step. -/
def readStep (bias place weight sum : Nat) : List Char → Option (Nat × List Char)
  | [] => none
  | c :: rest =>
    match digitValue c with
    | none => none
    | some value =>
      let low := threshold place bias
      let added := sum + value * weight
      if greatest < added then none
      else if value < low then some (added, rest)
      else if greatest < weight * (36 - low) then none
      else readStep bias (place + 36) (weight * (36 - low)) added rest

theorem length_lt_of_readStep {bias place weight sum : Nat} {chars rest : List Char} {added : Nat}
    (h : readStep bias place weight sum chars = some (added, rest)) :
    rest.length < chars.length := by
  induction chars generalizing place weight sum with
  | nil => simp [readStep] at h
  | cons c tail ih =>
    simp only [readStep] at h
    split at h
    · contradiction
    · split at h
      · contradiction
      · split at h
        · simp_all
        · split at h
          · contradiction
          · have := ih h
            simp only [List.length_cons]
            omega

/-- Inserts characters into a label, each by its step from the code point and the place of the
one before it. -/
def insertSteps (bias point place : Nat) (label chars : List Char) : Option (List Char) :=
  if chars.isEmpty then some label
  else match _h : readStep bias 36 1 place chars with
    | none => none
    | some (sum, rest) =>
      let count := label.length + 1
      let next := point + sum / count
      if next.isValidChar then
        insertSteps (adapt (sum - place) count (place == 0)) next (sum % count + 1)
          (label.insertIdx (sum % count) (Char.ofNat next)) rest
      else none
termination_by chars.length
decreasing_by exact length_lt_of_readStep _h

/-- The label that a text in ASCII stands for. -/
def decode (text : List Char) : Option (List Char) :=
  match cutFirst '-' text.reverse with
  | some (_, []) => none
  | some (steps, basic) => insertSteps 72 128 0 basic.reverse steps.reverse
  | none => insertSteps 72 128 0 [] text

end PipedQuery.Text.Punycode
