import PipedQuery.Number.Double

/-!
The decimal text of a double: the fewest significant digits that read back as it, and of
those the nearest. Numbers from `10⁻⁵` up to `10¹⁶` are written positionally and always with
a fraction, all others with one digit before the point and a signed exponent.
-/

set_option autoImplicit false
set_option relaxedAutoImplicit false

namespace PipedQuery

/-- A decimal `digits · 10 ^ exponent`. -/
structure Decimal where
  digits : Nat
  exponent : Int
deriving DecidableEq

namespace Decimal

/-- The decimal as an exact quotient. -/
def quotient (d : Decimal) : Nat × Nat :=
  if 0 ≤ d.exponent then (d.digits * Nat.pow 10 d.exponent.toNat, 1)
  else (d.digits, Nat.pow 10 (-d.exponent).toNat)

def readsAs (d : Decimal) (m : Magnitude) : Bool :=
  decide (Magnitude.ofQuotient d.quotient.1 d.quotient.2 = some m)

/-- The distance to a magnitude, scaled by the product of the two denominators. -/
def distance (d : Decimal) (m : Magnitude) : Nat :=
  let (top, bottom) := d.quotient
  let (num, den) := m.quotient
  if num * bottom ≤ top * den then top * den - num * bottom else num * bottom - top * den

/-- The neighbours of a magnitude among the multiples of `10 ^ exponent`. -/
def neighbours (m : Magnitude) (exponent : Int) : Decimal × Decimal :=
  let (num, den) := m.quotient
  let below :=
    if 0 ≤ exponent then num / (den * Nat.pow 10 exponent.toNat)
    else num * Nat.pow 10 (-exponent).toNat / den
  (⟨below, exponent⟩, ⟨below + 1, exponent⟩)

/-- The nearest multiple of `10 ^ exponent` that reads back; a tie goes to the even one. -/
def onGrid (m : Magnitude) (exponent : Int) : Option Decimal :=
  let (low, high) := neighbours m exponent
  match low.readsAs m, high.readsAs m with
  | true, true =>
    if low.distance m < high.distance m then some low
    else if high.distance m < low.distance m then some high
    else if low.digits % 2 = 0 then some low else some high
  | true, false => some low
  | false, true => some high
  | false, false => none

/-- The first grid with a decimal that reads back, from `top` downwards. -/
def search (m : Magnitude) (top : Int) : Nat → Decimal
  | 0 => (neighbours m top).1
  | fuel + 1 => (onGrid m top).getD (search m (top - 1) fuel)

def stripZeros (digits : Nat) (exponent : Int) : Decimal :=
  if h : digits ≠ 0 ∧ digits % 10 = 0 then stripZeros (digits / 10) (exponent + 1)
  else ⟨digits, exponent⟩
termination_by digits
decreasing_by omega

/-- An upper bound for the exponent of the leading decimal digit. -/
def leading (m : Magnitude) : Int :=
  let (num, den) := m.quotient
  let binary := Magnitude.floorLog num den
  if 0 ≤ binary then binary * 31 / 100 + 1 else binary * 30 / 100 + 1

/-- The bound is at most ten places too high and seventeen digits always read back, so a
decimal is found within forty grids. -/
def shortest (m : Magnitude) : Decimal :=
  if m.significand = 0 then ⟨0, 0⟩
  else
    let found := search m (leading m) 40
    stripZeros found.digits found.exponent

/-- The shortest decimal of a magnitude, as text. -/
def text (d : Decimal) : String :=
  let digits := (toString d.digits).toList
  let count : Int := digits.length
  let point := count + d.exponent
  if d.digits = 0 then "0.0"
  else if -4 ≤ point ∧ point ≤ 16 then
    if 0 ≤ d.exponent then
      String.ofList (digits ++ List.replicate d.exponent.toNat '0') ++ ".0"
    else if 0 < point then
      String.ofList (digits.take point.toNat) ++ "." ++ String.ofList (digits.drop point.toNat)
    else "0." ++ String.ofList (List.replicate (-point).toNat '0' ++ digits)
  else
    let lead := String.ofList (digits.take 1)
    let rest := digits.drop 1
    let fraction := if rest.isEmpty then "" else "." ++ String.ofList rest
    let power := point - 1
    let sign := if power < 0 then "-" else "+"
    lead ++ fraction ++ "e" ++ sign ++ toString power.natAbs

end Decimal

namespace Double

def text (d : Double) : String :=
  (if d.negative then "-" else "") ++ (Decimal.shortest d.magnitude).text

end Double
end PipedQuery
