/-!
Finite double-precision numbers as a sign and a magnitude `significand · 2 ^ exponent`, with
exact rounding. A quotient of natural numbers goes to the nearest double and a tie to the even
significand; a magnitude past the largest double has no value.
-/

set_option autoImplicit false
set_option relaxedAutoImplicit false

namespace PipedQuery

/-- A magnitude in binary. A nonzero one that the rounding below yields has a significand
between `2 ^ 52` and `2 ^ 53`, or the least exponent. -/
structure Magnitude where
  significand : Nat
  exponent : Int
deriving DecidableEq

structure Double where
  negative : Bool
  magnitude : Magnitude
deriving DecidableEq

namespace Magnitude

/-- The exponent of the least positive double. -/
def leastExponent : Int := -1074

/-- The exponent of the largest doubles. -/
def greatestExponent : Int := 971

/-- The least significand above the least exponent, `2 ^ 52`. -/
def leastNormal : Nat := 0x10000000000000

def zero : Magnitude := ⟨0, leastExponent⟩

/-- The quotient rounded to the nearest natural number, a half to the even one. -/
def nearestQuotient (num den : Nat) : Nat :=
  let whole := num / den
  let twice := 2 * (num % den)
  if twice < den then whole
  else if den < twice then whole + 1
  else whole + whole % 2

/-- The quotient `num / den` divided by `2 ^ exponent`, as a numerator and a denominator. -/
def shifted (num den : Nat) (exponent : Int) : Nat × Nat :=
  if 0 ≤ exponent then (num, den <<< exponent.toNat)
  else (num <<< (-exponent).toNat, den)

/-- The greatest `k` with `2 ^ k ≤ num / den`, for positive arguments. -/
def floorLog (num den : Nat) : Int :=
  let guess : Int := (num.log2 : Int) - (den.log2 : Int)
  let (top, bottom) := shifted num den guess
  if bottom ≤ top then guess else guess - 1

/-- The nearest double to `num / den`, unless that lies past the largest one. -/
def ofQuotient (num den : Nat) : Option Magnitude :=
  if num = 0 then some zero
  else
    let exponent := max (floorLog num den - 52) leastExponent
    let (top, bottom) := shifted num den exponent
    let significand := nearestQuotient top bottom
    let (significand, exponent) :=
      if significand = 2 * leastNormal then (leastNormal, exponent + 1) else (significand, exponent)
    if greatestExponent < exponent then none else some ⟨significand, exponent⟩

/-- The magnitude as an exact quotient. -/
def quotient (m : Magnitude) : Nat × Nat :=
  if 0 ≤ m.exponent then (m.significand <<< m.exponent.toNat, 1)
  else (m.significand, 1 <<< (-m.exponent).toNat)

def times (a b : Magnitude) : Option Magnitude :=
  ofQuotient (a.quotient.1 * b.quotient.1) (a.quotient.2 * b.quotient.2)

def dividedBy (a b : Magnitude) : Option Magnitude :=
  ofQuotient (a.quotient.1 * b.quotient.2) (a.quotient.2 * b.quotient.1)

def powerOfTen (k : Nat) : Option Magnitude :=
  ofQuotient (Nat.pow 10 k) 1

/-- The decimal places that one division takes off at most. -/
def widestStep : Nat := 308

/-- So many divisions by the widest step, each rounded. -/
def lowerSteps (m : Magnitude) : Nat → Option Magnitude
  | 0 => some m
  | steps + 1 =>
    if m.significand = 0 then some m
    else ((powerOfTen widestStep).bind m.dividedBy).bind (·.lowerSteps steps)

/-- Division by `10 ^ k` in steps, the rest last. -/
def lower (m : Magnitude) (k : Nat) : Option Magnitude :=
  let steps := (k - 1) / widestStep
  (m.lowerSteps steps).bind fun less ↦
    (powerOfTen (k - steps * widestStep)).bind less.dividedBy

/-- `significand · 10 ^ exponent`, where the significand and the power of ten are rounded first
and their product or quotient after that. -/
def ofDecimal (significand : Nat) (exponent : Int) : Option Magnitude :=
  match ofQuotient significand 1 with
  | none => none
  | some start =>
    if exponent < 0 then start.lower (-exponent).toNat
    else if significand = 0 then some zero
    else if (widestStep : Int) < exponent then none
    else (powerOfTen exponent.toNat).bind start.times

end Magnitude
end PipedQuery
