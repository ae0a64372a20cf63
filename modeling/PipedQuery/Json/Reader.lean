import PipedQuery.Json

/-!
Reading JSON text. The grammar is strict: one value with blanks around it and nothing else.
A piece that is well formed but has no value becomes `unreadable`, so that a reader who skips
it still succeeds.
-/

set_option autoImplicit false
set_option relaxedAutoImplicit false

namespace PipedQuery.Json

/-- A numeral as written. -/
structure Numeral where
  negative : Bool
  whole : List Nat
  fraction : List Nat
  exponent : Option Int

/-- The largest whole number that is kept exactly. -/
def largestWord : Nat := UInt64.size - 1

/-- Takes up digits as long as the value fits in 64 bits, and counts the digits left over. -/
def takeDigits (value : Nat) : List Nat → Nat × Nat
  | [] => (value, 0)
  | digit :: rest =>
    if largestWord < value * 10 + digit then (value, rest.length + 1)
    else takeDigits (value * 10 + digit) rest

namespace Numeral

def rounded (negative : Bool) (significand : Nat) (exponent : Int) : Json :=
  match Magnitude.ofDecimal significand exponent with
  | some magnitude => double ⟨negative, magnitude⟩
  | none => unreadable

/-- A numeral without point and exponent is a whole number if 64 bits hold it; every other
one, and the negative zero, is a double. -/
def value (n : Numeral) : Json :=
  let (whole, wholeLeft) := takeDigits 0 n.whole
  if n.fraction.isEmpty ∧ n.exponent.isNone ∧ wholeLeft = 0 then
    if !n.negative then integer whole
    else if whole = 0 ∨ 0x8000000000000000 < whole then rounded true whole 0
    else integer (-whole)
  else
    let (significand, fractionLeft) := takeDigits whole n.fraction
    let places : Int := (n.fraction.length - fractionLeft : Nat)
    rounded n.negative significand ((wholeLeft : Int) - places + n.exponent.getD 0)

end Numeral

def isBlank (c : Char) : Bool :=
  c = ' ' || c = '\n' || c = '\t' || c = '\r'

def skipBlanks (chars : List Char) : List Char :=
  chars.dropWhile isBlank

def digit? (c : Char) : Option Nat :=
  if '0' ≤ c ∧ c ≤ '9' then some (c.toNat - 48) else none

def hex? (c : Char) : Option Nat :=
  if '0' ≤ c ∧ c ≤ '9' then some (c.toNat - 48)
  else if 'a' ≤ c ∧ c ≤ 'f' then some (c.toNat - 87)
  else if 'A' ≤ c ∧ c ≤ 'F' then some (c.toNat - 55)
  else none

def hex4? (a b c d : Char) : Option Nat := do
  return (((← hex? a) * 16 + (← hex? b)) * 16 + (← hex? c)) * 16 + (← hex? d)

def simpleEscape? (c : Char) : Option Char :=
  if c = '"' ∨ c = '\\' ∨ c = '/' then some c
  else if c = 'b' then some (Char.ofNat 8)
  else if c = 'f' then some (Char.ofNat 12)
  else if c = 'n' then some '\n'
  else if c = 'r' then some '\r'
  else if c = 't' then some '\t'
  else none

def isSurrogate (unit : Nat) : Bool :=
  0xD800 ≤ unit && unit < 0xE000

def paired (high low : Nat) : Char :=
  Char.ofNat (0x10000 + (high - 0xD800) * 0x400 + (low - 0xDC00))

/-- The pieces of a string up to its closing quote; a piece without a value is a half of a
surrogate pair. -/
def pieces : List Char → Option (List (Option Char) × List Char)
  | [] => none
  | '"' :: rest => some ([], rest)
  | '\\' :: 'u' :: a :: b :: c :: d :: '\\' :: 'u' :: e :: f :: g :: h :: rest =>
    match hex4? a b c d, hex4? e f g h with
    | some high, some low =>
      if 0xD800 ≤ high ∧ high < 0xDC00 then
        if 0xDC00 ≤ low ∧ low < 0xE000 then
          (pieces rest).map fun (more, left) ↦ (some (paired high low) :: more, left)
        else (pieces ('\\' :: 'u' :: e :: f :: g :: h :: rest)).map fun (more, left) ↦
          (none :: more, left)
      else (pieces ('\\' :: 'u' :: e :: f :: g :: h :: rest)).map fun (more, left) ↦
        ((if isSurrogate high then none else some (Char.ofNat high)) :: more, left)
    | _, _ => none
  | '\\' :: 'u' :: a :: b :: c :: d :: rest =>
    match hex4? a b c d with
    | some unit => (pieces rest).map fun (more, left) ↦
      ((if isSurrogate unit then none else some (Char.ofNat unit)) :: more, left)
    | none => none
  | '\\' :: c :: rest =>
    match simpleEscape? c with
    | some plain => (pieces rest).map fun (more, left) ↦ (some plain :: more, left)
    | none => none
  | c :: rest =>
    if c.toNat < 32 ∨ c = '\\' then none
    else (pieces rest).map fun (more, left) ↦ (some c :: more, left)

/-- A string after its opening quote. -/
def text (chars : List Char) : Option (Option String × List Char) :=
  (pieces chars).map fun (parts, rest) ↦ ((parts.mapM id).map String.ofList, rest)

def digits (chars : List Char) : List Nat × List Char :=
  ((chars.takeWhile (digit? · |>.isSome)).filterMap digit?,
    chars.dropWhile (digit? · |>.isSome))

/-- A whole part is a zero alone or digits that do not begin with one. -/
def wholePart (chars : List Char) : Option (List Nat × List Char) :=
  match digits chars with
  | ([], _) => none
  | (0 :: _ :: _, _) => none
  | found => some found

def fractionPart : List Char → Option (List Nat × List Char)
  | '.' :: rest =>
    match digits rest with
    | ([], _) => none
    | found => some found
  | chars => some ([], chars)

def exponentPart : List Char → Option (Option Int × List Char)
  | c :: rest =>
    if c = 'e' ∨ c = 'E' then
      let (negative, rest) := match rest with
        | '+' :: after => (false, after)
        | '-' :: after => (true, after)
        | _ => (false, rest)
      match digits rest with
      | ([], _) => none
      | (found, rest) =>
        let size : Nat := found.foldl (fun value digit ↦ value * 10 + digit) 0
        some (some (if negative then -(size : Int) else size), rest)
    else some (none, c :: rest)
  | [] => some (none, [])

def numeral (negative : Bool) (chars : List Char) : Option (Numeral × List Char) := do
  let (whole, chars) ← wholePart chars
  let (fraction, chars) ← fractionPart chars
  let (exponent, chars) ← exponentPart chars
  return (⟨negative, whole, fraction, exponent⟩, chars)

def word (letters : String) (value : Json) (chars : List Char) : Option (Json × List Char) :=
  let letters := letters.toList
  if letters.isPrefixOf chars then some (value, chars.drop letters.length) else none

/-- An object with an unreadable name denotes no value as a whole. -/
def ofMembers (members : List (Option String × Json)) : Json :=
  match members.mapM fun (name, value) ↦ name.map (·, value) with
  | some named => object named
  | none => unreadable

mutual

/-- One value. The fuel bounds the number of values, items and members read. -/
def value : Nat → List Char → Option (Json × List Char)
  | 0, _ => none
  | fuel + 1, chars =>
    match skipBlanks chars with
    | [] => none
    | c :: rest =>
      if c = '"' then (text rest).map fun (found, left) ↦ (found.elim unreadable string, left)
      else if c = '[' then
        match skipBlanks rest with
        | ']' :: left => some (array [], left)
        | inner => (items fuel inner).map fun (found, left) ↦ (array found, left)
      else if c = '\x7b' then
        match skipBlanks rest with
        | '\x7d' :: left => some (object [], left)
        | inner => (members fuel inner).map fun (found, left) ↦ (ofMembers found, left)
      else if c = 't' then word "true" (bool true) (c :: rest)
      else if c = 'f' then word "false" (bool false) (c :: rest)
      else if c = 'n' then word "null" null (c :: rest)
      else if c = '-' then (numeral true rest).map fun (found, left) ↦ (found.value, left)
      else (numeral false (c :: rest)).map fun (found, left) ↦ (found.value, left)

def items : Nat → List Char → Option (List Json × List Char)
  | 0, _ => none
  | fuel + 1, chars =>
    match value fuel chars with
    | none => none
    | some (item, rest) =>
      match skipBlanks rest with
      | ']' :: left => some ([item], left)
      | ',' :: more => (items fuel more).map fun (found, left) ↦ (item :: found, left)
      | _ => none

def members : Nat → List Char → Option (List (Option String × Json) × List Char)
  | 0, _ => none
  | fuel + 1, chars =>
    match skipBlanks chars with
    | '"' :: inner =>
      match text inner with
      | none => none
      | some (name, rest) =>
        match skipBlanks rest with
        | ':' :: rest =>
          match value fuel rest with
          | none => none
          | some (item, rest) =>
            match skipBlanks rest with
            | '\x7d' :: left => some ([(name, item)], left)
            | ',' :: more =>
              (members fuel more).map fun (found, left) ↦ ((name, item) :: found, left)
            | _ => none
        | _ => none
    | _ => none

end

/-- The one value that a text holds, before the limit on nesting. -/
def parse (source : String) : Option Json :=
  let chars := source.toList
  match value (2 * chars.length + 2) chars with
  | some (found, rest) => if (skipBlanks rest).isEmpty then some found else none
  | none => none

/-- Containers may nest 127 deep; deeper ones may only be skipped. -/
def deepest : Nat := 127

/-- A document as a backend sends it. -/
def document (source : String) : Option Json :=
  (parse source).map (limit deepest)

end PipedQuery.Json
