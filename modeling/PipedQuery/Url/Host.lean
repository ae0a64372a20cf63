import PipedQuery.Url.Domain
import PipedQuery.Url.Percent

/-!
Hosts of URLs: domain names in lower-case ASCII and addresses of both versions. A name whose
last label is a number is an address of version 4, in any of its spellings.
-/

set_option autoImplicit false
set_option relaxedAutoImplicit false

namespace PipedQuery.Url

/-- Why a text is no URL. -/
inductive Defect where
  | relative
  | emptyHost
  | badDomain
  | badDomainCharacter
  | badPort
  | badAddress4
  | badAddress6
deriving DecidableEq

inductive Host where
  | domain (name : String)
  | address4 (value : Nat)
  | address6 (pieces : List Nat)
deriving DecidableEq

namespace Defect

def message : Defect → String
  | relative => "relative URL without a base"
  | emptyHost => "empty host"
  | badDomain => "invalid international domain name"
  | badDomainCharacter => "invalid domain character"
  | badPort => "invalid port number"
  | badAddress4 => "invalid IPv4 address"
  | badAddress6 => "invalid IPv6 address"

end Defect

namespace Host

/-! Addresses of version 4 -/

/-- The value of digits in a base; digits that do not belong to it have none. -/
def numeral (base : Nat) (digits : List Char) : Option Nat :=
  digits.foldl (fun value c ↦
    match value, Percent.hexValue c with
    | some value, some digit => if digit < base then some (value * base + digit) else none
    | _, _ => none) (some 0)

/-- A part of an address: decimal, or octal after a zero, or hexadecimal after `0x`. -/
def part (text : List Char) : Option Nat :=
  match text with
  | [] => none
  | '0' :: 'x' :: rest => numeral 16 rest
  | '0' :: 'X' :: rest => numeral 16 rest
  | '0' :: c :: rest => numeral 8 (c :: rest)
  | digits => numeral 10 digits

def labels (name : List Char) : List (List Char) :=
  Text.stretches '.' name

/-- The labels without an empty one after a last dot. -/
def properLabels (name : List Char) : List (List Char) :=
  match (labels name).reverse with
  | [] :: second :: rest => (second :: rest).reverse
  | all => all.reverse

def endsInNumber (name : List Char) : Bool :=
  match (properLabels name).getLast? with
  | some last => (!last.isEmpty && last.all Char.isDigit) || (part last).isSome
  | none => false

/-- Every part but the last is one byte, and the last fills the bytes that are left. -/
def assemble : Nat → List Nat → Option Nat
  | _, [] => none
  | room, [last] => if last < Nat.pow 256 room then some last else none
  | room, byte :: rest =>
    if byte < 256 then (assemble (room - 1) rest).map (byte * Nat.pow 256 (room - 1) + ·) else none

def address4? (name : List Char) : Option Nat :=
  let parts := properLabels name
  if 4 < parts.length then none
  else (parts.mapM part).bind (assemble 4)

def dotted (value : Nat) : String :=
  String.intercalate "."
    ([value >>> 24, (value >>> 16) % 256, (value >>> 8) % 256, value % 256].map toString)

/-! Addresses of version 6 -/

def piece (text : List Char) : Option Nat :=
  if text.isEmpty ∨ 4 < text.length then none else numeral 16 text

/-- A decimal byte without a leading zero. -/
def plainByte (text : List Char) : Option Nat :=
  match text with
  | [] => none
  | '0' :: _ :: _ => none
  | digits => (numeral 10 digits).filter (· < 256)

def plainAddress4 (text : List Char) : Option (List Nat) :=
  match (labels text).mapM plainByte with
  | some [a, b, c, d] => some [a * 256 + b, c * 256 + d]
  | _ => none

/-- The pieces of one side of an address, the last of which may be of version 4. -/
def pieces (text : List Char) : Option (List Nat) :=
  if text.isEmpty then some []
  else
    let parts := Text.stretches ':' text
    match parts.reverse with
    | last :: before =>
      if last.contains '.' then do
        let before ← before.reverse.mapM piece
        let tail ← plainAddress4 last
        return before ++ tail
      else parts.mapM piece
    | [] => none

/-- The text on both sides of the first two colons in a row. -/
def cutGap : List Char → Option (List Char × List Char)
  | ':' :: ':' :: rest => some ([], rest)
  | c :: rest => (cutGap rest).map fun (before, after) ↦ (c :: before, after)
  | [] => none

def address6? (text : List Char) : Option (List Nat) :=
  match cutGap text with
  | some (before, after) => do
    let left ← if before.contains '.' then none else pieces before
    let right ← pieces after
    if left.length + right.length < 8 then
      some (left ++ List.replicate (8 - left.length - right.length) 0 ++ right)
    else none
  | none => (pieces text).filter (·.length = 8)

/-- The length of the run of zeros at the front. -/
def zeroRun (pieces : List Nat) : Nat :=
  (pieces.takeWhile (· = 0)).length

/-- The place and length of the first of the longest runs of at least two zeros. -/
def longestGap (pieces : List Nat) : Option (Nat × Nat) :=
  (List.range pieces.length).foldl (fun best place ↦
    let length := zeroRun (pieces.drop place)
    if length < 2 then best
    else match best with
      | some (_, longest) => if longest < length then some (place, length) else best
      | none => some (place, length)) none

def hexText (value : Nat) : String :=
  String.ofList (Nat.toDigits 16 value)

def bracketed (pieces : List Nat) : String :=
  let joined := fun (part : List Nat) ↦ String.intercalate ":" (part.map hexText)
  match longestGap pieces with
  | some (place, length) =>
    "[" ++ joined (pieces.take place) ++ "::" ++ joined (pieces.drop (place + length)) ++ "]"
  | none => "[" ++ joined pieces ++ "]"

/-! Domain names -/

def ofName (text : List Char) : Except Defect Host :=
  match String.fromUTF8? ⟨(Percent.decode text).toArray⟩ with
  | none => .error .badDomain
  | some decoded =>
    match Domain.ascii decoded.toList with
    | none => .error .badDomain
    | some [] => .error .emptyHost
    | some name =>
      if endsInNumber name then
        match address4? name with
        | some value => .ok (address4 value)
        | none => .error .badAddress4
      else .ok (domain (String.ofList name))

/-- An address of version 6 in its brackets. -/
def ofBrackets (text : List Char) : Except Defect Host :=
  match text.reverse with
  | ']' :: inner =>
    match address6? inner.reverse with
    | some pieces => .ok (address6 pieces)
    | none => .error .badAddress6
  | _ => .error .badAddress6

/-- The host of a URL whose scheme has rules of its own for hosts. -/
def parse : List Char → Except Defect Host
  | '[' :: rest => ofBrackets rest
  | text => ofName text

/-- The host of any other URL, which is taken as it stands. -/
def parsePlain : List Char → Except Defect Host
  | '[' :: rest => ofBrackets rest
  | text =>
    if text.any fun c ↦ c.toNat = 0 ||
        [' ', '#', '/', ':', '<', '>', '?', '@', '[', '\\', ']', '^', '|'].contains c then
      .error .badDomainCharacter
    else .ok (domain (String.ofList (Percent.encode (fun _ ↦ false) text)))

def text : Host → String
  | domain name => name
  | address4 value => dotted value
  | address6 pieces => bracketed pieces

end Host
end PipedQuery.Url
