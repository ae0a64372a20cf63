import PipedQuery.Text.Composition
import PipedQuery.Text.Joining
import PipedQuery.Text.Punycode
import PipedQuery.Url.Domain.Direction
import PipedQuery.Url.Domain.Repertoire

/-!
Domain names in ASCII. Every character is replaced by what it stands for, and the name is
composed. A label beyond ASCII is then written in ASCII after `xn--`; a label that comes in that
form must be one that another label is written as. `ascii` has no result where a label is not
allowed.
-/

set_option autoImplicit false
set_option relaxedAutoImplicit false

namespace PipedQuery.Url.Domain

/-- Not allowed in a domain name, beside the controls. -/
def isForbidden (c : Char) : Bool :=
  c.toNat ≤ 32 || c.toNat = 127 ||
    ['#', '%', '/', ':', '<', '>', '?', '@', '[', '\\', ']', '^', '|'].contains c

/-- What a label beyond ASCII begins with when it is written in ASCII. -/
def sign : List Char :=
  ['x', 'n', '-', '-']

/-- The length of the longest label beyond ASCII. -/
def longestPlain : Nat :=
  1000

/-- The length of the longest text after the sign that is read. -/
def longestEncoded : Nat :=
  2000

/-! Joiners -/

def isNonJoiner (c : Char) : Bool :=
  c.toNat = 0x200C

def isJoiner (c : Char) : Bool :=
  c.toNat = 0x200D

/-- A joiner stands after a virama. A non-joiner may also part two letters that would join. -/
def joinersFit (before : List Char) : List Char → Bool
  | [] => true
  | c :: rest =>
    (!(isJoiner c || isNonJoiner c) || before.head?.any (Text.combiningClass · = 9) ||
      (isNonJoiner c && (before.dropWhile Text.isTransparent).head?.any Text.joinsNext &&
        (rest.dropWhile Text.isTransparent).head?.any Text.joinsPrevious)) &&
    joinersFit (c :: before) rest

/-! Labels -/

def isAscii (label : List Char) : Bool :=
  label.all (·.toNat < 128)

/-- The label that is written as `tail` after the sign. -/
def plainForm (tail : List Char) : Option (List Char) :=
  if tail.getLast?.all (· = '-') || longestEncoded < tail.length then none
  else (Text.Punycode.decode tail).filter fun label ↦
    label.all standsForItself && Text.Composition.compose label = label && !sign.isPrefixOf label

/-- The characters that a label means. -/
def plainLabel (label : List Char) : Option (List Char) :=
  if sign.isPrefixOf label then
    if isAscii label then plainForm (label.drop sign.length) else none
  else some label

def isAllowed (label : List Char) : Bool :=
  (isAscii label || label.length ≤ longestPlain) && !label.any isForbidden &&
    !label.head?.any Text.isMark && joinersFit [] label

def asciiLabel (label : List Char) : List Char :=
  if isAscii label then label else sign ++ Text.Punycode.encode label

/-- A domain name in ASCII. -/
def ascii (name : List Char) : Option (List Char) := do
  let meanings ← name.mapM meaning
  let labels := Text.stretches '.' (Text.Composition.compose meanings.flatten)
  let plain ← labels.mapM plainLabel
  let directions := plain.map (·.map Direction.ofChar)
  if plain.all isAllowed &&
      (!directions.flatten.any Direction.isRightToLeft || directions.all Direction.agree) then
    some (List.intercalate ['.'] (labels.map asciiLabel))
  else none

end PipedQuery.Url.Domain
