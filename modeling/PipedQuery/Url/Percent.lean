/-!
Percent encoding. A byte is written as itself when it is an ASCII character that needs no
escape, and as a percent sign with two hexadecimal digits otherwise. Decoding undoes this for
every set of escaped characters that holds the percent sign.
-/

set_option autoImplicit false
set_option relaxedAutoImplicit false

namespace PipedQuery.Url.Percent

def hexDigit (value : Nat) : Char :=
  if value < 10 then Char.ofNat (48 + value) else Char.ofNat (55 + value)

def hexValue (c : Char) : Option Nat :=
  if '0' ≤ c ∧ c ≤ '9' then some (c.toNat - 48)
  else if 'a' ≤ c ∧ c ≤ 'f' then some (c.toNat - 87)
  else if 'A' ≤ c ∧ c ≤ 'F' then some (c.toNat - 55)
  else none

def escape (byte : UInt8) : List Char :=
  ['%', hexDigit (byte.toNat / 16), hexDigit (byte.toNat % 16)]

/-- A character, escaped if it is not printable ASCII or belongs to `special`. -/
def encodeChar (special : Char → Bool) (c : Char) : List Char :=
  if 32 ≤ c.toNat ∧ c.toNat < 127 ∧ !special c then [c]
  else (String.utf8EncodeChar c).flatMap escape

def encode (special : Char → Bool) (text : List Char) : List Char :=
  text.flatMap (encodeChar special)

/-- The bytes of a text in which a percent sign and two hexadecimal digits stand for one. -/
def decode : List Char → List UInt8
  | [] => []
  | '%' :: a :: b :: rest =>
    match hexValue a, hexValue b with
    | some high, some low => UInt8.ofNat (high * 16 + low) :: decode rest
    | _, _ => String.utf8EncodeChar '%' ++ decode (a :: b :: rest)
  | c :: rest => String.utf8EncodeChar c ++ decode rest

/-- Escaped in fragments, beside the controls. -/
def inFragment (c : Char) : Bool :=
  c = ' ' || c = '"' || c = '<' || c = '>' || c.toNat = 0x60

/-- Escaped in paths. -/
def inPath (c : Char) : Bool :=
  inFragment c || c = '#' || c = '?' || c = '\x7b' || c = '\x7d'

/-- Escaped in a segment, so that it stays one. -/
def inSegment (c : Char) : Bool :=
  inPath c || c = '/' || c = '%' || c = '\\'

/-- Escaped in a segment where the backslash does not divide segments. -/
def inPlainSegment (c : Char) : Bool :=
  inPath c || c = '/' || c = '%'

def inUserInfo (c : Char) : Bool :=
  inPath c || ['/', ':', ';', '=', '@', '[', '\\', ']', '^', '|'].contains c

def inQuery (c : Char) : Bool :=
  c = ' ' || c = '"' || c = '#' || c = '<' || c = '>'

def inSpecialQuery (c : Char) : Bool :=
  inQuery c || c.toNat = 0x27

end PipedQuery.Url.Percent
