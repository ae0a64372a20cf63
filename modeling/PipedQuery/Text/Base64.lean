/-!
Bytes as text in base 64, three at a time, with a padded end.
-/

set_option autoImplicit false
set_option relaxedAutoImplicit false

namespace PipedQuery.Text.Base64

def digit (value : Nat) : Char :=
  if value < 26 then Char.ofNat (65 + value)
  else if value < 52 then Char.ofNat (71 + value)
  else if value < 62 then Char.ofNat (value - 4)
  else if value = 62 then '+' else '/'

/-- The four digits of three bytes. -/
def group (a b c : Nat) : List Char :=
  [digit (a / 4), digit (a % 4 * 16 + b / 16), digit (b % 16 * 4 + c / 64), digit (c % 64)]

def encode : List UInt8 → List Char
  | [] => []
  | [a] => (group a.toNat 0 0).take 2 ++ ['=', '=']
  | [a, b] => (group a.toNat b.toNat 0).take 3 ++ ['=']
  | a :: b :: c :: rest => group a.toNat b.toNat c.toNat ++ encode rest

/-- The text in base 64 of the UTF-8 form of a text. -/
def ofText (text : String) : String :=
  String.ofList (encode (text.toList.flatMap String.utf8EncodeChar))

end PipedQuery.Text.Base64
