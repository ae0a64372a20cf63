import PipedQuery.Text.Bounds

/-!
Blanks: the characters with the Unicode property White_Space.
-/

set_option autoImplicit false
set_option relaxedAutoImplicit false

namespace PipedQuery.Text

/-- Blank characters. -/
def blanks : List Nat :=
  [
    0x9, 0xE, 0x20, 0x21, 0x85, 0x86, 0xA0, 0xA1, 0x1680, 0x1681, 0x2000, 0x200B, 0x2028,
    0x202A, 0x202F, 0x2030, 0x205F, 0x2060, 0x3000, 0x3001]

def isBlank (c : Char) : Bool :=
  covers blanks c.toNat

/-- The text without the blanks at its ends. -/
def trim (text : String) : String :=
  let left := text.toList.dropWhile isBlank
  String.ofList (left.reverse.dropWhile isBlank).reverse

/-- The text before the first blank and the text after it. -/
def cutAtBlank (text : String) : Option (String × String) :=
  match text.toList.dropWhile (!isBlank ·) with
  | [] => none
  | _ :: rest => some (String.ofList (text.toList.takeWhile (!isBlank ·)), String.ofList rest)

end PipedQuery.Text
