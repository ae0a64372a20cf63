import PipedQuery.Text.Mark

/-!
The direction of writing in domain names. A label is written either way as a whole: what is
written the other way may not occur in it, and it ends in a letter or a number.
-/

set_option autoImplicit false
set_option relaxedAutoImplicit false

namespace PipedQuery.Url.Domain

inductive Direction where
  | leftToRight
  | rightToLeft
  | arabicNumber
  | europeanNumber
  /-- A mark, which follows its letter. -/
  | mark
  | neutral
deriving DecidableEq

namespace Direction

/-- Characters of names that are written from right to left. -/
def rightToLeftLetters : List Nat :=
  Text.Table.numerals
    "5BE 5BF 5C0 5C1 5C3 5C4 5C6 5C7 5D0 606 608 609 60B 60C 60D 60E 61B 64B 66D 670 671 6D6 6E5
     6E7 6EE 6F0 6FA 711 712 730 74D 7A6 7B1 7EB 7F4 7F6 7FA 7FD 7FE 816 81A 81B 824 825 828 829
     830 859 85E 897 8A0 8CA FBB2 FBC3 FE73 10000 10800 1091F 10920 10A01 10A10 10A38 10A40 10AE5
     10AEB 10B39 10B40 10D24 10D4A 10D69 10D6F 10E60 10E80 10EAB 10EAD 10ECB 10ED9 10EF0 10F00
     10F46 10F51 10F82 10F86 11000 1E800 1E8D0 1E922 1E944 1E94B 1EEF0"

/-- Characters of names that have no direction, ASCII included. -/
def undirected : List Nat :=
  Text.Table.numerals
    "21 30 3B 41 5F 61 7B DF F7 F8 2B9 2BB 2C2 2D0 2D2 2EE 2EF 300 375 377 3F6 3F8 58A 591 606
     608 609 60B 60C 60D 60E 610 66A 66B 6DE 6DF 6E9 6EA 7F6 7FA 9F2 9F4 9FB 9FC AF1 AF9 BF3 C00
     C78 C7F E3F E40 F3A F3E 1390 13A0 1400 1401 169B 16A0 17DB 17DC 17F0 1810 1940 1946 19DE
     1A00 200C 208F 20A0 20D0 2104 214E 218A 2336 237B 2395 2396 26AC 26AD 2800 2900 2C30 2CE5
     2CEC 2CF9 2D00 2E00 3005 3008 3021 3030 3031 3037 303B 303D 3041 30A0 30A1 30FB 30FC 31C0
     31F0 4DC0 4E00 A490 A4D0 A60D A610 A673 A674 A67E A681 A700 A723 A788 A789 A828 A82C A838
     A840 A874 A880 AB6A ABC0 FBC3 FE20 FE45 FE73 10101 10102 10140 1018D 10190 101D0 1091F 10920
     10B39 10B40 10D6E 10D6F 10ED0 10ED9 11052 11066 11660 11680 11FD5 11FFF 16FE2 16FE3 1CC00
     1CF00 1D1E9 1D242 1D245 1D250 1D300 1D360 1DB00 1DF00 1E2FF 1E4D0 1EEF0 1F150 1F16D 1F170
     1F1AD 1F1E6 1F260 20000"

def arabicNumbers : List Nat :=
  Text.Table.numerals
    "660 66A 66B 66D 10D30 10D4A 10E60 10E80"

def europeanNumbers : List Nat :=
  Text.Table.numerals
    "30 3B 6F0 6FA 102E1 10300"

/-- Nonspacing marks that count as letters written from left to right. -/
def leftMarks : List Nat :=
  [0xCBF, 0xCC0, 0xCC6, 0xCC7, 0x11A07, 0x11A09, 0x11C3F, 0x11C40]

def ofChar (c : Char) : Direction :=
  let n := c.toNat
  if Text.covers rightToLeftLetters n then rightToLeft
  else if Text.covers arabicNumbers n then arabicNumber
  else if Text.covers europeanNumbers n then europeanNumber
  else if Text.covers undirected n then neutral
  else if Text.isNonspacing c && !Text.covers leftMarks n then mark
  else leftToRight

/-- A name with such a character is one in which directions count. -/
def isRightToLeft (direction : Direction) : Bool :=
  direction = rightToLeft || direction = arabicNumber

/-- The directions of a label agree. -/
def agree (label : List Direction) : Bool :=
  let last := (label.reverse.dropWhile (· = mark)).head?
  match label.head? with
  | none => true
  | some rightToLeft =>
    !label.contains leftToRight && !(label.contains arabicNumber && label.contains europeanNumber) &&
      last.any [rightToLeft, arabicNumber, europeanNumber].contains
  | some leftToRight => !label.any isRightToLeft && last.any [leftToRight, europeanNumber].contains
  | some _ => false

end Direction
end PipedQuery.Url.Domain
