import PipedQuery.Text.Mark

/-!
How letters of cursive scripts join their neighbours. A letter can join on its right, on its
left or on both sides; a transparent character does not come between two that join.
-/

set_option autoImplicit false
set_option relaxedAutoImplicit false

namespace PipedQuery.Text

/-- Letters that join on both sides. -/
def dualJoining : List Nat :=
  Table.numerals
    "620 621 626 627 628 629 62A 62F 633 640 641 648 649 64B 66E 670 678 688 69A 6C0 6C1 6C3 6CC
     6CD 6CE 6CF 6D0 6D2 6FA 6FD 6FF 700 712 715 71A 71E 71F 728 729 72A 72B 72C 72D 72F 74E 759
     75C 76B 76D 771 772 773 775 778 77A 780 7CA 7EB 841 846 848 849 84A 854 855 856 860 861 862
     866 868 869 886 887 889 88E 88F 890 8A0 8AA 8AF 8B1 8B3 8B9 8BA 8C9 1807 1808 1820 1879 1887
     18A9 18AA 18AB A840 A872 10AC0 10AC5 10AD3 10AD7 10AD8 10ADD 10ADE 10AE1 10AEB 10AEF 10B80
     10B81 10B82 10B83 10B86 10B89 10B8A 10B8C 10B8D 10B8E 10B90 10B91 10BAD 10BAF 10D01 10D22
     10D23 10D24 10EC3 10EC5 10EC6 10ECA 10F30 10F33 10F34 10F45 10F51 10F54 10F70 10F74 10F76
     10F82 10FB0 10FB1 10FB2 10FB4 10FB8 10FB9 10FBB 10FBD 10FBE 10FC0 10FC1 10FC2 10FC4 10FC5
     10FCA 10FCB 1E900 1E944"

/-- Letters that join the one after them only. -/
def forwardJoining : List Nat :=
  Table.numerals
    "A872 A873 10ACD 10ACE 10AD7 10AD8 10D00 10D01 10ED9 10EDA 10FCB 10FCC"

/-- Letters that join the one before them only. -/
def backwardJoining : List Nat :=
  Table.numerals
    "622 626 627 628 629 62A 62F 633 648 649 671 674 675 678 688 69A 6C0 6C1 6C3 6CC 6CD 6CE 6CF
     6D0 6D2 6D4 6D5 6D6 6EE 6F0 710 711 715 71A 71E 71F 728 729 72A 72B 72C 72D 72F 730 74D 74E
     759 75C 76B 76D 771 772 773 775 778 77A 840 841 846 848 849 84A 854 855 856 859 867 868 869
     86B 870 883 88E 88F 8AA 8AD 8AE 8AF 8B1 8B3 8B9 8BA 10AC5 10AC6 10AC7 10AC8 10AC9 10ACB
     10ACE 10AD3 10ADD 10ADE 10AE1 10AE2 10AE4 10AE5 10AEF 10AF0 10B81 10B82 10B83 10B86 10B89
     10B8A 10B8C 10B8D 10B8E 10B90 10B91 10B92 10BA9 10BAD 10D22 10D23 10EC2 10EC3 10F33 10F34
     10F54 10F55 10F74 10F76 10FB4 10FB7 10FB9 10FBB 10FBD 10FBE 10FC2 10FC4 10FC9 10FCA"

/-- Transparent characters other than nonspacing marks. -/
def transparentFormats : List Nat :=
  Table.numerals
    "AD AE 61C 61D 70F 710 200B 200C 200E 2010 202A 202F 2060 2065 206A 2070 FEFF FF00 FFF9 FFFC
     13430 13441 1BCA0 1BCA4 1D173 1D183 1E94B 1E94C E0001 E0002 E0020 E0080"

def isTransparent (c : Char) : Bool :=
  isNonspacing c || covers transparentFormats c.toNat

def joinsNext (c : Char) : Bool :=
  covers dualJoining c.toNat || covers forwardJoining c.toNat

def joinsPrevious (c : Char) : Bool :=
  covers dualJoining c.toNat || covers backwardJoining c.toNat

end PipedQuery.Text
