import PipedQuery.Text.Emoji

/-!
Clusters: the characters that a reader takes for one, such as a letter with its marks, a syllable
of Hangul, a consonant with those that a virama joins to it, a flag or an emoji made of others.
On a line that is typed, a backspace erases the cluster before it.
-/

set_option autoImplicit false
set_option relaxedAutoImplicit false

namespace PipedQuery.Text

namespace Cluster

/-- Controls, separators and invisible formats. -/
def controls : List Nat :=
  Table.numerals
    "0 20 7F A0 AD AE 61C 61D 180E 180F 200B 200C 200E 2010 2028 202F 2060 2070 FEFF FF00 FFF0
     FFFC 13430 13440 1BCA0 1BCA4 1D173 1D17B E0000 E0020 E0080 E0100 E01F0 E1000"

/-- Characters that extend a cluster: most nonspacing marks, and others. -/
def extenders : List Nat :=
  Table.numerals
    "300 370 483 48A 591 5BE 5BF 5C0 5C1 5C3 5C4 5C6 5C7 5C8 610 61B 64B 660 670 671 6D6 6DD 6DF
     6E5 6E7 6E9 6EA 6EE 711 712 730 74B 7A6 7B1 7EB 7F4 7FD 7FE 816 81A 81B 824 825 828 829 82E
     859 85C 897 8A0 8CA 8E2 8E3 903 93A 93B 93C 93D 941 949 94D 94E 951 958 962 964 981 982 9BC
     9BD 9BE 9BF 9C1 9C5 9CD 9CE 9D7 9D8 9E2 9E4 9FE 9FF A01 A03 A3C A3D A41 A43 A47 A49 A4B A4E
     A51 A52 A70 A72 A75 A76 A81 A83 ABC ABD AC1 AC6 AC7 AC9 ACD ACE AE2 AE4 AFA B00 B01 B02 B3C
     B3D B3E B40 B41 B45 B4D B4E B55 B58 B62 B64 B82 B83 BBE BBF BC0 BC1 BCD BCE BD7 BD8 C00 C01
     C04 C05 C3C C3D C3E C41 C46 C49 C4A C4E C55 C57 C62 C64 C81 C82 CBC CBD CBF CC1 CC2 CC3 CC6
     CC9 CCA CCE CD5 CD7 CE2 CE4 D00 D02 D3B D3D D3E D3F D41 D45 D4D D4E D57 D58 D62 D64 D81 D82
     DCA DCB DCF DD0 DD2 DD5 DD6 DD7 DDF DE0 E31 E32 E34 E3B E47 E4F EB1 EB2 EB4 EBD EC8 ECF F18
     F1A F35 F36 F37 F38 F39 F3A F71 F7F F80 F85 F86 F88 F8D F98 F99 FBD FC6 FC7 102D 1031 1032
     1038 1039 103B 103D 103F 1058 105A 105E 1061 1071 1075 1082 1083 1085 1087 108D 108E 109D
     109E 135D 1360 1712 1716 1732 1735 1752 1754 1772 1774 17B4 17B6 17B7 17BE 17C6 17C7 17C9
     17D4 17DD 17DE 180B 180E 180F 1810 1885 1887 18A9 18AA 1920 1923 1927 1929 1932 1933 1939
     193C 1A17 1A19 1A1B 1A1C 1A56 1A57 1A58 1A5F 1A60 1A61 1A62 1A63 1A65 1A6D 1A73 1A7D 1A7F
     1A80 1AB0 1ADE 1AE0 1AEC 1B00 1B04 1B34 1B3E 1B42 1B45 1B6B 1B74 1B80 1B82 1BA2 1BA6 1BA8
     1BAE 1BE6 1BE7 1BE8 1BEA 1BED 1BEE 1BEF 1BF4 1C2C 1C34 1C36 1C38 1CD0 1CD3 1CD4 1CE1 1CE2
     1CE9 1CED 1CEE 1CF4 1CF5 1CF8 1CFA 1DC0 1E00 200C 200D 20D0 20F1 2CEF 2CF2 2D7F 2D80 2DE0
     2E00 302A 3030 3099 309B A66F A673 A674 A67E A69E A6A0 A6F0 A6F2 A802 A803 A806 A807 A80B
     A80C A825 A827 A82C A82D A8C4 A8C6 A8E0 A8F2 A8FF A900 A926 A92E A947 A952 A953 A954 A980
     A983 A9B3 A9B4 A9B6 A9BA A9BC A9BE A9C0 A9C1 A9E5 A9E6 AA29 AA2F AA31 AA33 AA35 AA37 AA43
     AA44 AA4C AA4D AA7C AA7D AAB0 AAB1 AAB2 AAB5 AAB7 AAB9 AABE AAC0 AAC1 AAC2 AAEC AAEE AAF6
     AAF7 ABE5 ABE6 ABE8 ABE9 ABED ABEE FB1E FB1F FE00 FE10 FE20 FE30 FF9E FFA0 101FD 101FE 102E0
     102E1 10376 1037B 10A01 10A04 10A05 10A07 10A0C 10A10 10A38 10A3B 10A3F 10A40 10AE5 10AE7
     10D24 10D28 10D69 10D6E 10EAB 10EAD 10EFA 10F00 10F46 10F51 10F82 10F86 11001 11002 11038
     11047 11070 11071 11073 11075 1107F 11082 110B3 110B7 110B9 110BB 110C2 110C3 11100 11103
     11127 1112C 1112D 11135 11173 11174 11180 11182 111B6 111BF 111C0 111C1 111C9 111CD 111CF
     111D0 1122F 11232 11234 11238 1123E 1123F 11241 11242 112DF 112E0 112E3 112EB 11300 11302
     1133B 1133D 1133E 1133F 11340 11341 1134D 1134E 11357 11358 11366 1136D 11370 11375 113B8
     113B9 113BB 113C1 113C2 113C3 113C5 113C6 113C7 113CA 113CE 113D1 113D2 113D3 113E1 113E3
     11438 11440 11442 11445 11446 11447 1145E 1145F 114B0 114B1 114B3 114B9 114BA 114BB 114BD
     114BE 114BF 114C1 114C2 114C4 115AF 115B0 115B2 115B6 115BC 115BE 115BF 115C1 115DC 115DE
     11633 1163B 1163D 1163E 1163F 11641 116AB 116AC 116AD 116AE 116B0 116B8 1171D 1171E 1171F
     11720 11722 11726 11727 1172C 1182F 11838 11839 1183B 11930 11931 1193B 1193F 11943 11944
     119D4 119D8 119DA 119DC 119E0 119E1 11A01 11A0B 11A33 11A39 11A3B 11A3F 11A47 11A48 11A51
     11A57 11A59 11A5C 11A8A 11A97 11A98 11A9A 11B60 11B61 11B62 11B65 11B66 11B67 11C30 11C37
     11C38 11C3E 11C3F 11C40 11C92 11CA8 11CAA 11CB1 11CB2 11CB4 11CB5 11CB7 11D31 11D37 11D3A
     11D3B 11D3C 11D3E 11D3F 11D46 11D47 11D48 11D90 11D92 11D95 11D96 11D97 11D98 11EF3 11EF5
     11F00 11F02 11F36 11F3B 11F40 11F43 11F5A 11F5B 13440 13441 13447 13456 1611E 1612A 1612D
     16130 16AF0 16AF5 16B30 16B37 16F4F 16F50 16F8F 16F93 16FE4 16FE5 16FF0 16FF2 1BC9D 1BC9F
     1CF00 1CF2E 1CF30 1CF47 1D165 1D16A 1D16D 1D173 1D17B 1D183 1D185 1D18C 1D1AA 1D1AE 1D242
     1D245 1DA00 1DA37 1DA3B 1DA6D 1DA75 1DA76 1DA84 1DA85 1DA9B 1DAA0 1DAA1 1DAB0 1E000 1E007
     1E008 1E019 1E01B 1E022 1E023 1E025 1E026 1E02B 1E08F 1E090 1E130 1E137 1E2AE 1E2AF 1E2EC
     1E2F0 1E4EC 1E4F0 1E5EE 1E5F0 1E6E3 1E6E4 1E6E6 1E6E7 1E6EE 1E6F0 1E6F5 1E6F6 1E8D0 1E8D7
     1E944 1E94B 1F3FB 1F400 E0020 E0080 E0100 E01F0"

/-- Spacing marks that belong to the character before them. -/
def attached : List Nat :=
  Table.numerals
    "903 904 93B 93C 93E 941 949 94D 94E 950 982 984 9BF 9C1 9C7 9C9 9CB 9CD A03 A04 A3E A41 A83
     A84 ABE AC1 AC9 ACA ACB ACD B02 B04 B40 B41 B47 B49 B4B B4D BBF BC0 BC1 BC3 BC6 BC9 BCA BCD
     C01 C04 C41 C45 C82 C84 CBE CBF CC1 CC2 CC3 CC5 CF3 CF4 D02 D04 D3F D41 D46 D49 D4A D4D D82
     D84 DD0 DD2 DD8 DDF DF2 DF4 E33 E34 EB3 EB4 F3E F40 F7F F80 1031 1032 103B 103D 1056 1058
     1084 1085 17B6 17B7 17BE 17C6 17C7 17C9 1923 1927 1929 192C 1930 1932 1933 1939 1A19 1A1B
     1A55 1A56 1A57 1A58 1A6D 1A73 1B04 1B05 1B3E 1B42 1B82 1B83 1BA1 1BA2 1BA6 1BA8 1BE7 1BE8
     1BEA 1BED 1BEE 1BEF 1C24 1C2C 1C34 1C36 1CE1 1CE2 1CF7 1CF8 A823 A825 A827 A828 A880 A882
     A8B4 A8C4 A952 A953 A983 A984 A9B4 A9B6 A9BA A9BC A9BE A9C0 AA2F AA31 AA33 AA35 AA4D AA4E
     AAEB AAEC AAEE AAF0 AAF5 AAF6 ABE3 ABE5 ABE6 ABE8 ABE9 ABEB ABEC ABED 11000 11001 11002
     11003 11082 11083 110B0 110B3 110B7 110B9 1112C 1112D 11145 11147 11182 11183 111B3 111B6
     111BF 111C0 111CE 111CF 1122C 1122F 11232 11234 112E0 112E3 11302 11304 1133F 11340 11341
     11345 11347 11349 1134B 1134D 11362 11364 113B9 113BB 113CA 113CB 113CC 113CE 11435 11438
     11440 11442 11445 11446 114B1 114B3 114B9 114BA 114BB 114BD 114BE 114BF 114C1 114C2 115B0
     115B2 115B8 115BC 115BE 115BF 11630 11633 1163B 1163D 1163E 1163F 116AC 116AD 116AE 116B0
     1171E 1171F 11726 11727 1182C 1182F 11838 11839 11931 11936 11937 11939 11940 11941 11942
     11943 119D1 119D4 119DC 119E0 119E4 119E5 11A39 11A3A 11A57 11A59 11A97 11A98 11B61 11B62
     11B65 11B66 11B67 11B68 11C2F 11C30 11C3E 11C3F 11CA9 11CAA 11CB1 11CB2 11CB4 11CB5 11D8A
     11D8F 11D93 11D95 11D96 11D97 11EF5 11EF7 11F03 11F04 11F34 11F36 11F3E 11F40 1612A 1612D
     16F51 16F88"

/-- Signs that belong to the character after them. -/
def prepended : List Nat :=
  Table.numerals
    "600 606 6DD 6DE 70F 710 890 892 8E2 8E3 D4E D4F 110BD 110BE 110CD 110CE 111C2 111C4 113D1
     113D2 1193F 11940 11941 11942 11A84 11A8A 11D46 11D47 11F02 11F03"

/-- Emoji and characters kept for them. -/
def pictographs : List Nat :=
  Table.numerals
    "A9 AA AE AF 203C 203D 2049 204A 2122 2123 2139 213A 2194 219A 21A9 21AB 231A 231C 2328 2329
     23CF 23D0 23E9 23F4 23F8 23FB 24C2 24C3 25AA 25AC 25B6 25B7 25C0 25C1 25FB 25FF 2600 2605
     260E 260F 2611 2612 2614 2616 2618 2619 261D 261E 2620 2621 2622 2624 2626 2627 262A 262B
     262E 2630 2638 263B 2640 2641 2642 2643 2648 2654 265F 2661 2663 2664 2665 2667 2668 2669
     267B 267C 267E 2680 2692 2698 2699 269A 269B 269D 26A0 26A2 26A7 26A8 26AA 26AC 26B0 26B2
     26BD 26BF 26C4 26C6 26C8 26C9 26CE 26D0 26D1 26D2 26D3 26D5 26E9 26EB 26F0 26F6 26F7 26FB
     26FD 26FE 2702 2703 2705 2706 2708 270E 270F 2710 2712 2713 2714 2715 2716 2717 271D 271E
     2721 2722 2728 2729 2733 2735 2744 2745 2747 2748 274C 274D 274E 274F 2753 2756 2757 2758
     2763 2765 2795 2798 27A1 27A2 27B0 27B1 27BF 27C0 2934 2936 2B05 2B08 2B1B 2B1D 2B50 2B51
     2B55 2B56 3030 3031 303D 303E 3297 3298 3299 329A 1F004 1F005 1F02C 1F030 1F094 1F0A0 1F0AF
     1F0B1 1F0C0 1F0C1 1F0CF 1F0D1 1F0F6 1F100 1F170 1F172 1F17E 1F180 1F18E 1F18F 1F191 1F19B
     1F1AE 1F1E6 1F201 1F210 1F21A 1F21B 1F22F 1F230 1F232 1F23B 1F23C 1F240 1F249 1F260 1F266
     1F322 1F324 1F394 1F396 1F398 1F399 1F39C 1F39E 1F3F1 1F3F3 1F3F6 1F3F7 1F3FB 1F400 1F4FE
     1F4FF 1F53E 1F549 1F54F 1F550 1F568 1F56F 1F571 1F573 1F57B 1F587 1F588 1F58A 1F58E 1F590
     1F591 1F595 1F597 1F5A4 1F5A6 1F5A8 1F5A9 1F5B1 1F5B3 1F5BC 1F5BD 1F5C2 1F5C5 1F5D1 1F5D4
     1F5DC 1F5DF 1F5E1 1F5E2 1F5E3 1F5E4 1F5E8 1F5E9 1F5EF 1F5F0 1F5F3 1F5F4 1F5FA 1F650 1F680
     1F6C6 1F6CB 1F6D3 1F6D5 1F6E6 1F6E9 1F6EA 1F6EB 1F6F1 1F6F3 1F700 1F7DA 1F800 1F80C 1F810
     1F848 1F850 1F85A 1F860 1F888 1F890 1F8AE 1F8B0 1F8BC 1F8C0 1F8C2 1F8D0 1F8D9 1F900 1F90C
     1F93B 1F93C 1F946 1F947 1FA00 1FA58 1FA60 1FA6E 1FB00 1FC00 1FFFE"

/-- Consonants that a virama joins to another. -/
def consonants : List Nat :=
  Table.numerals
    "915 93A 958 960 978 980 995 9A9 9AA 9B1 9B2 9B3 9B6 9BA 9DC 9DE 9DF 9E0 9F0 9F2 A95 AA9 AAA
     AB1 AB2 AB4 AB5 ABA AF9 AFA B15 B29 B2A B31 B32 B34 B35 B3A B5C B5E B5F B60 B71 B72 C15 C29
     C2A C3A C58 C5B D15 D3B 1000 102B 103F 1040 1050 1056 105A 105E 1061 1062 1065 1067 106E
     1071 1075 1082 108E 108F 1780 17B4 1A20 1A55 1B0B 1B0D 1B13 1B34 1B45 1B4D 1B83 1BA1 1BAE
     1BB0 1BBB 1BBE A989 A98C A98F A9B3 A9E0 A9E5 A9E7 A9F0 A9FA A9FF AA60 AA70 AA71 AA74 AA7A
     AA7B AA7E AA80 AAE0 AAEB ABC0 ABDB 10A00 10A01 10A10 10A14 10A15 10A18 10A19 10A36 11103
     11127 11144 11145 11147 11148 11380 1138A 1138B 1138C 1138E 1138F 11390 113B6 11900 11907
     11909 1190A 1190C 11914 11915 11917 11918 11930 11A00 11A01 11A0B 11A33 11A50 11A51 11A5C
     11A84 11F04 11F11 11F12 11F34"

/-- The viramas that join consonants. -/
def viramas : List Nat :=
  Table.numerals
    "94D 9CD ACD B4D C4D D4D 1039 17D2 1A60 1B44 1BAB A9C0 AAF6 10A3F 11133 113D0 1193E 11A47
     11A99 11F42"

def isControl (c : Char) : Bool :=
  covers controls c.toNat

def isJoiner (c : Char) : Bool :=
  c.toNat = 0x200D

def isExtender (c : Char) : Bool :=
  covers extenders c.toNat

def isPictograph (c : Char) : Bool :=
  covers pictographs c.toNat

def isVirama (c : Char) : Bool :=
  viramas.contains c.toNat

/-- Comes between consonants without parting them. -/
def isConjunctive (c : Char) : Bool :=
  isJoiner c || (isExtender c && c.toNat ≠ 0x200C)

/-! Hangul: leading consonants, vowels, trailing consonants and syllables -/

def isLeading (n : Nat) : Bool :=
  covers [0x1100, 0x1160, 0xA960, 0xA97D] n

def isVowel (n : Nat) : Bool :=
  covers [0x1160, 0x11A8, 0xD7B0, 0xD7C7, 0x16D63, 0x16D64, 0x16D67, 0x16D6B] n

def isTrailing (n : Nat) : Bool :=
  covers [0x11A8, 0x1200, 0xD7CB, 0xD7FC] n

def isSyllable (n : Nat) : Bool :=
  covers [0xAC00, 0xD7A4] n

def isOpenSyllable (n : Nat) : Bool :=
  isSyllable n && (n - 0xAC00) % 28 = 0

def joinsInSyllable (first second : Nat) : Bool :=
  (isLeading first && (isLeading second || isVowel second || isSyllable second)) ||
    ((isOpenSyllable first || isVowel first) && (isVowel second || isTrailing second)) ||
    ((isSyllable first || isTrailing first) && isTrailing second)

/-! Joining -/

/-- A virama stands between a consonant and the end of the text, which is given in reverse. -/
def endsInConjunct (before : List Char) : Bool :=
  (before.takeWhile isConjunctive).any isVirama &&
    (before.dropWhile isConjunctive).head?.any (covers consonants ·.toNat)

/-- A pictograph and what extends it stand before a joiner at the end. -/
def endsInJoinedPictograph : List Char → Bool
  | joiner :: before => isJoiner joiner && (before.dropWhile isExtender).head?.any isPictograph
  | [] => false

/-- A character belongs to the cluster before it, which is given in reverse. -/
def belongs (cluster : List Char) (c : Char) : Bool :=
  match cluster with
  | [] => true
  | last :: _ =>
    if last = '\r' && c = '\n' then true
    else if isControl last || isControl c then false
    else
      joinsInSyllable last.toNat c.toNat || isExtender c || isJoiner c ||
        covers attached c.toNat || covers prepended last.toNat ||
        (covers consonants c.toNat && endsInConjunct cluster) ||
        (isPictograph c && endsInJoinedPictograph cluster) ||
        (isFlagLetter c && (cluster.takeWhile isFlagLetter).length % 2 = 1)

/-- The clusters of the rest of a text, after the characters of one that has begun, in reverse. -/
def allAfter (begun : List Char) : List Char → List (List Char)
  | [] => if begun.isEmpty then [] else [begun.reverse]
  | c :: rest =>
    if belongs begun c then allAfter (c :: begun) rest
    else begun.reverse :: allAfter [c] rest

/-- The clusters of a text. -/
def all (text : List Char) : List (List Char) :=
  allAfter [] text

end Cluster

/-! Typed lines -/

def byteSize : List Char → Nat
  | [] => 0
  | c :: rest => c.utf8Size + byteSize rest

/-- Without its first characters that make up a number of bytes. -/
def dropBytes (count : Nat) : List Char → List Char
  | [] => []
  | c :: rest => if count = 0 then c :: rest else dropBytes (count - c.utf8Size) rest

/-- What a line shows: its characters in reverse, and the sizes of its clusters, the last one
first. A size is kept in one byte, so that of a cluster of 256 bytes or more only the end can be
erased. -/
structure TypedLine where
  shown : List Char := []
  sizes : List Nat := []

namespace TypedLine

def backspace : List Char :=
  [Char.ofNat 8]

def add (line : TypedLine) (cluster : List Char) : TypedLine :=
  if cluster = backspace then
    match line.sizes with
    | [] => line
    | size :: sizes => ⟨dropBytes size line.shown, sizes⟩
  else ⟨cluster.reverse ++ line.shown, byteSize cluster % 256 :: line.sizes⟩

end TypedLine

/-- A line as it is typed, with its backspaces carried out. -/
def typed (line : String) : String :=
  if line.toList.contains (Char.ofNat 8) then
    String.ofList ((Cluster.all line.toList).foldl TypedLine.add {}).shown.reverse
  else line

end PipedQuery.Text
