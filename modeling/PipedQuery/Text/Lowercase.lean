import PipedQuery.Text.Bounds
import PipedQuery.Text.Table

/-!
Texts in lower case. Every character is mapped by itself, with one exception: a capital sigma at
the end of a word, after a letter with case and before none, becomes the final small sigma.
-/

set_option autoImplicit false
set_option relaxedAutoImplicit false

namespace PipedQuery.Text

/-- The capital letters beyond ASCII, but for the dotted capital I, with their small ones. -/
def smallLetters : List Table.Run :=
  Table.runs
    "C0 D6 1 E0, D8 DE 1 F8, 100 12E 2 101, 132 136 2 133, 139 147 2 13A, 14A 176 2 14B,
     178 178 1 FF, 179 17D 2 17A, 181 181 1 253, 182 184 2 183, 186 186 1 254, 187 187 1 188,
     189 18A 1 256, 18B 18B 1 18C, 18E 18E 1 1DD, 18F 18F 1 259, 190 190 1 25B, 191 191 1 192,
     193 193 1 260, 194 194 1 263, 196 196 1 269, 197 197 1 268, 198 198 1 199, 19C 19C 1 26F,
     19D 19D 1 272, 19F 19F 1 275, 1A0 1A4 2 1A1, 1A6 1A6 1 280, 1A7 1A7 1 1A8, 1A9 1A9 1 283,
     1AC 1AC 1 1AD, 1AE 1AE 1 288, 1AF 1AF 1 1B0, 1B1 1B2 1 28A, 1B3 1B5 2 1B4, 1B7 1B7 1 292,
     1B8 1B8 1 1B9, 1BC 1BC 1 1BD, 1C4 1C4 1 1C6, 1C5 1C5 1 1C6, 1C7 1C7 1 1C9, 1C8 1C8 1 1C9,
     1CA 1CA 1 1CC, 1CB 1DB 2 1CC, 1DE 1EE 2 1DF, 1F1 1F1 1 1F3, 1F2 1F4 2 1F3, 1F6 1F6 1 195,
     1F7 1F7 1 1BF, 1F8 21E 2 1F9, 220 220 1 19E, 222 232 2 223, 23A 23A 1 2C65, 23B 23B 1 23C,
     23D 23D 1 19A, 23E 23E 1 2C66, 241 241 1 242, 243 243 1 180, 244 244 1 289, 245 245 1 28C,
     246 24E 2 247, 370 372 2 371, 376 376 1 377, 37F 37F 1 3F3, 386 386 1 3AC, 388 38A 1 3AD,
     38C 38C 1 3CC, 38E 38F 1 3CD, 391 3A1 1 3B1, 3A3 3AB 1 3C3, 3CF 3CF 1 3D7, 3D8 3EE 2 3D9,
     3F4 3F4 1 3B8, 3F7 3F7 1 3F8, 3F9 3F9 1 3F2, 3FA 3FA 1 3FB, 3FD 3FF 1 37B, 400 40F 1 450,
     410 42F 1 430, 460 480 2 461, 48A 4BE 2 48B, 4C0 4C0 1 4CF, 4C1 4CD 2 4C2, 4D0 52E 2 4D1,
     531 556 1 561, 10A0 10C5 1 2D00, 10C7 10C7 1 2D27, 10CD 10CD 1 2D2D, 13A0 13EF 1 AB70,
     13F0 13F5 1 13F8, 1C89 1C89 1 1C8A, 1C90 1CBA 1 10D0, 1CBD 1CBF 1 10FD, 1E00 1E94 2 1E01,
     1E9E 1E9E 1 DF, 1EA0 1EFE 2 1EA1, 1F08 1F0F 1 1F00, 1F18 1F1D 1 1F10, 1F28 1F2F 1 1F20,
     1F38 1F3F 1 1F30, 1F48 1F4D 1 1F40, 1F59 1F5F 2 1F51, 1F68 1F6F 1 1F60, 1F88 1F8F 1 1F80,
     1F98 1F9F 1 1F90, 1FA8 1FAF 1 1FA0, 1FB8 1FB9 1 1FB0, 1FBA 1FBB 1 1F70, 1FBC 1FBC 1 1FB3,
     1FC8 1FCB 1 1F72, 1FCC 1FCC 1 1FC3, 1FD8 1FD9 1 1FD0, 1FDA 1FDB 1 1F76, 1FE8 1FE9 1 1FE0,
     1FEA 1FEB 1 1F7A, 1FEC 1FEC 1 1FE5, 1FF8 1FF9 1 1F78, 1FFA 1FFB 1 1F7C, 1FFC 1FFC 1 1FF3,
     2126 2126 1 3C9, 212A 212A 1 6B, 212B 212B 1 E5, 2132 2132 1 214E, 2160 216F 1 2170,
     2183 2183 1 2184, 24B6 24CF 1 24D0, 2C00 2C2F 1 2C30, 2C60 2C60 1 2C61, 2C62 2C62 1 26B,
     2C63 2C63 1 1D7D, 2C64 2C64 1 27D, 2C67 2C6B 2 2C68, 2C6D 2C6D 1 251, 2C6E 2C6E 1 271,
     2C6F 2C6F 1 250, 2C70 2C70 1 252, 2C72 2C72 1 2C73, 2C75 2C75 1 2C76, 2C7E 2C7F 1 23F,
     2C80 2CE2 2 2C81, 2CEB 2CED 2 2CEC, 2CF2 2CF2 1 2CF3, A640 A66C 2 A641, A680 A69A 2 A681,
     A722 A72E 2 A723, A732 A76E 2 A733, A779 A77B 2 A77A, A77D A77D 1 1D79, A77E A786 2 A77F,
     A78B A78B 1 A78C, A78D A78D 1 265, A790 A792 2 A791, A796 A7A8 2 A797, A7AA A7AA 1 266,
     A7AB A7AB 1 25C, A7AC A7AC 1 261, A7AD A7AD 1 26C, A7AE A7AE 1 26A, A7B0 A7B0 1 29E,
     A7B1 A7B1 1 287, A7B2 A7B2 1 29D, A7B3 A7B3 1 AB53, A7B4 A7C2 2 A7B5, A7C4 A7C4 1 A794,
     A7C5 A7C5 1 282, A7C6 A7C6 1 1D8E, A7C7 A7C9 2 A7C8, A7CB A7CB 1 264, A7CC A7DA 2 A7CD,
     A7DC A7DC 1 19B, A7F5 A7F5 1 A7F6, FF21 FF3A 1 FF41, 10400 10427 1 10428,
     104B0 104D3 1 104D8, 10570 1057A 1 10597, 1057C 1058A 1 105A3, 1058C 10592 1 105B3,
     10594 10595 1 105BB, 10C80 10CB2 1 10CC0, 10D50 10D65 1 10D70, 118A0 118BF 1 118C0,
     16E40 16E5F 1 16E60, 16EA0 16EB8 1 16EBB, 1E900 1E921 1 1E922"

/-- Characters with case beyond ASCII. -/
def cased : List Nat :=
  Table.numerals
    "AA AB B5 B6 BA BB C0 D7 D8 F7 F8 1BB 1BC 1C0 1C4 294 296 2B9 2C0 2C2 2E0 2E5 345 346 370 374
     376 378 37A 37E 37F 380 386 387 388 38B 38C 38D 38E 3A2 3A3 3F6 3F7 482 48A 530 531 557 560
     589 10A0 10C6 10C7 10C8 10CD 10CE 10D0 10FB 10FC 1100 13A0 13F6 13F8 13FE 1C80 1C8B 1C90
     1CBB 1CBD 1CC0 1D00 1DC0 1E00 1F16 1F18 1F1E 1F20 1F46 1F48 1F4E 1F50 1F58 1F59 1F5A 1F5B
     1F5C 1F5D 1F5E 1F5F 1F7E 1F80 1FB5 1FB6 1FBD 1FBE 1FBF 1FC2 1FC5 1FC6 1FCD 1FD0 1FD4 1FD6
     1FDC 1FE0 1FED 1FF2 1FF5 1FF6 1FFD 2071 2072 207F 2080 2090 209D 2102 2103 2107 2108 210A
     2114 2115 2116 2119 211E 2124 2125 2126 2127 2128 2129 212A 212E 212F 2135 2139 213A 213C
     2140 2145 214A 214E 214F 2160 2180 2183 2185 24B6 24EA 2C00 2CE5 2CEB 2CEF 2CF2 2CF4 2D00
     2D26 2D27 2D28 2D2D 2D2E A640 A66E A680 A69E A722 A788 A78B A78F A790 A7DD A7F1 A7F7 A7F8
     A7FB AB30 AB5B AB5C AB6A AB70 ABC0 FB00 FB07 FB13 FB18 FF21 FF3B FF41 FF5B 10400 10450 104B0
     104D4 104D8 104FC 10570 1057B 1057C 1058B 1058C 10593 10594 10596 10597 105A2 105A3 105B2
     105B3 105BA 105BB 105BD 10780 10781 10783 10786 10787 107B1 107B2 107BB 10C80 10CB3 10CC0
     10CF3 10D50 10D66 10D70 10D86 118A0 118E0 16E40 16E80 16EA0 16EB9 16EBB 16ED4 1D400 1D455
     1D456 1D49D 1D49E 1D4A0 1D4A2 1D4A3 1D4A5 1D4A7 1D4A9 1D4AD 1D4AE 1D4BA 1D4BB 1D4BC 1D4BD
     1D4C4 1D4C5 1D506 1D507 1D50B 1D50D 1D515 1D516 1D51D 1D51E 1D53A 1D53B 1D53F 1D540 1D545
     1D546 1D547 1D54A 1D551 1D552 1D6A6 1D6A8 1D6C1 1D6C2 1D6DB 1D6DC 1D6FB 1D6FC 1D715 1D716
     1D735 1D736 1D74F 1D750 1D76F 1D770 1D789 1D78A 1D7A9 1D7AA 1D7C3 1D7C4 1D7CC 1DF00 1DF0A
     1DF0B 1DF1F 1DF25 1DF2B 1E030 1E06E 1E900 1E944 1F130 1F14A 1F150 1F16A 1F170 1F18A"

/-- Characters beyond ASCII that words are looked through. -/
def caseIgnorable : List Nat :=
  Table.numerals
    "A8 A9 AD AE AF B0 B4 B5 B7 B9 2B0 370 374 376 37A 37B 384 386 387 388 483 48A 559 55A 55F
     560 591 5BE 5BF 5C0 5C1 5C3 5C4 5C6 5C7 5C8 5F4 5F5 600 606 610 61B 61C 61D 640 641 64B 660
     670 671 6D6 6DE 6DF 6E9 6EA 6EE 70F 710 711 712 730 74B 7A6 7B1 7EB 7F6 7FA 7FB 7FD 7FE 816
     82E 859 85C 888 889 890 892 897 8A0 8C9 903 93A 93B 93C 93D 941 949 94D 94E 951 958 962 964
     971 972 981 982 9BC 9BD 9C1 9C5 9CD 9CE 9E2 9E4 9FE 9FF A01 A03 A3C A3D A41 A43 A47 A49 A4B
     A4E A51 A52 A70 A72 A75 A76 A81 A83 ABC ABD AC1 AC6 AC7 AC9 ACD ACE AE2 AE4 AFA B00 B01 B02
     B3C B3D B3F B40 B41 B45 B4D B4E B55 B57 B62 B64 B82 B83 BC0 BC1 BCD BCE C00 C01 C04 C05 C3C
     C3D C3E C41 C46 C49 C4A C4E C55 C57 C62 C64 C81 C82 CBC CBD CBF CC0 CC6 CC7 CCC CCE CE2 CE4
     D00 D02 D3B D3D D41 D45 D4D D4E D62 D64 D81 D82 DCA DCB DD2 DD5 DD6 DD7 E31 E32 E34 E3B E46
     E4F EB1 EB2 EB4 EBD EC6 EC7 EC8 ECF F18 F1A F35 F36 F37 F38 F39 F3A F71 F7F F80 F85 F86 F88
     F8D F98 F99 FBD FC6 FC7 102D 1031 1032 1038 1039 103B 103D 103F 1058 105A 105E 1061 1071
     1075 1082 1083 1085 1087 108D 108E 109D 109E 10FC 10FD 135D 1360 1712 1715 1732 1734 1752
     1754 1772 1774 17B4 17B6 17B7 17BE 17C6 17C7 17C9 17D4 17D7 17D8 17DD 17DE 180B 1810 1843
     1844 1885 1887 18A9 18AA 1920 1923 1927 1929 1932 1933 1939 193C 1A17 1A19 1A1B 1A1C 1A56
     1A57 1A58 1A5F 1A60 1A61 1A62 1A63 1A65 1A6D 1A73 1A7D 1A7F 1A80 1AA7 1AA8 1AB0 1ADE 1AE0
     1AEC 1B00 1B04 1B34 1B35 1B36 1B3B 1B3C 1B3D 1B42 1B43 1B6B 1B74 1B80 1B82 1BA2 1BA6 1BA8
     1BAA 1BAB 1BAE 1BE6 1BE7 1BE8 1BEA 1BED 1BEE 1BEF 1BF2 1C2C 1C34 1C36 1C38 1C78 1C7E 1CD0
     1CD3 1CD4 1CE1 1CE2 1CE9 1CED 1CEE 1CF4 1CF5 1CF8 1CFA 1D2C 1D6B 1D78 1D79 1D9B 1E00 1FBD
     1FBE 1FBF 1FC2 1FCD 1FD0 1FDD 1FE0 1FED 1FF0 1FFD 1FFF 200B 2010 2018 201A 2024 2025 2027
     2028 202A 202F 2060 2065 2066 2070 2071 2072 207F 2080 2090 209D 20D0 20F1 2C7C 2C7E 2CEF
     2CF2 2D6F 2D70 2D7F 2D80 2DE0 2E00 2E2F 2E30 3005 3006 302A 302E 3031 3036 303B 303C 3099
     309F 30FC 30FF A015 A016 A4F8 A4FE A60C A60D A66F A673 A674 A67E A67F A680 A69C A6A0 A6F0
     A6F2 A700 A722 A770 A771 A788 A78B A7F1 A7F5 A7F8 A7FA A802 A803 A806 A807 A80B A80C A825
     A827 A82C A82D A8C4 A8C6 A8E0 A8F2 A8FF A900 A926 A92E A947 A952 A980 A983 A9B3 A9B4 A9B6
     A9BA A9BC A9BE A9CF A9D0 A9E5 A9E7 AA29 AA2F AA31 AA33 AA35 AA37 AA43 AA44 AA4C AA4D AA70
     AA71 AA7C AA7D AAB0 AAB1 AAB2 AAB5 AAB7 AAB9 AABE AAC0 AAC1 AAC2 AADD AADE AAEC AAEE AAF3
     AAF5 AAF6 AAF7 AB5B AB60 AB69 AB6C ABE5 ABE6 ABE8 ABE9 ABED ABEE FB1E FB1F FBB2 FBC3 FE00
     FE10 FE13 FE14 FE20 FE30 FE52 FE53 FE55 FE56 FEFF FF00 FF07 FF08 FF0E FF0F FF1A FF1B FF3E
     FF3F FF40 FF41 FF70 FF71 FF9E FFA0 FFE3 FFE4 FFF9 FFFC 101FD 101FE 102E0 102E1 10376 1037B
     10780 10786 10787 107B1 107B2 107BB 10A01 10A04 10A05 10A07 10A0C 10A10 10A38 10A3B 10A3F
     10A40 10AE5 10AE7 10D24 10D28 10D4E 10D4F 10D69 10D6E 10D6F 10D70 10EAB 10EAD 10EC5 10EC6
     10EFA 10F00 10F46 10F51 10F82 10F86 11001 11002 11038 11047 11070 11071 11073 11075 1107F
     11082 110B3 110B7 110B9 110BB 110BD 110BE 110C2 110C3 110CD 110CE 11100 11103 11127 1112C
     1112D 11135 11173 11174 11180 11182 111B6 111BF 111C9 111CD 111CF 111D0 1122F 11232 11234
     11235 11236 11238 1123E 1123F 11241 11242 112DF 112E0 112E3 112EB 11300 11302 1133B 1133D
     11340 11341 11366 1136D 11370 11375 113BB 113C1 113CE 113CF 113D0 113D1 113D2 113D3 113E1
     113E3 11438 11440 11442 11445 11446 11447 1145E 1145F 114B3 114B9 114BA 114BB 114BF 114C1
     114C2 114C4 115B2 115B6 115BC 115BE 115BF 115C1 115DC 115DE 11633 1163B 1163D 1163E 1163F
     11641 116AB 116AC 116AD 116AE 116B0 116B6 116B7 116B8 1171D 1171E 1171F 11720 11722 11726
     11727 1172C 1182F 11838 11839 1183B 1193B 1193D 1193E 1193F 11943 11944 119D4 119D8 119DA
     119DC 119E0 119E1 11A01 11A0B 11A33 11A39 11A3B 11A3F 11A47 11A48 11A51 11A57 11A59 11A5C
     11A8A 11A97 11A98 11A9A 11B60 11B61 11B62 11B65 11B66 11B67 11C30 11C37 11C38 11C3E 11C3F
     11C40 11C92 11CA8 11CAA 11CB1 11CB2 11CB4 11CB5 11CB7 11D31 11D37 11D3A 11D3B 11D3C 11D3E
     11D3F 11D46 11D47 11D48 11D90 11D92 11D95 11D96 11D97 11D98 11DD9 11DDA 11EF3 11EF5 11F00
     11F02 11F36 11F3B 11F40 11F41 11F42 11F43 11F5A 11F5B 13430 13441 13447 13456 1611E 1612A
     1612D 16130 16AF0 16AF5 16B30 16B37 16B40 16B44 16D40 16D43 16D6B 16D6D 16F4F 16F50 16F8F
     16FA0 16FE0 16FE2 16FE3 16FE5 16FF2 16FF4 1AFF0 1AFF4 1AFF5 1AFFC 1AFFD 1AFFF 1BC9D 1BC9F
     1BCA0 1BCA4 1CF00 1CF2E 1CF30 1CF47 1D167 1D16A 1D173 1D183 1D185 1D18C 1D1AA 1D1AE 1D242
     1D245 1DA00 1DA37 1DA3B 1DA6D 1DA75 1DA76 1DA84 1DA85 1DA9B 1DAA0 1DAA1 1DAB0 1E000 1E007
     1E008 1E019 1E01B 1E022 1E023 1E025 1E026 1E02B 1E030 1E06E 1E08F 1E090 1E130 1E13E 1E2AE
     1E2AF 1E2EC 1E2F0 1E4EB 1E4F0 1E5EE 1E5F0 1E6E3 1E6E4 1E6E6 1E6E7 1E6EE 1E6F0 1E6F5 1E6F6
     1E6FF 1E700 1E8D0 1E8D7 1E944 1E94C 1F3FB 1F400 E0001 E0002 E0020 E0080 E0100 E01F0"

def isCased (c : Char) : Bool :=
  if c.toNat < 0x80 then c.isAlpha else covers cased c.toNat

def isCaseIgnorable (c : Char) : Bool :=
  if c.toNat < 0x80 then
    c.toNat = 0x27 || c = '.' || c = ':' || c = '^' || c.toNat = 0x60
  else covers caseIgnorable c.toNat

/-- The lower case of a character by itself, one or two characters. -/
def lowerChar (c : Char) : List Char :=
  if c.toNat < 0x80 then [c.toLower]
  else if c.toNat = 0x130 then ['i', Char.ofNat 0x307]
  else [(Table.image? smallLetters c.toNat).elim c Char.ofNat]

/-- The next character that counts has case. -/
def meetsCased (chars : List Char) : Bool :=
  match chars.dropWhile isCaseIgnorable with
  | [] => false
  | c :: _ => isCased c

/-- The lower case of the rest of a text, given the characters before it in reverse. -/
def lowerAfter (before : List Char) : List Char → List Char
  | [] => []
  | c :: rest =>
    let lower :=
      if c.toNat = 0x3A3 then
        if meetsCased before && !meetsCased rest then [Char.ofNat 0x3C2] else [Char.ofNat 0x3C3]
      else lowerChar c
    lower ++ lowerAfter (c :: before) rest

def lowercase (text : String) : String :=
  String.ofList (lowerAfter [] text.toList)

end PipedQuery.Text
