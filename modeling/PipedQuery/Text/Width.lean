import PipedQuery.Text.Emoji
import PipedQuery.Text.Joining

/-!
The number of columns that a text takes on a terminal: two for a wide character of East Asia and
for an emoji, none for a combining or ignorable one, one for any other. Where characters are
drawn as one, the columns are those of the whole, so a text is measured from its end: each
character adds its columns in view of what follows it.
-/

set_option autoImplicit false
set_option relaxedAutoImplicit false

namespace PipedQuery.Text

namespace Width

/-- Characters of two columns. -/
def wide : List Nat :=
  Table.numerals
    "1100 1160 231A 231C 2329 232B 23E9 23ED 23F0 23F1 23F3 23F4 25FD 25FF 2614 2616 2630 2638
     2648 2654 267F 2680 268A 2690 2693 2694 26A1 26A2 26AA 26AC 26BD 26BF 26C4 26C6 26CE 26CF
     26D4 26D5 26EA 26EB 26F2 26F4 26F5 26F6 26FA 26FB 26FD 26FE 2705 2706 270A 270C 2728 2729
     274C 274D 274E 274F 2753 2756 2757 2758 2795 2798 27B0 27B1 27BF 27C0 2B1B 2B1D 2B50 2B51
     2B55 2B56 2E80 2E9A 2E9B 2EF4 2F00 2FD6 2FF0 303F 3041 3097 3099 3100 3105 3130 3131 318F
     3190 31E6 31EF 321F 3220 3248 3250 A48D A490 A4C7 A960 A97D AC00 D7A4 F900 FB00 FE10 FE1A
     FE30 FE53 FE54 FE67 FE68 FE6C FF01 FF61 FFE0 FFE7 16FE0 16FE5 16FF0 16FF7 17000 18CDB 18CFF
     18D21 18D80 18DF3 18E00 19192 191A0 191D3 1AFF0 1AFF4 1AFF5 1AFFC 1AFFD 1AFFF 1B000 1B129
     1B132 1B133 1B150 1B153 1B155 1B156 1B164 1B169 1B170 1B2FC 1D300 1D357 1D360 1D377 1F004
     1F005 1F0CF 1F0D0 1F18E 1F18F 1F191 1F19B 1F1AE 1F1AF 1F200 1F203 1F210 1F23C 1F240 1F249
     1F250 1F252 1F260 1F266 1F300 1F321 1F32D 1F336 1F337 1F37D 1F37E 1F394 1F3A0 1F3CB 1F3CF
     1F3D4 1F3E0 1F3F1 1F3F4 1F3F5 1F3F8 1F43F 1F440 1F441 1F442 1F4FD 1F4FF 1F53E 1F54B 1F54F
     1F550 1F568 1F57A 1F57B 1F595 1F597 1F5A4 1F5A5 1F5FB 1F650 1F680 1F6C6 1F6CC 1F6CD 1F6D0
     1F6D3 1F6D5 1F6DA 1F6DC 1F6E0 1F6EB 1F6ED 1F6F4 1F6FD 1F7DA 1F7DB 1F7E0 1F7EC 1F7F0 1F7F1
     1F90C 1F93B 1F93C 1F946 1F947 1FA00 1FA70 1FA7D 1FA80 1FAC7 1FAC8 1FAC9 1FACC 1FADE 1FADF
     1FAEC 1FAEF 1FAFB 20000 2FFFE 30000 3FFFE"

/-- Characters of no column other than nonspacing marks. -/
def unseen : List Nat :=
  Table.numerals
    "AD AE 605 606 61C 61D 70F 710 890 892 8E2 903 9BE 9BF 9D7 9D8 B3E B40 B57 B58 BBE BBF BD7
     BD8 CC0 CC1 CC2 CC3 CC7 CC9 CCA CCE CD5 CD7 D3E D3F D4E D4F D57 D58 DCF DD0 DDF DE0 1160
     1200 1715 1716 1734 1735 180E 1810 1B35 1B3E 1B42 1B45 1BAA 1BAE 1BF2 1BF4 200B 2010 202A
     202F 2060 2070 302E 3030 3164 3165 A8FA A8FB A953 A954 A9C0 A9C1 D7B0 D7C7 D7CB D7FC FEFF
     FF00 FFA0 FFA1 FFF0 FFF9 111C0 111C1 111C2 111C4 11235 11238 1133E 1133F 1134D 1134E 11357
     11358 113B8 113B9 113C2 113C3 113C5 113C6 113C7 113CA 113CF 113D3 114B0 114B1 114BD 114BE
     115AF 115B0 116B6 116B8 11930 11931 1193D 11940 11941 11942 11A84 11A97 11D46 11D48 11F02
     11F03 11F41 11F43 16FF0 16FF2 1BCA0 1BCA4 1D165 1D16A 1D16D 1D183 E0000 E1000"

/-- The joiner of Tifinagh is a nonspacing mark that is seen where it joins nothing. -/
def isUnseen (c : Char) : Bool :=
  c.toNat ≠ 0x2D7F && (isNonspacing c || covers unseen c.toNat)

/-! Letters that are drawn as one with others -/

/-- The letters lam, which an alef joins. -/
def isLam (c : Char) : Bool :=
  covers [0x644, 0x645, 0x6B5, 0x6B9, 0x76A, 0x76B, 0x8A6, 0x8A7, 0x8C7, 0x8C8] c.toNat

def isAlef (c : Char) : Bool :=
  covers
    [0x622, 0x624, 0x625, 0x626, 0x627, 0x628, 0x671, 0x674, 0x675, 0x676, 0x773, 0x775, 0x870,
      0x883] c.toNat

def isTifinaghConsonant (c : Char) : Bool :=
  covers [0x2D31, 0x2D66, 0x2D6F, 0x2D70] c.toNat

/-- The letters of Khmer that can be written below another. -/
def isSubjoinable (c : Char) : Bool :=
  covers
    [0x1780, 0x1783, 0x1784, 0x1788, 0x1789, 0x178D, 0x178E, 0x1794, 0x1795, 0x1799, 0x179B,
      0x179E, 0x17A0, 0x17A1, 0x17A2, 0x17A3, 0x17A7, 0x17A8, 0x17AB, 0x17AD, 0x17AF, 0x17B0]
    c.toNat

/-- Characters that do not come between a letter and one it is drawn with. -/
def isPassedOver (c : Char) : Bool :=
  covers
    [0x34F, 0x350, 0x17B4, 0x17B6, 0x180B, 0x180E, 0x180F, 0x1810, 0x200D, 0x200E, 0xFE00, 0xFE10,
      0xE0100, 0xE01F0] c.toNat

/-! What follows a character -/

/-- The character after another, as far as it bears on the columns of the first. -/
inductive Follower where
  | other
  | lineFeed
  | tone
  | picture
  /-- A picture with a joiner before it. -/
  | joinedPicture
  | joinedKeycap
  /-- Letters of flags: one, or several. -/
  | flagLetter
  | flagLetters
  /-- Letters of flags with a picture joined to them: one, an even or an odd number. -/
  | joinedFlagLetter
  | joinedEvenLetters
  | joinedOddLetters
  /-- The end of the name of a region, after that many letters or digits of it. -/
  | tagLetters (count : Nat)
  | tagDigits (count : Nat)
  | kiratVowelE
  | kiratVowelAi
  | alef
  | lamed
  | bugineseYa
  | bugineseVowelYa
  | tifinagh
  | tifinaghJoiner
  | lisuTone
  | orkhonI
  | subjoinable
deriving DecidableEq

/-- A selector of variants of the character before it. -/
inductive Selector where
  | picture
  | plain
  | fullWidth
deriving DecidableEq

structure Context where
  follower : Follower := .other
  /-- A joiner stands before the follower. -/
  joined : Bool := false
  /-- The selector of pictures stands before all that. -/
  pictured : Bool := false
  /-- So does the selector of plain characters. -/
  plain : Bool := false
  /-- So does the selector of wide characters. -/
  fullWidth : Bool := false
deriving DecidableEq

namespace Follower

/-- A letter that is drawn as one with some letter before it. -/
def isLigated : Follower → Bool
  | alef | lamed | bugineseYa | bugineseVowelYa | tifinagh | tifinaghJoiner | lisuTone | orkhonI
  | subjoinable => true
  | _ => false

def isJoinedPicture (follower : Follower) : Bool :=
  follower = joinedPicture || follower = joinedKeycap

end Follower

namespace Context

def mark (context : Context) : Selector → Context
  | .picture => { context with pictured := true }
  | .plain => { context with plain := true }
  | .fullWidth => { context with fullWidth := true }

/-- The context before a selector. A letter and the selectors before it are kept through it, and
so is a joined picture through the selector of pictures. -/
def select (context : Context) (selector : Selector) : Context :=
  if context.follower.isLigated || (selector = .picture && context.follower.isJoinedPicture) then
    context.mark selector
  else ({} : Context).mark selector

/-- The context before a character that is no picture. -/
def unpictured (context : Context) : Context :=
  if !context.pictured then context
  else if context.follower.isLigated then { context with pictured := false }
  else {}

/-- The context before a character that no selector changes. -/
def unselected (context : Context) : Context :=
  { context with plain := false, fullWidth := false }

end Context

/-! Columns -/

def selectorOf (c : Char) : Option Selector :=
  if c.toNat = 0xFE0F then some .picture
  else if c.toNat = 0xFE0E then some .plain
  else if c.toNat = 0xFE01 then some .fullWidth
  else none

/-- What a character is for the one before it. -/
def followerOf (c : Char) : Follower :=
  let n := c.toNat
  if isAlef c then .alef
  else if n = 0x5DC then .lamed
  else if isSubjoinable c then .subjoinable
  else if n = 0x1A10 then .bugineseYa
  else if isTifinaghConsonant c then .tifinagh
  else if n = 0xA4FC ∨ n = 0xA4FD then .lisuTone
  else if n = 0x10C03 then .orkhonI
  else if n = 0x16D67 then .kiratVowelE
  else if n = 0x16D68 then .kiratVowelAi
  else if isFlagLetter c then .flagLetter
  else if isTone c then .tone
  else if isPicture c then .picture
  else .other

/-- The columns of a character by itself. Two signs of Khmer are as wide as the letters that
they stand for. -/
def ownWidth (c : Char) : Nat :=
  if c.toNat = 0x17A4 then 2
  else if c.toNat = 0x17D8 then 3
  else if isUnseen c then 0
  else if covers wide c.toNat then 2
  else 1

def alone (c : Char) : Int × Context :=
  match selectorOf c with
  | some selector => (0, ({} : Context).mark selector)
  | none => (ownWidth c, { follower := followerOf c })

/-- A character that is drawn as one with what follows: the columns it adds, and what the two
are for the character before. -/
def ligature (context : Context) (c : Char) : Option (Int × Follower) :=
  let n := c.toNat
  match context.follower with
  | .alef =>
    if isLam c then some (0, .other)
    else if isUnseen c && isTransparent c then some (0, .alef)
    else none
  | .lamed => if context.joined && n = 0x5D0 then some (0, .other) else none
  | .subjoinable => if n = 0x17D2 then some (-1, .other) else none
  | .bugineseYa => if context.joined && n = 0x1A17 then some (0, .bugineseVowelYa) else none
  | .bugineseVowelYa => if n = 0x1A15 then some (0, .other) else none
  | .tifinagh =>
    if n = 0x2D7F then some (1, .tifinaghJoiner)
    else if context.joined && isTifinaghConsonant c then some (0, .other)
    else none
  | .tifinaghJoiner => if isTifinaghConsonant c then some (-1, .other) else none
  | .lisuTone => if 0xA4F8 ≤ n && n ≤ 0xA4FB then some (0, .other) else none
  | .orkhonI => if context.joined && n = 0x10C32 then some (0, .other) else none
  | .kiratVowelE =>
    if n = 0x16D63 ∨ n = 0x16D69 then some (0, .other)
    else if n = 0x16D67 then some (0, .kiratVowelAi)
    else if n = 0x16D68 then some (1, .kiratVowelE)
    else none
  | .kiratVowelAi => if n = 0x16D63 then some (0, .other) else none
  | _ => none

/-- A character that makes up one emoji with what follows. -/
def emojiSequence (follower : Follower) (c : Char) : Option (Int × Follower) :=
  match follower with
  | .tone =>
    if takesTone c then some (0, .picture)
    else if c.toNat = 0x200D then some (0, .joinedPicture)
    else none
  | .picture => if c.toNat = 0x200D then some (0, .joinedPicture) else none
  | .flagLetter => if isFlagLetter c then some (1, .flagLetters) else none
  | .flagLetters =>
    if isFlagLetter c then some (1, .flagLetters)
    else if c.toNat = 0x200D then some (0, .joinedPicture)
    else none
  | .joinedPicture =>
    if c.toNat = 0x20E3 then some (0, .joinedKeycap)
    else if isFlagLetter c then some (1, .joinedFlagLetter)
    else if isTone c then some (0, .tone)
    else if c.toNat = 0xE007F then some (0, .tagLetters 0)
    else if isPicture c then some (0, .picture)
    else none
  | .joinedFlagLetter => if isFlagLetter c then some (-1, .joinedEvenLetters) else none
  | .joinedOddLetters =>
    if isFlagLetter c then some (-1, .joinedEvenLetters)
    else if c.toNat = 0x200D then some (0, .joinedPicture)
    else none
  | .joinedEvenLetters =>
    if isFlagLetter c then some (3, .joinedOddLetters)
    else if c.toNat = 0x200D then some (0, .joinedPicture)
    else none
  | .tagLetters count =>
    if isTagLetter c && count < 6 then some (0, .tagLetters (count + 1))
    else if isTagDigit c && count < 5 then some (0, .tagDigits 1)
    else if c.toNat = 0x1F3F4 && 3 ≤ count then some (0, .picture)
    else none
  | .tagDigits count =>
    if isTagDigit c && count < 3 then some (0, .tagDigits (count + 1))
    else if c.toNat = 0x1F3F4 && count = 3 then some (0, .picture)
    else none
  | _ => none

/-- A character before letters and emoji that no selector changes. -/
def before (context : Context) (c : Char) : Int × Context :=
  match ligature context c, emojiSequence context.follower c with
  | some (added, follower), _ => (added, { follower })
  | none, some (added, follower) => (added, { follower })
  | none, none => alone c

/-- Quotation marks that a selector makes wide. -/
def isQuote (c : Char) : Bool :=
  covers [0x2018, 0x201A, 0x201C, 0x201E] c.toNat

/-- A character that no selector changes. -/
def unchanged (context : Context) (c : Char) : Int × Context :=
  if context.follower.isLigated && context.follower ≠ .alef && isPassedOver c then
    (0, { context with joined := context.joined || c.toNat = 0x200D })
  else before context c

/-- A character beyond Latin-1 before something that bears on it. -/
def inContext (context : Context) (c : Char) : Int × Context :=
  match selectorOf c with
  | some selector => (0, context.select selector)
  | none =>
    if context.plain && isRevertible c then (1, {})
    else if context.fullWidth && isQuote c then (2, {})
    else unchanged context.unselected c

/-- The columns that a character adds before what follows it, and what it is then itself. -/
def advance (context : Context) (c : Char) : Int × Context :=
  if context.pictured && isDepictable c then
    (if context.follower.isJoinedPicture then 0 else 2, { follower := .picture })
  else
    let context := context.unpictured
    if c = '\n' then (1, { follower := .lineFeed })
    else if c = '\r' && context.follower = .lineFeed then (0, {})
    else if c.toNat ≤ 0xA0 then (1, {})
    else if context = {} then alone c
    else inContext context c

/-- The columns of a text and its context for a character before it. -/
def measure (text : List Char) : Int × Context :=
  text.foldr (fun c (columns, context) ↦
    let (added, context) := advance context c
    (columns + added, context)) (0, {})

end Width

/-- The columns of a text. -/
def width (text : String) : Nat :=
  (Width.measure text.toList).1.toNat

end PipedQuery.Text
