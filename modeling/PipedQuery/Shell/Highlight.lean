import PipedQuery.Shell.Paint
import PipedQuery.Text.Cut
import PipedQuery.Text.Letter
import PipedQuery.Text.Lowercase
import PipedQuery.Vocabulary

/-!
A line cut into pieces with their styles. The pieces of a line, one after another, are the line.
-/

set_option autoImplicit false
set_option relaxedAutoImplicit false

namespace PipedQuery.Shell

structure Piece where
  style : Option Style
  text : List Char
deriving DecidableEq

namespace Piece

/-- The rest of a quoted text, through its closing quote. A backslash takes the next character
with it. -/
def closeQuote (quote : Char) : List Char → List Char × List Char
  | [] => ([], [])
  | c :: rest =>
    if c = quote then ([c], rest)
    else if c = '\\' then
      match rest with
      | [] => ([c], [])
      | next :: more =>
        let (inside, left) := closeQuote quote more
        (c :: next :: inside, left)
    else
      let (inside, left) := closeQuote quote rest
      (c :: inside, left)

theorem length_closeQuote_le (quote : Char) (chars : List Char) :
    (closeQuote quote chars).2.length ≤ chars.length := by
  fun_induction closeQuote quote chars with
  | case1 => exact Nat.le_refl 0
  | case2 => exact Nat.le_succ _
  | case3 => exact Nat.zero_le _
  | case4 next more inside left hsplit hquote ih =>
    rw [hsplit] at ih
    exact Nat.le_trans ih (Nat.le_succ_of_le (Nat.le_succ _))
  | case5 c rest hquote hslash inside left hsplit ih =>
    rw [hsplit] at ih
    exact Nat.le_succ_of_le ih

def isQuote (c : Char) : Bool :=
  c = '"' || c.toNat = 0x27

def startsWord (c : Char) : Bool :=
  Text.isLetter c || c = '_'

def continuesWord (c : Char) : Bool :=
  Text.isLetterOrNumber c || c = '_' || c = '.' || c = '-'

/-- The first character of a word is one of it, for a letter is a letter or a number. -/
theorem continuesWord_of_startsWord {c : Char} (hstarts : startsWord c = true) :
    continuesWord c = true := by
  rcases Bool.or_eq_true_iff.mp hstarts with hletter | hlow
  · simp [continuesWord, Text.isLetterOrNumber, hletter]
  · simp [continuesWord, of_decide_eq_true hlow]

/-- A word takes at least one character with it. -/
theorem length_dropWhile_continuesWord_lt {c : Char} (hstarts : startsWord c = true)
    (rest : List Char) :
    ((c :: rest).dropWhile continuesWord).length < (c :: rest).length := by
  rw [List.dropWhile_cons_of_pos (continuesWord_of_startsWord hstarts)]
  exact Nat.lt_succ_of_le (List.dropWhile_suffix continuesWord).length_le

def continuesNumber (c : Char) : Bool :=
  c.isDigit || c = '.'

def startsNumber (c : Char) (rest : List Char) : Bool :=
  c.isDigit || (c = '-' && rest.head?.any Char.isDigit)

def isKeyword (word : List Char) : Bool :=
  Vocabulary.keywords.contains (Text.lowercase (String.ofList word))

/-- The names of the aggregates, without their parentheses. -/
def functionNames : List String :=
  Vocabulary.statsFunctions.map fun function ↦
    String.ofList (function.toList.takeWhile (· ≠ '('))

def isFunction (word : List Char) : Bool :=
  functionNames.contains (Text.lowercase (String.ofList word))

/-- The style of a word before `rest`. -/
def wordStyle (word rest : List Char) : Option Style :=
  if rest.head? = some '(' && isFunction word then some .function
  else if isKeyword word then some .keyword
  else none

/-- The pieces of the rest of a line. -/
def scan : List Char → List Piece
  | [] => []
  | c :: rest =>
    if isQuote c then
      ⟨some .literal, c :: (closeQuote c rest).1⟩ :: scan (closeQuote c rest).2
    else if c = '|' then ⟨some .pipe, [c]⟩ :: scan rest
    else if startsWord c then
      let word := (c :: rest).takeWhile continuesWord
      ⟨wordStyle word ((c :: rest).dropWhile continuesWord), word⟩ ::
        scan ((c :: rest).dropWhile continuesWord)
    else if startsNumber c rest then
      ⟨some .number, c :: rest.takeWhile continuesNumber⟩ ::
        scan (rest.dropWhile continuesNumber)
    else ⟨none, [c]⟩ :: scan rest
termination_by chars => chars.length
decreasing_by
  · have := length_closeQuote_le c rest
    simp only [List.length_cons]
    omega
  · simp
  · exact length_dropWhile_continuesWord_lt ‹startsWord c = true› rest
  · have := (List.dropWhile_suffix continuesNumber (l := rest)).length_le
    simp only [List.length_cons]
    omega
  · simp

/-- The pieces of a line. One that begins with a backslash is a command to the shell and one
piece. -/
def ofLine (line : String) : List Piece :=
  match line.toList with
  | '\\' :: rest => [⟨some .metaLine, '\\' :: rest⟩]
  | chars => scan chars

def painted (piece : Piece) : List Char :=
  match piece.style with
  | some style => style.apply piece.text
  | none => piece.text

end Piece

/-- A line with its colours. -/
def highlight (line : String) : String :=
  String.ofList ((Piece.ofLine line).flatMap Piece.painted)

end PipedQuery.Shell
