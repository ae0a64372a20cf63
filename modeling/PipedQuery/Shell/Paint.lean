/-!
Coloured text for terminals. A painted piece stands between the sequence that opens its style and
the one that ends every style. Where the text itself ends all styles, the piece's own is opened
again.
-/

set_option autoImplicit false
set_option relaxedAutoImplicit false

namespace PipedQuery.Shell

inductive Style where
  | metaLine
  | literal
  | pipe
  | function
  | keyword
  | number
  | faint
  | error
  | prompt
  | title
  | address
  | command
deriving DecidableEq

namespace Style

def code : Style → String
  | metaLine => "95"
  | literal => "33"
  | pipe => "1;37"
  | function => "35"
  | keyword => "1;34"
  | number => "36"
  | faint => "2"
  | error => "1;31"
  | prompt => "1;92"
  | title => "1;96"
  | address => "96"
  | command => "93"

def escape : Char := Char.ofNat 27

/-- The sequence that ends every style. -/
def ending : List Char := [escape, '[', '0', 'm']

def opening (style : Style) : List Char :=
  [escape, '['] ++ style.code.toList ++ ['m']

/-- The text with the style opened again after every end inside it. -/
def reopened (style : Style) : List Char → List Char
  | '\x1b' :: '[' :: '0' :: 'm' :: rest => ending ++ style.opening ++ reopened style rest
  | c :: rest => c :: reopened style rest
  | [] => []

def apply (style : Style) (text : List Char) : List Char :=
  style.opening ++ style.reopened text ++ ending

/-- A text in a style, where colours are shown. -/
def paint (style : Style) (coloured : Bool) (text : String) : String :=
  if coloured then String.ofList (style.apply text.toList) else text

end Style
end PipedQuery.Shell
