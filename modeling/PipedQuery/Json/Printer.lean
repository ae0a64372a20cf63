import PipedQuery.Json

/-!
JSON text. Strings escape the double quote, the backslash and the control characters and leave
every other character as it is. The compact form has no blanks; the indented form puts every
item and member on a line of its own, two blanks deeper than its container.
-/

set_option autoImplicit false
set_option relaxedAutoImplicit false

namespace PipedQuery.Json

def hexDigit (value : Nat) : Char :=
  if value < 10 then Char.ofNat (48 + value) else Char.ofNat (87 + value)

def escaped (c : Char) : List Char :=
  if c = '"' then ['\\', '"']
  else if c = '\\' then ['\\', '\\']
  else if c = '\n' then ['\\', 'n']
  else if c = '\r' then ['\\', 'r']
  else if c = '\t' then ['\\', 't']
  else if c.toNat = 8 then ['\\', 'b']
  else if c.toNat = 12 then ['\\', 'f']
  else if c.toNat < 32 then
    ['\\', 'u', '0', '0', hexDigit (c.toNat / 16), hexDigit (c.toNat % 16)]
  else [c]

def quoted (text : String) : String :=
  "\"" ++ String.ofList (text.toList.flatMap escaped) ++ "\""

mutual

/-- The text without blanks. What is unreadable is written like an absent value. -/
def compact : Json → String
  | null => "null"
  | unreadable => "null"
  | bool value => if value then "true" else "false"
  | integer value => toString value
  | double value => value.text
  | string text => quoted text
  | array items => "[" ++ compactItems items ++ "]"
  | object members => "\x7b" ++ compactMembers members ++ "\x7d"

def compactItems : List Json → String
  | [] => ""
  | [item] => item.compact
  | item :: rest => item.compact ++ "," ++ compactItems rest

def compactMembers : List (String × Json) → String
  | [] => ""
  | [(name, value)] => quoted name ++ ":" ++ value.compact
  | (name, value) :: rest =>
    quoted name ++ ":" ++ value.compact ++ "," ++ compactMembers rest

end

def newline (depth : Nat) : String :=
  String.ofList ('\n' :: List.replicate (2 * depth) ' ')

mutual

/-- The text over several lines, inside `depth` containers. -/
def indented (depth : Nat) : Json → String
  | array [] => "[]"
  | array (item :: rest) =>
    "[" ++ newline (depth + 1) ++ indentedItems (depth + 1) (item :: rest) ++ newline depth ++ "]"
  | object [] => "\x7b\x7d"
  | object (member :: rest) =>
    "\x7b" ++ newline (depth + 1) ++ indentedMembers (depth + 1) (member :: rest) ++
      newline depth ++ "\x7d"
  | other => other.compact

def indentedItems (depth : Nat) : List Json → String
  | [] => ""
  | [item] => item.indented depth
  | item :: rest => item.indented depth ++ "," ++ newline depth ++ indentedItems depth rest

def indentedMembers (depth : Nat) : List (String × Json) → String
  | [] => ""
  | [(name, value)] => quoted name ++ ": " ++ value.indented depth
  | (name, value) :: rest =>
    quoted name ++ ": " ++ value.indented depth ++ "," ++ newline depth ++
      indentedMembers depth rest

end

def pretty (value : Json) : String :=
  value.indented 0

end PipedQuery.Json
