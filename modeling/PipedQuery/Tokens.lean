import PipedQuery.Text.Cut

/-!
A query as the words completed so far and the word under the cursor. Single spaces divide the
words, so a run of spaces yields empty words, and there is always a word under the cursor.
-/

set_option autoImplicit false
set_option relaxedAutoImplicit false

namespace PipedQuery

structure Tokens where
  completed : List String
  /-- The word being typed, which a completion extends. -/
  stem : String
deriving DecidableEq

namespace Tokens

def ofWords : List String → Tokens
  | [] => ⟨[], ""⟩
  | [stem] => ⟨[], stem⟩
  | word :: rest =>
    let tokens := ofWords rest
    ⟨word :: tokens.completed, tokens.stem⟩

def ofQuery (query : String) : Tokens :=
  ofWords (Text.split ' ' query)

def words (tokens : Tokens) : List String :=
  tokens.completed ++ [tokens.stem]

def size (tokens : Tokens) : Nat :=
  tokens.completed.length + 1

/-- The word `n` places before the cursor; the stem is at 0. -/
def back (tokens : Tokens) (n : Nat) : Option String :=
  tokens.words.reverse[n]?

def get (tokens : Tokens) (n : Nat) : Option String :=
  tokens.words[n]?

/-- The last completed word. -/
def previous (tokens : Tokens) : Option String :=
  tokens.completed.getLast?

/-- What a completion keeps: every completed word with the space after it. -/
def head (tokens : Tokens) : String :=
  String.join (tokens.completed.map (· ++ " "))

/-- What a completion that attaches to the last completed word keeps: the head without its
last space. -/
def gluedHead (tokens : Tokens) : String :=
  String.intercalate " " tokens.completed

/-- The query that the words were cut from. -/
def query (tokens : Tokens) : String :=
  tokens.head ++ tokens.stem

end Tokens
end PipedQuery
