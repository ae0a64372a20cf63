/-!
Cutting texts at single characters. Every function is a recursion on the list of
characters, so that a cut never falls inside one; the string forms only wrap them.
-/

set_option autoImplicit false
set_option relaxedAutoImplicit false

namespace PipedQuery.Text

/-- The stretches between the occurrences of a mark. A text without the mark is one
stretch, and there is always at least one. -/
def stretches (mark : Char) : List Char → List (List Char)
  | [] => [[]]
  | c :: rest =>
    if c = mark then [] :: stretches mark rest
    else match stretches mark rest with
      | [] => [[c]]
      | first :: others => (c :: first) :: others

def split (mark : Char) (text : String) : List String :=
  (stretches mark text.toList).map String.ofList

/-- The text before and after the first occurrence of a mark. -/
def cutFirst (mark : Char) : List Char → Option (List Char × List Char)
  | [] => none
  | c :: rest =>
    if c = mark then some ([], rest)
    else (cutFirst mark rest).map fun (before, after) ↦ (c :: before, after)

def cut (mark : Char) (text : String) : Option (String × String) :=
  (cutFirst mark text.toList).map fun (before, after) ↦
    (String.ofList before, String.ofList after)

/-- What follows `lead`, when the characters begin with it. -/
def dropLead : List Char → List Char → Option (List Char)
  | [], chars => some chars
  | _ :: _, [] => none
  | a :: lead, b :: chars => if a = b then dropLead lead chars else none

/-- What follows `lead` in `text`, when the text begins with it. -/
def after (lead text : String) : Option String :=
  (dropLead lead.toList text.toList).map String.ofList

def beginsWith (lead text : String) : Bool :=
  (dropLead lead.toList text.toList).isSome

def endsIn (last : Char) (text : String) : Bool :=
  text.toList.getLast? = some last

def mentions (mark : Char) (text : String) : Bool :=
  text.toList.contains mark

end PipedQuery.Text
