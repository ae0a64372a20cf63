/-!
Comma-separated values. A cell with a comma, a double quote or a line feed stands in double
quotes with its own quotes doubled; every record ends with a line feed.
-/

set_option autoImplicit false
set_option relaxedAutoImplicit false

namespace PipedQuery.Shell.Csv

def needsQuotes (c : Char) : Bool :=
  c = ',' || c = '"' || c = '\n'

def doubled : List Char → List Char
  | [] => []
  | c :: rest => if c = '"' then '"' :: '"' :: doubled rest else c :: doubled rest

def cell (text : List Char) : List Char :=
  if text.any needsQuotes then '"' :: doubled text ++ ['"'] else text

/-- Cells with commas between them, and a line feed. -/
def record : List (List Char) → List Char
  | [] => ['\n']
  | [last] => cell last ++ ['\n']
  | first :: rest => cell first ++ ',' :: record rest

/-- The column names as they are, then the rows. -/
def render (columns : List String) (rows : List (List String)) : String :=
  String.intercalate "," columns ++ "\n" ++
    String.ofList (rows.flatMap fun row ↦ record (row.map String.toList))

end PipedQuery.Shell.Csv
