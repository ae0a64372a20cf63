import PipedQuery.Text.Cut
import PipedQuery.Text.Width

/-!
Tables of ASCII lines. A column is as wide as its widest line, every cell is set to the left with
one blank on each side, and a cell of several lines makes its row as high.
-/

set_option autoImplicit false
set_option relaxedAutoImplicit false

namespace PipedQuery.Shell.Grid

abbrev Cell := List String

def cell (text : String) : Cell :=
  Text.split '\n' text

def cellWidth (cell : Cell) : Nat :=
  cell.foldl (fun widest line ↦ max widest (Text.width line)) 0

/-- The widths of the columns of a table. -/
def widths : List (List Cell) → List Nat
  | [] => []
  | [row] => row.map cellWidth
  | row :: rest => List.zipWith max (row.map cellWidth) (widths rest)

def filler (mark : Char) (count : Nat) : String :=
  String.ofList (List.replicate count mark)

/-- A line of marks between the ends, with joints between the columns. -/
def rule (ends joint mark : Char) (widths : List Nat) : String :=
  String.singleton ends ++
    String.intercalate (String.singleton joint) (widths.map fun width ↦ filler mark (width + 2)) ++
    String.singleton ends

def padded (width : Nat) (line : String) : String :=
  " " ++ line ++ filler ' ' (width - Text.width line) ++ " "

def height (row : List Cell) : Nat :=
  row.foldl (fun highest cell ↦ max highest cell.length) 0

/-- One line of a row. -/
def rowLine (widths : List Nat) (row : List Cell) (place : Nat) : String :=
  "|" ++ String.intercalate "|"
    (List.zipWith (fun width (cell : Cell) ↦ padded width (cell[place]?.getD "")) widths row) ++ "|"

def rowLines (widths : List Nat) (row : List Cell) : List String :=
  (List.range (height row)).map (rowLine widths row)

/-- The rows with a rule between every two. -/
def body (widths : List Nat) : List (List Cell) → List String
  | [] => []
  | [row] => rowLines widths row
  | row :: rest => rowLines widths row ++ rule '|' '+' '-' widths :: body widths rest

def render (columns : List String) (rows : List (List String)) : String :=
  let header := columns.map cell
  let cells := rows.map (·.map cell)
  let widths := widths (header :: cells)
  String.intercalate "\n"
    ([rule '+' '+' '-' widths] ++ rowLines widths header ++ [rule '+' '=' '=' widths] ++
      body widths cells ++ [rule '+' '+' '-' widths])

end PipedQuery.Shell.Grid
