import Expurgate.Unicode.Width

/-!
Tables with a frame around them and a double line below the header. A cell may have several lines.
-/

namespace Expurgate.Table

def cellLines (s : String) : List (List Char) := s.toList.splitOn '\n'

/-- A column of cells, each with its lines. -/
abbrev Cells := List (List (List Char))

def width (column : Cells) : Nat :=
  (column.flatten.map Unicode.textWidth).foldl max 0

def filled (width : Nat) (s : List Char) : List Char :=
  s ++ List.replicate (width - Unicode.textWidth s) ' '

/-- A line through all cells of a row. -/
def rowLine (widths : List Nat) (cells : Cells) (i : Nat) : String :=
  let parts := (widths.zip cells).map fun (w, cell) => filled w (cell.getD i [])
  String.ofList ('|' :: ' ' :: (List.intercalate [' ', ' ', ' '] parts ++ [' ', '|', '\n']))

def row (widths : List Nat) (cells : Cells) : String :=
  let height := (cells.map List.length).foldl max 0
  String.join ((List.range height).map (rowLine widths cells))

def rule (widths : List Nat) (c : Char) : String :=
  let inner := widths.foldl (· + ·) 0 + 3 * (widths.length - 1) + 2
  String.ofList ('+' :: List.replicate inner c ++ ['+', '\n'])

/-- A table of texts. Every row has as many cells as the header. Columns are as wide as their widest
cell, measured on the terminal and not in characters. -/
def render (header : List String) (rows : List (List String)) : String :=
  let top := header.map cellLines
  let body := rows.map (·.map cellLines)
  let widths := (List.range header.length).map fun i =>
    width ((top :: body).map (·.getD i []))
  rule widths '-' ++ row widths top ++ rule widths '=' ++ String.join (body.map (row widths))
    ++ rule widths '-'

end Expurgate.Table
