import FleetScript.Text.Blank
import FleetScript.Text.Width

/-!
Tables drawn with plain characters: a header, and rows with lines between them. A column is as
wide as its widest line, and a cell with several lines makes its row as high.
-/

namespace FleetScript.Text

/-- A table: the header and the rows, each a list of cells. -/
structure Grid where
  header : List String
  rows : List (List String)
  deriving DecidableEq

namespace Grid

/-! ### Measures -/

def cellLines (cell : String) : List (List Char) := fields '\n' cell.toList

/-- The width of a cell: that of its widest line. -/
def cellWidth (cell : String) : Nat := ((cellLines cell).map Width.ofText).foldl max 0

/-- The widths of the columns; a column is one wide at least. -/
def widths (g : Grid) : List Nat :=
  g.rows.foldl (fun ws row => List.zipWith max ws (row.map cellWidth))
    (g.header.map fun cell => max 1 (cellWidth cell))

/-! ### Lines -/

/-- A horizontal line with a left end, a fill, a crossing and a right end. -/
def rule (ws : List Nat) (left fill crossing right : Char) : List Char :=
  left :: [crossing].intercalate (ws.map fun w => List.replicate (w + 2) fill) ++ [right]

/-- A line of a cell with a blank on both sides, filled up to the width of the column. -/
def padded (w : Nat) (line : List Char) : List Char :=
  ' ' :: line ++ List.replicate (w - Width.ofText line) ' ' ++ [' ']

def rowLines (ws : List Nat) (row : List String) : List (List Char) :=
  let cells := row.map cellLines
  let height := (cells.map List.length).foldl max 0
  (List.range height).map fun i =>
    let shown := List.zipWith (fun w cell => padded w (cell[i]?.getD [])) ws cells
    '|' :: ['|'].intercalate shown ++ ['|']

/-! ### Tables -/

def drawnLines (g : Grid) : List (List Char) :=
  let ws := g.widths
  let border := rule ws '+' '-' '+' '+'
  let body := [rule ws '|' '-' '+' '|'].intercalate (g.rows.map (rowLines ws))
  [border] ++ rowLines ws g.header ++ [rule ws '+' '=' '=' '+'] ++ body ++ [border]

/-- A table as a text, its lines without an end of the last one. -/
def draw (g : Grid) : String := String.ofList (['\n'].intercalate g.drawnLines)

example : draw ⟨["Host", "Detail"], [["r1", ""], ["r2", "a\nbc"]]⟩ =
    "+------+--------+\n| Host | Detail |\n+===============+\n| r1   |        |\n" ++
    "|------+--------|\n| r2   | a      |\n|      | bc     |\n+------+--------+" := by
  decide +kernel

end Grid

end FleetScript.Text
