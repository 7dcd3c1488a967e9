import FlagEnum.Text.Width

/-!
# Tables

Tables drawn with ASCII characters: a header, a double line, and the rows with
lines between them. Columns are as wide as their widest line and nothing is
wrapped; a cell has several lines where its text has line feeds.
-/

namespace FlagEnum.Text

/-- A header and rows of as many cells. -/
structure Table where
  header : List String
  rows : List (List String)
deriving DecidableEq, Repr

namespace Table

/-- The lines of a cell. -/
def cellLines (cell : String) : List (List Char) :=
  cell.toList.splitOn '\n'

/-- The columns that a cell needs. An empty cell needs one. -/
def cellWidth (cell : String) : Nat :=
  ((cellLines cell).map width).foldl max 1

/-- The width of each column. -/
def columnWidths (table : Table) : List Nat :=
  table.rows.foldl (fun widths row => List.zipWith max widths (row.map cellWidth))
    (table.header.map cellWidth)

/-- A line with one blank on each side, filled up to the width of its column. -/
def pad (columnWidth : Nat) (line : List Char) : List Char :=
  ' ' :: line ++ List.replicate (columnWidth - width line) ' ' ++ [' ']

/-- One printed line of a row: the line of each cell at an index, or nothing
where a cell has fewer lines. -/
def rowLine (widths : List Nat) (cells : List (List (List Char))) (index : Nat) : List Char :=
  let padded := List.zipWith (fun columnWidth lines => pad columnWidth (lines.getD index []))
    widths cells
  '|' :: ['|'].intercalate padded ++ ['|']

/-- The printed lines of a row, as many as its highest cell has. -/
def rowLines (widths : List Nat) (row : List String) : List (List Char) :=
  let cells := row.map cellLines
  let height := (cells.map List.length).foldl max 0
  (List.range height).map (rowLine widths cells)

/-- A line across the table, from its corners, fill and crossings. -/
def rule (widths : List Nat) (corner fill crossing : Char) : List Char :=
  let segments := widths.map fun columnWidth => List.replicate (columnWidth + 2) fill
  corner :: [crossing].intercalate segments ++ [corner]

/-- The printed lines of a table. -/
def lines (table : Table) : List (List Char) :=
  let widths := table.columnWidths
  let border := rule widths '+' '-' '+'
  let rows := table.rows.map (rowLines widths)
  [border] ++ rowLines widths table.header ++ [rule widths '+' '=' '='] ++
    [rule widths '|' '-' '+'].intercalate rows ++ [border]

/-- The printed table, without a line feed at its end. -/
def render (table : Table) : String :=
  String.ofList (['\n'].intercalate table.lines)

end Table

end FlagEnum.Text
