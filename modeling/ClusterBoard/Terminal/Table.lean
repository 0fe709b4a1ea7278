import ClusterBoard.Terminal.Wrap

/-!
# Tables on a terminal

A table has a frame with round corners and a line under its head, whose cells are centred. A table
that is too wide takes one column at a time from each of its columns in turn until it fits; then
the cells are wrapped and every column is as wide as what it holds.
-/

namespace ClusterBoard.Terminal

/-- The cells of a table: the head first, all rows of one length. -/
structure Table where
  head : List String
  rows : List (List String)
  deriving Repr

/-- One blank stands on each side of a cell's text. -/
def padding : Nat := 2

/-- Rows of cells as characters. -/
abbrev Grid := List (List (List Char))

/-- The columns that a cell takes. -/
def cellWidth (cell : List Char) : Nat := ((paintedLines cell).map lineWidth).foldl max 0

/-- The width that each column needs, padding included. -/
def columnWidths (columns : Nat) (grid : Grid) : List Nat :=
  (List.range columns).map fun i =>
    grid.foldl (fun widest row => max widest (cellWidth ((row[i]?).getD []))) 0 + padding

/-- The width of a table with its frame. -/
def totalWidth (widths : List Nat) : Nat := widths.foldr (· + ·) 0 + widths.length + 1

/-- One turn over the columns: each that is wider than its padding gives up one, as long as there is
an excess. -/
def shrinkTurn : Nat → List Nat → Nat × List Nat
  | excess, [] => (excess, [])
  | 0, widths => (0, widths)
  | excess + 1, width :: rest =>
    if padding < width then
      let (left, rest) := shrinkTurn excess rest
      (left, (width - 1) :: rest)
    else
      let (left, rest) := shrinkTurn (excess + 1) rest
      (left, width :: rest)

/-- Turns until nothing is in excess; every turn but the last one uses up at least one. -/
def shrinkTurns : Nat → Nat → List Nat → List Nat
  | 0, _, widths => widths
  | turns + 1, excess, widths =>
    let (left, widths) := shrinkTurn excess widths
    if left = 0 then widths else shrinkTurns turns left widths

/-- The widths of a table that is to have at most `limit` columns. -/
def shrink (limit : Nat) (widths : List Nat) : List Nat :=
  let excess := totalWidth widths - limit
  shrinkTurns excess excess widths

/-- A cell in a column of the given width, padding included. -/
def fitCell (width : Nat) (cell : List Char) : List Char :=
  let room := width - padding
  if textWidth cell ≤ room then cell else wrapText room cell

/-- The cells wrapped so that the table has at most `limit` columns. -/
def fit (limit : Nat) (columns : Nat) (grid : Grid) : Grid :=
  let widths := columnWidths columns grid
  if totalWidth widths ≤ limit then grid
  else
    let widths := shrink limit widths
    grid.map fun row => (widths.zip row).map fun (width, cell) => fitCell width cell

/-- A horizontal line of the frame. -/
def rule (left middle right : Char) (widths : List Nat) : List Char :=
  left :: Text.joinWith [middle] (widths.map fun n => List.replicate n '─') ++ [right]

/-- A line of a cell in a column of the given width; `block` is the width of the whole cell, which
stands in the middle if it is centred. -/
def padLine (centred : Bool) (width block : Nat) (line : List Char) : List Char :=
  let room := width - padding
  let left := if centred then (room - block) / 2 else 0
  let right := room - left - lineWidth line
  ' ' :: List.replicate left ' ' ++ line ++ List.replicate right ' ' ++ [' ']

/-- A row as its lines on the terminal. -/
def rowLines (centred : Bool) (widths : List Nat) (row : List (List Char)) : List (List Char) :=
  let cells := row.map fun cell => (cellWidth cell, paintedLines cell)
  let height := cells.foldl (fun h (_, lines) => max h lines.length) 1
  (List.range height).map fun i =>
    '│' :: Text.joinWith ['│'] ((widths.zip cells).map fun (width, block, lines) =>
      match lines[i]? with
      | some line => padLine centred width block line
      | none => List.replicate width ' ') ++ ['│']

/-- The table with at most `limit` columns, without a line feed at its end. -/
def Table.render (limit : Nat) (table : Table) : String :=
  let columns := table.head.length
  let grid := fit limit columns ((table.head :: table.rows).map (·.map String.toList))
  let widths := columnWidths columns grid
  let head := rowLines true widths (grid.headD [])
  let body := grid.tail.flatMap (rowLines false widths)
  let lines :=
    rule '╭' '┬' '╮' widths :: head ++ rule '├' '┼' '┤' widths :: body ++ [rule '╰' '┴' '╯' widths]
  String.ofList (Text.joinWith ['\n'] lines)

end ClusterBoard.Terminal
