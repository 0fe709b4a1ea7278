import ClusterBoard.Screen.Layout
import ClusterBoard.Screen.Text

/-!
# Grids

A grid shows a heading and below it rows of cells, in columns. Rows may have several lines; one
that does not fit as a whole is not shown. The rows on screen are chosen so that the selected one is
among them.
-/

namespace ClusterBoard.Screen

/-- A text in a grid, cut to its column and to the lines of its row. -/
structure GridCell where
  lines : List Line
  style : Style
  deriving Repr

namespace GridCell

/-- A text, line by line. -/
def ofText (text : String) (style : Style) : GridCell := ⟨linesOf text .plain, style⟩

/-- The cell drawn. -/
def draw (cell : GridCell) (c : Canvas) (a : Area) : Canvas :=
  (c.restyle a cell.style).putLines a cell.lines

end GridCell

/-- A row of a grid. -/
structure GridRow where
  cells : List GridCell
  height : Nat
  style : Style
  deriving Repr

/-- A grid. -/
structure Grid where
  heading : GridRow
  rows : List GridRow
  /-- The first column and the width of each column. -/
  columns : List (Nat × Nat)
  /-- The place of the selected row. -/
  selected : Option Nat
  selectedStyle : Style
  deriving Repr

/-- The rows from `first` up to `last` and their lines. -/
structure RowWindow where
  first : Nat
  last : Nat
  height : Nat
  deriving DecidableEq, Repr

namespace RowWindow

/-- As many of the first rows as fit. -/
def fill (limit : Nat) (w : RowWindow) : List Nat → RowWindow
  | [] => w
  | height :: rest =>
    if limit < w.height + height then w
    else fill limit { w with last := w.last + 1, height := w.height + height } rest

/-- Rows taken away at the top until the others fit; `heights` are those of the rows at the top. -/
def dropTop (limit : Nat) (w : RowWindow) : List Nat → RowWindow
  | [] => w
  | height :: rest =>
    if limit < w.height then
      dropTop limit { w with first := w.first + 1, height := w.height - height } rest
    else w

/-- One more row at the bottom, at the cost of rows at the top. -/
def extend (heights : List Nat) (limit : Nat) (w : RowWindow) (height : Nat) : RowWindow :=
  dropTop limit { w with last := w.last + 1, height := w.height + height } (heights.drop w.first)

/-- The rows that are shown of rows of these heights, so that the selected one is among them if it
fits at all. -/
def around (heights : List Nat) (limit : Nat) (selected : Option Nat) : RowWindow :=
  let start := fill limit ⟨0, 0, 0⟩ heights
  match selected with
  | none => start
  | some place =>
    let place := min place (heights.length - 1)
    let w := ((heights.take (place + 1)).drop start.last).foldl (extend heights limit) start
    if place < w.first then ⟨place, place, 0⟩ else w

end RowWindow

namespace Grid

/-- The cells of a row drawn. -/
def drawCells (grid : Grid) (c : Canvas) (a : Area) (cells : List GridCell) : Canvas :=
  (grid.columns.zip cells).foldl (fun c ((x, width), cell) =>
    cell.draw c ⟨a.x + x, a.y, width, a.height⟩) c

/-- Rows drawn one below the other, each with its place. -/
def drawRows (grid : Grid) (a : Area) : Nat → List (GridRow × Nat) → Canvas → Canvas
  | _, [], c => c
  | y, (row, place) :: rest, c =>
    let rowArea : Area := ⟨a.x, y, a.width, row.height⟩
    let c := grid.drawCells (c.restyle rowArea row.style) rowArea row.cells
    let c := if grid.selected = some place then c.restyle rowArea grid.selectedStyle else c
    drawRows grid a (y + row.height) rest c

/-- The grid drawn. -/
def draw (grid : Grid) (c : Canvas) (a : Area) : Canvas :=
  if a.isEmpty then c
  else
    let headArea := a.lines 0 1
    let body := a.lines 1 (a.height - 1)
    let c := grid.drawCells (c.restyle headArea grid.heading.style) headArea grid.heading.cells
    let w := RowWindow.around (grid.rows.map GridRow.height) body.height grid.selected
    drawRows grid body body.y ((grid.rows.zipIdx.take w.last).drop w.first) c

end Grid

end ClusterBoard.Screen
