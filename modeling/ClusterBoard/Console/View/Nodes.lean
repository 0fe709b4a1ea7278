import ClusterBoard.Console.App
import ClusterBoard.Console.View.Parts

/-!
# The nodes tab on screen

The nodes table, scrolled so that the selected row is on screen, and a summary.
-/

namespace ClusterBoard.Console.View

open Screen

/-- A value on one line, in the colour of its tone. -/
def toneCell (theme : Theme) (limit : Nat) (cell : Cell) : GridCell :=
  .ofText (Text.truncate (Text.singleLine cell.text) limit) (.ofText (theme.tone cell.tone))

/-- A node in the table. -/
def nodeGridRow (theme : Theme) (isSelected : Bool) (row : NodeRow) : GridRow :=
  let name :=
    if row.needsAttention then (Style.ofText theme.alert).inBold else .ofText theme.text
  { cells :=
      [.ofText row.name name, toneCell theme 80 row.spec, toneCell theme 60 row.k8s,
        toneCell theme 60 row.slurm]
    height := 1
    style := if isSelected then .ofBack theme.selectedBack else .plain }

/-- The columns of the nodes table. The name takes 20 columns, spec and statuses want 30, 25 and 25
hundredths of the width. Where room is short spec gives way first, then all three, and last the
name. -/
def nodeColumns (width : Nat) : List (Nat × Nat) :=
  let parts (name spec status : Nat) : List (Nat × Nat) :=
    sideBySide 60 [name, spec, status, status]
  if 115 ≤ width then parts 1200 (18 * width) (15 * width)
  else if 92 ≤ width then parts 1200 (30 * width - 1380) (15 * width)
  else if 23 ≤ width then parts 1200 (20 * (width - 23)) (20 * (width - 23))
  else parts (60 * (width - 3)) 0 0

/-- The rows of the table that are on screen in `visible` lines. -/
def visibleRows (theme : Theme) (tab : NodesTab) (visible : Nat) : List GridRow :=
  let offset := Selection.scrollOffset tab.selected visible tab.table.rows.length
  ((tab.table.rows.zipIdx.drop offset).take visible).map fun (row, place) =>
    nodeGridRow theme (place = tab.selected) row

/-- The table on screen. -/
def nodesGrid (theme : Theme) (tab : NodesTab) (a : Area) : Grid :=
  { heading := headingRow theme ["Name", "Spec", "K8s Status", "Slurm Status"]
    rows := visibleRows theme tab (a.height - 1)
    columns := nodeColumns a.width
    selected := none
    selectedStyle := .plain }

/-- The nodes tab drawn. -/
def drawNodes (app : App) (theme : Theme) (c : Canvas) (a : Area) : Canvas :=
  let tab := app.nodes
  let title := s!" Nodes ({tab.table.rows.length}) "
  let c := Frame.draw ⟨title, none, theme.focusedBorder⟩ c a
  if tab.table.rows.isEmpty then
    let text := if tab.updated.isNone then "Loading nodes..." else "No nodes found"
    (placeholder theme text).draw c a.inner
  else
    let (upper, lower) := a.inner.splitFoot 3
    let c := (nodesGrid theme tab upper).draw c upper
    let color := if tab.table.rows.any NodeRow.needsAttention then theme.warning else theme.border
    let summary := tab.table.summary?.getD ""
    (Paragraph.ofLines [.plain s!" {summary}  (Enter: full detail)"] (.ofText color)).draw c lower

end ClusterBoard.Console.View
