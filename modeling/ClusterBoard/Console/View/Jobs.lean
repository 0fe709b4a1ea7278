import ClusterBoard.Console.App
import ClusterBoard.Console.View.Parts

/-!
# The jobs tab on screen

The users, one page of the focused user's jobs, and where the page lies.
-/

namespace ClusterBoard.Console.View

open Screen

/-- The most lines of a text in a cell, apart from the note of what is cut. -/
def greatestCellLines : Nat := 6

/-- The users, the focused one marked. -/
def usersLine (theme : Theme) (nav : Navigation) (focused : Option String) : Line :=
  ⟨"Users: ", .ofText theme.border⟩ :: nav.entries.flatMap fun entry =>
    let span : Span :=
      if some entry.user = focused then
        ⟨s!"[{entry.label}]", (Style.ofText theme.highlight).inBold⟩
      else ⟨entry.label, .ofText theme.text⟩
    [span, .plain "  "]

/-- A node in a cell: both names and the ports of its ranks. -/
def nodeText (line : NodeLine) : String :=
  let names := line.logical.getD "?" ++ " | " ++ line.physical.getD "?"
  match line.ranks.head?, line.ranks.getLast? with
  | some first, some last => names ++ s!" | :{first.port}-:{last.port}"
  | _, _ => names

/-- The number of nodes of a list. -/
def nodeCount : NodeListView → Nat
  | .nodes lines => lines.length
  | _ => 0

/-- The text of a node list, one node a line if it is open. -/
def nodeListText (cell : Collapsible NodeListView) : String :=
  match cell.visible? with
  | none => s!"▸ {nodeCount cell.content} node(s)"
  | some (.nodes lines) =>
    Text.headLines (Text.join "\n" (lines.map nodeText)) greatestCellLines
  | some view => view.placeholder?.getD ""

/-- The text of a history. -/
def historyText (cell : Collapsible String) : String :=
  match cell.visible? with
  | none => "▸ history"
  | some history => Text.headLines history greatestCellLines

/-- The lines that a row takes: as many as its longer list, and one at least. -/
def rowHeight (row : JobRow) : Nat :=
  max 1 (max (Text.lineCount (nodeListText row.nodes).toList)
    (Text.lineCount (historyText row.history).toList))

/-- A job in the table. What is closed is dimmed. -/
def jobGridRow (theme : Theme) (row : JobRow) : GridRow :=
  let dim := Style.ofText theme.border
  { cells :=
      [.ofText row.id.text .plain,
        .ofText row.state.text (.ofText (theme.tone row.state.tone)),
        .ofText (Text.truncate (Text.singleLine row.spec) 60) .plain,
        .ofText (nodeListText row.nodes) (if row.nodes.isOpen then .ofText theme.link else dim),
        .ofText (historyText row.history)
          (if row.history.isOpen then .ofText theme.text else dim)]
    height := min (rowHeight row) (Nat.pow 2 16 - 1)
    style := .plain }

/-- The columns of the jobs table. ID, state and nodes want 10, 10 and 36 columns, spec and history
20 at least and all that is left. Where room is short the nodes go down to 20, then ID and state to
nothing, then the nodes, and last spec and history. -/
def jobColumns (width : Nat) : List (Nat × Nat) :=
  let parts (id nodes rest : Nat) : List (Nat × Nat) := sideBySide 2 [id, id, rest, nodes, rest]
  if 100 ≤ width then parts 20 72 (width - 60)
  else if 84 ≤ width then parts 20 (2 * (width - 64)) 40
  else if 64 ≤ width then parts (width - 64) 40 40
  else if 44 ≤ width then parts 0 (2 * (width - 44)) 40
  else parts 0 0 (width - 4)

/-- The table of the page. -/
def jobsGrid (theme : Theme) (tab : JobsTab) (width : Nat) : Grid :=
  { heading := headingRow theme ["ID", "State", "Spec", "Nodes", "Status History"]
    rows := tab.page.rows.map (jobGridRow theme)
    columns := jobColumns width
    selected := some tab.selected
    selectedStyle := .ofBack theme.selectedBack }

/-- Where the page lies, between the ways to its neighbours. -/
def pageLine (theme : Theme) (page : PageView) : Line :=
  let control (label : String) (disabled : Bool) : Span :=
    ⟨label, if disabled then .ofText theme.border else (Style.ofText theme.highlight).inBold⟩
  [control "◀ Previous" page.previousDisabled, .plain "  ",
    ⟨page.status.getD "", .ofText theme.text⟩, .plain "  ",
    control "Next ▶" page.nextDisabled]

/-- The jobs tab drawn. -/
def drawJobs (app : App) (theme : Theme) (c : Canvas) (a : Area) : Canvas :=
  let tab := app.jobs
  let c := Frame.draw ⟨s!" Jobs ({app.scope.name}) ", none, theme.focusedBorder⟩ c a
  if tab.pager.jobs.isEmpty then
    let text := if tab.updated.isNone then "Loading jobs..." else "No jobs found"
    (placeholder theme text).draw c a.inner
  else
    let (upper, middle, lower) := a.inner.splitMiddle 3
    let users := usersLine theme tab.pager.navigation tab.pager.user
    let c := (Paragraph.ofLines [users] .plain).draw c upper
    let c :=
      if tab.page.rows.isEmpty then (placeholder theme "No jobs for this user").draw c middle
      else (jobsGrid theme tab middle.width).draw c middle
    Paragraph.draw ⟨[pageLine theme tab.page], .plain, .center, false⟩ c lower

end ClusterBoard.Console.View
