import ClusterBoard.Board.NodeTable
import ClusterBoard.Board.Pager
import ClusterBoard.Console.Selection

/-!
# The two tabs

The jobs tab shows one page of one user's jobs, the nodes tab the nodes table. Each keeps what it
last loaded. The page on screen remembers which cells are open, until it is rendered anew.
-/

namespace ClusterBoard.Console

/-- The tabs. -/
inductive Tab where
  | jobs
  | nodes
  deriving DecidableEq, Repr

namespace Tab

/-- The tab of a name in any case; anything unknown means the jobs. -/
def ofName (name : String) : Tab := if name.map Char.toLower = "nodes" then .nodes else .jobs

/-- The tab's title. -/
def label : Tab → String
  | .jobs => "Jobs"
  | .nodes => "Nodes"

end Tab

/-- The jobs tab. -/
structure JobsTab where
  pager : Pager
  page : PageView
  selected : Nat
  /-- When the jobs were fetched. -/
  updated : Option Int
  deriving Repr

namespace JobsTab

/-- Nothing loaded. -/
def initial : JobsTab := ⟨.initial, .blank 1, 0, none⟩

/-- The page rendered anew. -/
def rerender (tab : JobsTab) : JobsTab :=
  let page := tab.pager.view
  { tab with page, selected := Selection.clamp page.rows.length tab.selected }

/-- Fresh jobs. In the background the user, the page and the row stay as far as they can. -/
def load (tab : JobsTab) (jobs : Collection JobRecord) (fetchedAt : Int) (background : Bool) :
    JobsTab :=
  let tab :=
    if background then { tab with pager := tab.pager.refresh jobs }
    else { tab with pager := .ofJobs jobs, selected := Selection.top }
  { tab with updated := some fetchedAt }.rerender

/-- A move of the pager, if there is one, and whether it changes the page on screen. A changed page
is rendered anew, from the first row. -/
def moved (tab : JobsTab) (changes : Pager → Bool) : Option Pager → JobsTab × Bool
  | none => (tab, false)
  | some pager =>
    let tab := { tab with pager }
    if changes pager then ({ tab with selected := Selection.top }.rerender, true) else (tab, false)

/-- The next page. -/
def nextPage (tab : JobsTab) : JobsTab × Bool := tab.moved (fun _ => true) tab.pager.nextPage?

/-- The previous page. -/
def previousPage (tab : JobsTab) : JobsTab × Bool :=
  tab.moved (fun _ => true) tab.pager.previousPage?

/-- The next user's first page, if the user has jobs. -/
def nextUser (tab : JobsTab) : JobsTab × Bool :=
  tab.moved (·.group?.isSome) tab.pager.nextUser?

/-- The previous user's first page, if the user has jobs. -/
def previousUser (tab : JobsTab) : JobsTab × Bool :=
  tab.moved (·.group?.isSome) tab.pager.previousUser?

/-- The selected row. -/
def selectedRow? (tab : JobsTab) : Option JobRow := tab.page.rows[tab.selected]?

/-- The job of the selected row. -/
def selectedJob? (tab : JobsTab) : Option JobRecord :=
  tab.selectedRow?.bind fun row => tab.pager.jobs.find? row.id.text

/-- A change of the selected row, and whether there is such a row. -/
def changeRow (tab : JobsTab) (change : JobRow → JobRow) : JobsTab × Bool :=
  match tab.selectedRow? with
  | some _ =>
    ({ tab with page := { tab.page with rows := tab.page.rows.modify tab.selected change } }, true)
  | none => (tab, false)

/-- The selected row's node list opened or closed. -/
def toggleNodes (tab : JobsTab) : JobsTab × Bool := tab.changeRow JobRow.toggleNodes

/-- The selected row's history opened or closed. -/
def toggleHistory (tab : JobsTab) : JobsTab × Bool := tab.changeRow JobRow.toggleHistory

/-- Another row, from the number of rows and the place. -/
def select (tab : JobsTab) (move : Nat → Nat → Nat) : JobsTab :=
  { tab with selected := move tab.page.rows.length tab.selected }

end JobsTab

/-- The nodes tab. -/
structure NodesTab where
  nodes : Collection NodeRecord
  table : NodeTable
  selected : Nat
  /-- When the nodes were fetched. -/
  updated : Option Int
  deriving Repr

namespace NodesTab

/-- Nothing loaded. -/
def initial : NodesTab := ⟨.empty, .empty, 0, none⟩

/-- Fresh nodes; the row stays as far as it can. -/
def load (tab : NodesTab) (nodes : Collection NodeRecord) (fetchedAt : Int) : NodesTab :=
  let table := NodeTable.ofNodes nodes
  ⟨nodes, table, Selection.clamp table.rows.length tab.selected, some fetchedAt⟩

/-- The selected row. -/
def selectedRow? (tab : NodesTab) : Option NodeRow := tab.table.rows[tab.selected]?

/-- The node of the selected row. -/
def selectedNode? (tab : NodesTab) : Option NodeRecord :=
  tab.selectedRow?.bind fun row => tab.nodes.find? row.id.text

/-- Another row, from the number of rows and the place. -/
def select (tab : NodesTab) (move : Nat → Nat → Nat) : NodesTab :=
  { tab with selected := move tab.table.rows.length tab.selected }

end NodesTab

end ClusterBoard.Console
