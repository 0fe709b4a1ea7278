import ClusterBoard.Board.NodeTable
import ClusterBoard.Board.Pager
import ClusterBoard.Terminal.Table

/-!
# The board as terminal text

The jobs page, the nodes table and the details of one record, in colours. Rank links go through
`resolve`, which is the identity where no server is known.
-/

namespace ClusterBoard.Terminal

/-- Tables are at most this wide. -/
def tableWidth : Nat := 200

/-- A text in the colour of its tone. -/
def paintTone (tone : Tone) (text : String) : String :=
  match tone with
  | .normal => text
  | .good => Paint.green.on text
  | .alert => Paint.red.on text

/-- A cell in the colour of its tone. -/
def paintCell (cell : Cell) : String := paintTone cell.tone cell.text

/-- A line of a node list: both names, and where the ranks are reached. -/
def nodeLineText (resolve : String → String) (line : NodeLine) : String :=
  let names := Paint.cyan.on (line.logical.getD "?") ++ " | " ++ line.physical.getD "?"
  match line.ranks.head?, line.ranks.getLast? with
  | some first, some last =>
    names ++ s!" | ranks {first.rank}-{last.rank}: {resolve first.href} .. :{last.port}"
  | _, _ => names

/-- A node cell in its present state. -/
def nodeListText (resolve : String → String) (cell : Collapsible NodeListView) : String :=
  match cell.visible? with
  | none => Paint.dimmed.on "▸ nodes"
  | some (.nodes lines) => Text.join "\n" (lines.map (nodeLineText resolve))
  | some view => Paint.yellow.on (view.placeholder?.getD "")

/-- A history cell in its present state. -/
def historyText (cell : Collapsible String) : String :=
  cell.visible?.getD (Paint.dimmed.on "▸ history")

/-- The users on one line, the focused one marked. -/
def navigationText (nav : Navigation) (focused : Option String) : String :=
  Text.join "  " (nav.entries.map fun entry =>
    if focused = some entry.user then "[" ++ Paint.cyan.on (Paint.bold.on entry.label) ++ "]"
    else entry.label)

/-- The table of a page's rows. -/
def jobsTable (resolve : String → String) (rows : List JobRow) : Table :=
  { head := ["ID", "State", "Spec", "Nodes", "Status History"]
    rows := rows.map fun row =>
      [row.id.text, paintCell row.state, row.spec, nodeListText resolve row.nodes,
        historyText row.history] }

/-- The page numbers to ask for next, as options of the command line; numbers have 64 bits. -/
def pageHints (view : PageView) : List String :=
  (if view.previousDisabled then [] else [s!"--page {view.page - 1}"]) ++
    (if view.nextDisabled then [] else [s!"--page {(view.page + 1) % Nat.pow 2 64}"])

/-- The status line of a page, with the pages that can be asked for. -/
def statusText (view : PageView) : String :=
  match view.status with
  | none => ""
  | some status =>
    let hints := pageHints view
    Paint.bold.on status ++
      (if hints.isEmpty then "" else Paint.dimmed.on ("  (" ++ Text.join ", " hints ++ ")")) ++ "\n"

/-- A jobs page. -/
def jobsPageText (resolve : String → String) (nav : Navigation) (focused : Option String)
    (view : PageView) : String :=
  let users :=
    if nav.isEmpty then "" else Paint.bold.on "Users:" ++ " " ++ navigationText nav focused ++ "\n"
  let body :=
    if view.rows.isEmpty then Paint.yellow.on "No jobs found"
    else (jobsTable resolve view.rows).render tableWidth
  users ++ body ++ "\n" ++ statusText view

/-- The line that reports a failed fetch. -/
def fetchErrorText (message : String) : String := Paint.bold.on (Paint.red.on message) ++ "\n"

/-- The nodes table. -/
def nodesText (table : NodeTable) : String :=
  match table.summary? with
  | none => Paint.yellow.on "No nodes found"
  | some summary =>
    let drawn : Table :=
      { head := ["Name", "Spec", "K8s Status", "Slurm Status"]
        rows := table.rows.map fun row =>
          [row.name, paintCell row.spec, paintCell row.k8s, paintCell row.slurm] }
    drawn.render tableWidth ++ "\n" ++ Paint.bold.on summary

/-- A titled part of the details. -/
def sectionText (title body : String) : String :=
  "\n" ++ Paint.underline.on (Paint.bold.on title) ++ "\n" ++ body ++ "\n"

/-- The head of the details. -/
def headerText (title : String) : String :=
  Paint.bold.on (Paint.blue.on (Text.truncate title 78)) ++ "\n"

/-- A labelled line of the details. -/
def labelledText (label value : String) : String :=
  "  " ++ Paint.bold.on label ++ " " ++ value ++ "\n"

/-- The fields that took their default, if there are any. -/
def defectsText (defects : List Defect) : String :=
  if defects.isEmpty then ""
  else
    sectionText "Defaulted fields"
      (Paint.yellow.on (Text.join "\n" (defects.map fun d => "  - " ++ d.message)))

/-- The details of a job, its history shown. -/
def jobDetailsText (resolve : String → String) (job : JobRecord) : String :=
  let row := JobRow.ofJob job
  headerText ("Job " ++ job.id.text) ++ labelledText "User:" job.user ++
    labelledText "State:" (paintCell row.state) ++
    labelledText "Nodes:" (toString job.nodeCount) ++
    sectionText "Node list" (nodeListText resolve row.nodes) ++ sectionText "Spec" row.spec ++
    sectionText "Status history" (historyText row.history.toggle) ++ defectsText job.defects

/-- A status block of a node's details. -/
def blockText (title : String) (block : StatusBlock) : String :=
  sectionText title <|
    match block.raw with
    | some raw => paintTone block.tone raw.pretty
    | none => paintTone .alert unknownStatus

/-- The details of a node. -/
def nodeDetailsText (node : NodeRecord) : String :=
  headerText ("Node " ++ node.name) ++
    labelledText "Goal state:" (paintTone node.specTone node.goal.text) ++
    blockText "K8s status" node.k8s ++ blockText "Slurm status" node.slurm ++
    (match node.spec with
      | some spec => sectionText "Spec" spec.pretty
      | none => "") ++
    defectsText node.defects

end ClusterBoard.Terminal
