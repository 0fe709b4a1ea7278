import ClusterBoard.Board.NodeTable
import ClusterBoard.Board.Pager
import ClusterBoard.Page.Markup

/-!
# The pages

The jobs page and the nodes page as documents that stand alone. The regions `jobsTable`,
`nodesTable`, `userNameNav`, `pagination`, `pageInfo` and `errorMessage` keep their names, and cells
open and close without a script. All that comes from a record is a text piece.
-/

namespace ClusterBoard.Page

/-- The style sheet of both pages. -/
def style : String :=
  "\n    body \x7b font-family: sans-serif; margin: 1em; \x7d\n" ++
  "    table \x7b border-collapse: collapse; width: 100%; \x7d\n" ++
  "    th, td \x7b border: 1px solid #ccc; padding: 4px; vertical-align: top; " ++
    "text-align: left; \x7d\n" ++
  "    pre \x7b margin: 0; \x7d\n" ++
  "    #userNameNav button.selected \x7b font-weight: bold; \x7d\n" ++
  "    .node-item .separator \x7b margin: 0 0.5em; color: #888; \x7d\n" ++
  "    .rank-link \x7b margin-right: 0.4em; \x7d\n" ++
  "    #errorMessage \x7b color: red; \x7d\n"

/-- The style of a cell. -/
def toneAttribute (tone : Tone) : String :=
  match tone.cssColor? with
  | some color => " style=\"color: " ++ color ++ "\""
  | none => ""

/-- A document around its body. -/
def document (title : String) (body : List Piece) : List Piece :=
  [.markup "<!DOCTYPE html>\n<html lang=\"en\">\n<head>\n    <meta charset=\"UTF-8\">\n    <title>",
    .text title, .markup "</title>\n    <style>", .markup style,
    .markup "</style>\n</head>\n<body>\n"] ++
    body ++ [.markup "\n</body>\n</html>\n"]

/-- The region that reports a failed fetch. -/
def errorRegion (error : Option String) : List Piece :=
  [.markup "<div id=\"errorMessage\">", .text (error.getD ""), .markup "</div>"]

/-- A text that keeps its lines. -/
def preformatted (text : String) : List Piece := [.markup "<pre>", .text text, .markup "</pre>"]

/-- A cell with its emphasis around a text that keeps its lines. -/
def cellOf (tone : Tone) (text : String) : List Piece :=
  .markup ("<td" ++ toneAttribute tone ++ ">") :: preformatted text ++ [.markup "</td>"]

/-- A cell with its text. -/
def plainCell (cell : Cell) : List Piece := cellOf cell.tone cell.text

/-- A cell with its text in quotes, such as `"RUNNING"`. -/
def quotedCell (cell : Cell) : List Piece :=
  cellOf cell.tone (String.ofList (Json.quotedChars cell.text))

/-- A status cell; that of a missing block is in quotes. -/
def statusCell (cell : Cell) : List Piece :=
  if cell.text = unknownStatus then quotedCell cell else plainCell cell

/-- The mark of an open element. -/
def openMark (d : Disclosure) : String := if d.isOpen then " open" else ""

/-- A history cell. -/
def historyCell (cell : Collapsible String) : List Piece :=
  let name := cell.state.className
  .markup ("<td class=\"collapsible " ++ name ++ "\"><details class=\"collapsible " ++ name ++
      "\"" ++ openMark cell.state ++ "><summary>history</summary>") ::
    preformatted cell.content ++ [.markup "</details></td>"]

/-- The link of a rank. -/
def rankLink (link : RankLink) : List Piece :=
  [.markup "<a href=\"", .text link.href, .markup "\" class=\"rank-link\">",
    .markup (toString link.rank), .markup "</a>"]

/-- A line of a node list. -/
def nodeLine (line : NodeLine) : List Piece :=
  [.markup "<div class=\"node-item\"><span class=\"node-name\">", .text (line.logical.getD ""),
    .markup ("</span><span class=\"separator\">|</span>" ++
      "<span class=\"node-physical-name\">"),
    .text (line.physical.getD ""),
    .markup ("</span><span class=\"separator\">|</span><span class=\"rank-container\">")] ++
    line.ranks.flatMap rankLink ++ [.markup "</span></div>"]

/-- The content of a node cell. -/
def nodeListBody : NodeListView → List Piece
  | .nodes lines => lines.flatMap nodeLine
  | view => [.markup ("<p>" ++ view.placeholder?.getD "" ++ "</p>")]

/-- A node cell. -/
def nodeListCell (cell : Collapsible NodeListView) : List Piece :=
  .markup ("<td class=\"collapsible " ++ cell.state.className ++
      "\"><details class=\"node-list\"" ++ openMark cell.state ++ "><summary>nodes</summary>") ::
    nodeListBody cell.content ++ [.markup "</details></td>"]

/-- A row of the jobs table. -/
def jobRow (row : JobRow) : List Piece :=
  [.markup "<tr><td>", .text row.id.text, .markup "</td>"] ++ quotedCell row.state ++
    .markup "<td>" :: preformatted row.spec ++ .markup "</td>" :: nodeListCell row.nodes ++
    historyCell row.history ++ [.markup "</tr>"]

/-- The button of a user. -/
def navButton (focused : Option String) (entry : NavEntry) : List Piece :=
  [.markup "<button data-user=\"", .text entry.user,
    .markup ("\"" ++ (if focused = some entry.user then " class=\"selected\"" else "") ++ ">"),
    .text entry.label, .markup "</button>"]

/-- The buttons of all users. -/
def navigationRegion (nav : Navigation) (focused : Option String) : List Piece :=
  .markup "<nav id=\"userNameNav\">" :: nav.entries.flatMap (navButton focused) ++
    [.markup "</nav>"]

/-- The mark of a button that leads nowhere. -/
def disabledMark (disabled : Bool) : String := if disabled then " disabled" else ""

/-- The page buttons and the status line between them. -/
def paginationRegion (view : PageView) : List Piece :=
  [.markup ("<div id=\"pagination\"><button id=\"previousPage\"" ++
      disabledMark view.previousDisabled ++ ">Previous</button><span id=\"pageInfo\">"),
    .text (view.status.getD ""),
    .markup ("</span><button id=\"nextPage\"" ++ disabledMark view.nextDisabled ++
      ">Next</button></div>")]

/-- The pieces of the jobs page. -/
def jobsPieces (nav : Navigation) (focused : Option String) (view : PageView)
    (error : Option String) : List Piece :=
  document "Jobs" <|
    .markup "<h1>Jobs</h1>\n" :: errorRegion error ++
    .markup ("\n<table id=\"jobsTable\">\n<thead><tr><th>ID</th><th>State</th><th>Spec</th>" ++
      "<th>Nodes</th><th>Status History</th></tr></thead>\n<tbody>") ::
    view.rows.flatMap jobRow ++ .markup "</tbody>\n</table>\n" :: navigationRegion nav focused ++
    .markup "\n" :: paginationRegion view

/-- The jobs page. -/
def jobsDocument (nav : Navigation) (focused : Option String) (view : PageView)
    (error : Option String) : String :=
  render (jobsPieces nav focused view error)

/-- A row of the nodes table. -/
def nodeRow (row : NodeRow) : List Piece :=
  [.markup "<tr><td>", .text row.name, .markup "</td>"] ++ plainCell row.spec ++
    statusCell row.k8s ++ statusCell row.slurm ++ [.markup "</tr>"]

/-- The pieces of the nodes page. -/
def nodesPieces (table : NodeTable) (error : Option String) : List Piece :=
  document "Nodes" <|
    .markup "<h1>Nodes</h1>\n" :: errorRegion error ++
    .markup ("\n<table id=\"nodesTable\">\n<thead><tr><th>Name</th><th>Spec</th>" ++
      "<th>K8s Status</th><th>Slurm Status</th></tr></thead>\n<tbody>") ::
    table.rows.flatMap nodeRow ++ [.markup "</tbody>\n</table>"]

/-- The nodes page. -/
def nodesDocument (table : NodeTable) (error : Option String) : String :=
  render (nodesPieces table error)

end ClusterBoard.Page
