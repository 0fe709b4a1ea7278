import ClusterBoard.Console.App
import ClusterBoard.Console.View.Parts

/-!
# Overlays on screen

The help, and the details of one job or node.
-/

namespace ClusterBoard.Console.View

open Screen

/-- The keys of a part of the help. -/
def helpPart (theme : Theme) (title : String) (keys : List String) : List Line :=
  sectionLine theme title :: keys.map Line.plain ++ [Line.plain ""]

/-- The help, line by line. -/
def helpLines (theme : Theme) : List Line :=
  [[⟨"jobdash - Keyboard Shortcuts", Style.plain.inBold⟩], Line.plain ""] ++
    helpPart theme "Rows"
      ["  j / Down       Move selection down", "  k / Up         Move selection up",
        "  g / Home       Jump to top", "  G / End        Jump to bottom"] ++
    helpPart theme "Jobs view"
      ["  Left / PgUp    Previous page", "  Right / PgDn   Next page",
        "  Tab            Next user", "  Shift+Tab      Previous user",
        "  n              Expand/collapse node list",
        "  h              Expand/collapse status history"] ++
    helpPart theme "General"
      ["  1 / 2          Jobs / Nodes view", "  Enter          Details of selected row",
        "  r              Fetch current view again", "  ?/F1           Show this help",
        "  Esc            Close overlay", "  q              Quit application"] ++
    [[⟨"Press ? or Esc to close this help", .ofText theme.border⟩]]

/-- A paragraph in a frame, over what was there. -/
def drawFramed (theme : Theme) (frame : Frame) (lines : List Line) (wraps : Bool) (c : Canvas)
    (a : Area) : Canvas :=
  let style := Style.ofText theme.text
  let c := frame.draw ((c.clear a).restyle a style) a
  Paragraph.draw ⟨lines, style, .left, wraps⟩ c a.inner

/-- The help drawn. -/
def drawHelp (theme : Theme) (c : Canvas) (a : Area) : Canvas :=
  drawFramed theme ⟨" Help ", none, theme.focusedBorder⟩ (helpLines theme) false c
    (a.centered 60 70)

/-- A labelled value of the details. -/
def detailLine (label : String) (value : Span) : Line :=
  let padding := String.ofList (List.replicate (12 - (label.length + 1)) ' ')
  [⟨s!"  {label}:{padding} ", Style.plain.inBold⟩, value]

/-- The lines of a text, indented. -/
def indentedLines (text : String) (style : Style) : List Line :=
  (Text.lines text.toList).map fun cs => [⟨"    " ++ String.ofList cs, style⟩]

/-- A titled part of the details. -/
def detailPart (theme : Theme) (title : String) (lines : List Line) : List Line :=
  Line.plain "" :: sectionLine theme title :: lines

/-- The fields that took their default, if there are any. -/
def defectLines (theme : Theme) (defects : List Defect) : List Line :=
  if defects.isEmpty then []
  else
    detailPart theme "Defaulted fields"
      (defects.map fun d => [⟨s!"  - {d.message}", .ofText theme.warning⟩])

/-- A node of a job, with the addresses of its ranks. -/
def nodeDetailLines (theme : Theme) (resolve : String → String) (line : NodeLine) : List Line :=
  Line.joined ("  " ++ line.logical.getD "?" ++ " | " ++ line.physical.getD "?") ::
    line.ranks.map fun rank =>
      [⟨s!"    rank {rank.rank} ", .ofText theme.border⟩,
        ⟨resolve rank.href, .ofText theme.link⟩]

/-- The nodes of a job. -/
def nodeListLines (theme : Theme) (resolve : String → String) : NodeListView → List Line
  | .nodes lines => lines.flatMap (nodeDetailLines theme resolve)
  | view => [Line.plain ("  " ++ view.placeholder?.getD "")]

/-- The details of a record: a title, the colour of the frame, and the text. -/
structure Detail where
  title : String
  border : Color
  lines : List Line
  deriving Repr

/-- The details of a job. -/
def Detail.ofJob (theme : Theme) (resolve : String → String) (job : JobRecord) : Detail :=
  let row := JobRow.ofJob job
  let state := (Style.ofText (theme.tone row.state.tone)).inBold
  { title := s!" Job {job.id.text} [{row.state.text}] "
    border :=
      match row.state.tone with
      | .normal => theme.focusedBorder
      | tone => theme.tone tone
    lines :=
      [detailLine "User" (.plain job.user), detailLine "State" ⟨row.state.text, state⟩,
        detailLine "Nodes" (.plain (toString job.nodeCount))] ++
      detailPart theme "Node list" (nodeListLines theme resolve row.nodes.content) ++
      detailPart theme "Spec" (indentedLines row.spec .plain) ++
      detailPart theme "Status history" (indentedLines row.history.content .plain) ++
      defectLines theme job.defects }

/-- A status block of a node's details. -/
def blockLines (theme : Theme) (title : String) (block : StatusBlock) : List Line :=
  detailPart theme title
    (indentedLines (prettyOr unknownStatus block.raw) (.ofText (theme.tone block.tone)))

/-- The details of a node. -/
def Detail.ofNode (theme : Theme) (node : NodeRecord) : Detail :=
  let goal := (Style.ofText (theme.tone node.specTone)).inBold
  let isFlagged := [node.specTone, node.k8s.tone, node.slurm.tone].contains .alert
  { title := s!" Node {node.name} "
    border := if isFlagged then theme.alert else theme.focusedBorder
    lines :=
      [detailLine "Goal state" ⟨node.goal.text, goal⟩] ++
      blockLines theme "K8s status" node.k8s ++ blockLines theme "Slurm status" node.slurm ++
      (match node.spec with
        | some spec => detailPart theme "Spec" (indentedLines spec.pretty .plain)
        | none => []) ++
      defectLines theme node.defects }

/-- The details of the selected record. -/
def detail? (app : App) (theme : Theme) : Option Detail :=
  match app.tab with
  | .jobs => app.jobs.selectedJob?.map (Detail.ofJob theme app.client.resolve)
  | .nodes => app.nodes.selectedNode?.map (Detail.ofNode theme)

/-- The details drawn. -/
def drawDetail (app : App) (theme : Theme) (c : Canvas) (a : Area) : Canvas :=
  match detail? app theme with
  | some detail =>
    drawFramed theme ⟨detail.title, some " Esc: close ", detail.border⟩ detail.lines true c
      (a.centered 80 85)
  | none => c

end ClusterBoard.Console.View
