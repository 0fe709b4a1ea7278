import ClusterBoard.Calendar
import ClusterBoard.Console.App
import ClusterBoard.Console.Theme
import ClusterBoard.Screen.Paragraph

/-!
# The lines above and below a tab

Above the tab stand its name and what is loaded; below it the keys, when the data was fetched, and
what is wrong.
-/

namespace ClusterBoard.Console.View

open Screen

/-- A tab's number and name. -/
def tabTitle (theme : Theme) (isCurrent : Bool) (number : String) (tab : Tab) : Line :=
  if isCurrent then
    let style := (Style.ofText theme.selectedText).inBold
    [⟨number, style⟩, ⟨tab.label, style⟩]
  else [⟨number, .ofText theme.border⟩, .plain tab.label]

/-- The names of the tabs, the current one marked. -/
def drawTabs (app : App) (theme : Theme) (c : Canvas) (a : Area) : Canvas :=
  let gap := Span.plain " "
  let line := gap :: tabTitle theme (app.tab = .jobs) "[1]" .jobs ++
    [gap, .plain " | ", gap] ++ tabTitle theme (app.tab = .nodes) "[2]" .nodes ++ [gap]
  (c.restyle a (.ofText theme.text)).putLine a line

/-- The server and how much is loaded. -/
def infoText (app : App) : String :=
  let grouping := app.jobs.pager.grouping
  s!" {app.client.base.text} | Scope: {app.scope.name} | {grouping.totalJobs} jobs, " ++
    s!"{grouping.groups.length} users | {app.nodes.table.rows.length} nodes"

/-- The line of the server. -/
def drawInfo (app : App) (theme : Theme) (c : Canvas) (a : Area) : Canvas :=
  (Paragraph.ofLines (linesOf (infoText app) .plain) (.ofText theme.border)).draw c a

/-- The keys of a tab. -/
def keysText : Tab → String
  | .jobs =>
    " j/k:move  ←/→:page  Tab:user  n:nodes  h:history  Enter:detail  r:refresh  ?:help  q:quit "
  | .nodes => " j/k:move  Enter:detail  r:refresh  ?:help  q:quit "

/-- When the data was fetched. -/
def updatedSpan (theme : Theme) (now : Int) : Option Int → Span
  | some fetchedAt => ⟨s!"Updated: {Calendar.age fetchedAt now}", .ofText theme.border⟩
  | none => ⟨"Loading...", .ofText theme.warning⟩

/-- The first of the warnings and the number of the others. -/
def warningSpans (theme : Theme) : List String → List Span
  | [] => []
  | [warning] => [⟨s!" | WARN: {warning}", .ofText theme.warning⟩]
  | warning :: rest =>
    [⟨s!" | WARN: {warning} (+{rest.length} more)", .ofText theme.warning⟩]

/-- The line of the state. -/
def statusLine (app : App) (theme : Theme) (now : Int) : Line :=
  let detail : List Span :=
    if app.overlay = .detail then [⟨" [DETAIL]", (Style.ofText theme.warning).inBold⟩] else []
  let updated :=
    match app.tab with
    | .jobs => app.jobs.updated
    | .nodes => app.nodes.updated
  let automatic : List Span :=
    if app.settings.autoRefresh then [⟨" (auto)", .ofText theme.border⟩] else []
  let failure : List Span :=
    match app.shownFailure? now with
    | some message => [⟨s!" | ERROR: {message} ", .ofText theme.alert⟩]
    | none => []
  detail ++ [.plain " ", updatedSpan theme now updated] ++ automatic ++
    warningSpans theme app.warnings ++ failure

/-- The keys, and below them the state. -/
def drawStatus (app : App) (theme : Theme) (now : Int) (c : Canvas) (a : Area) : Canvas :=
  let upper := min 1 a.height
  let keys := Paragraph.ofLines [.plain (keysText app.tab)] (.ofText theme.border)
  let state := Paragraph.ofLines [statusLine app theme now] .plain
  state.draw (keys.draw c (a.lines 0 upper)) (a.lines upper (a.height - upper))

end ClusterBoard.Console.View
