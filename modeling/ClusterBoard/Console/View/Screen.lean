import ClusterBoard.Console.View.Bars
import ClusterBoard.Console.View.Jobs
import ClusterBoard.Console.View.Nodes
import ClusterBoard.Console.View.Overlay

/-!
# The whole screen

`draw` shows the console in a terminal of any size, as it is at one moment.
-/

namespace ClusterBoard.Console.View

open Screen

/-- The console drawn. The bars take their lines from the top, then from the bottom; the tab has
what is left. -/
def draw (app : App) (now : Int) (width height : Nat) : Canvas :=
  let theme := Theme.ofName app.settings.theme
  let c := Canvas.blank width height
  let area := c.area
  let tabs := min 1 height
  let info := min 1 (height - 1)
  let status := min 2 (height - 2)
  let content := height - tabs - info - status
  let c := drawTabs app theme c (area.lines 0 tabs)
  let c := drawInfo app theme c (area.lines tabs info)
  let middle := area.lines (tabs + info) content
  let c :=
    match app.tab with
    | .jobs => drawJobs app theme c middle
    | .nodes => drawNodes app theme c middle
  let c := drawStatus app theme now c (area.lines (tabs + info + content) status)
  match app.overlay with
  | .none => c
  | .help => drawHelp theme c area
  | .detail => drawDetail app theme c area

end ClusterBoard.Console.View
