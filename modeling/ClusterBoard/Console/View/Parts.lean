import ClusterBoard.Console.Theme
import ClusterBoard.Screen.Frame
import ClusterBoard.Screen.Grid
import ClusterBoard.Screen.Paragraph

/-!
# Parts that several views have in common
-/

namespace ClusterBoard.Console.View

open Screen

/-- The heading of a table. -/
def headingRow (theme : Theme) (titles : List String) : GridRow :=
  { cells := titles.map fun title => .ofText title (Style.ofText theme.headerText).inBold
    height := 1
    style := .ofBack theme.headerBack }

/-- A text where there is no table. -/
def placeholder (theme : Theme) (text : String) : Paragraph :=
  ⟨[.plain text], .ofText theme.border, .center, false⟩

/-- The title of a part of the details. -/
def sectionLine (theme : Theme) (title : String) : Line :=
  [⟨title, (Style.ofText theme.highlight).inBold⟩]

end ClusterBoard.Console.View
