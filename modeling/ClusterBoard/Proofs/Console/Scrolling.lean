import Mathlib
import ClusterBoard.Console.View.Nodes
import ClusterBoard.Proofs.Console.Details

/-!
# Scrolling the nodes table

The offset says which row of the nodes table stands in the first line. It is one of three
(`Selection.scrollOffset_cases`): the top of the table, its end, or half the lines above the
selected row. In each of them the selected row is on screen, and it is the one row that is
highlighted; the upper part of the tab holds this table (`App.selected_row_on_screen`). The last two
do not meet where the number of lines is odd: there is one row whose offset lies a line too far down
(`Selection.Overscrolls`). Exactly for this row a line stays blank below the table, and the table
jumps back when the selection moves on (`View.steady_iff_not_overscrolls`).
-/

namespace ClusterBoard

open Screen

/-! ## The offset -/

namespace Console.Selection

variable {selected next visible total : Nat}

/-- As many rows from the selected one to the last as are half of an odd number of lines, which the
table fills. -/
def Overscrolls (visible total selected : Nat) : Prop :=
  visible % 2 = 1 ∧ visible ≤ total ∧ selected + visible / 2 = total

instance (visible total selected : Nat) : Decidable (Overscrolls visible total selected) :=
  inferInstanceAs (Decidable (_ ∧ _ ∧ _))

/-- The offset is at the top, at the end, or half the lines above the selected row. -/
theorem scrollOffset_cases (hv : 1 ≤ visible) (hs : selected < total) :
    selected < visible / 2 ∧ scrollOffset selected visible total = 0 ∨
    visible / 2 ≤ selected ∧ total < selected + visible / 2 ∧
      scrollOffset selected visible total = total - visible ∨
    visible / 2 ≤ selected ∧ selected + visible / 2 ≤ total ∧
      scrollOffset selected visible total + visible / 2 = selected := by
  unfold scrollOffset
  split_ifs <;> omega

theorem scrollOffset_le (hv : 1 ≤ visible) (hs : selected < total) :
    scrollOffset selected visible total ≤ selected := by
  have hcases := scrollOffset_cases hv hs
  omega

theorem lt_scrollOffset_add (hv : 1 ≤ visible) (hs : selected < total) :
    selected < scrollOffset selected visible total + visible := by
  have hcases := scrollOffset_cases hv hs
  omega

/-- One line too far. -/
theorem scrollOffset_add_of_overscrolls (hs : selected < total)
    (h : Overscrolls visible total selected) :
    scrollOffset selected visible total + visible = total + 1 := by
  obtain ⟨hodd, hfills, hhalf⟩ := h
  have hv : 1 ≤ visible := by omega
  have hcases := scrollOffset_cases hv hs
  omega

theorem scrollOffset_add_le (hv : 1 ≤ visible) (hs : selected < total)
    (h : ¬ Overscrolls visible total selected) :
    scrollOffset selected visible total + visible ≤ max total visible := by
  unfold Overscrolls at h
  have hcases := scrollOffset_cases hv hs
  omega

/-- Below a row that overscrolls the table goes back by one line. -/
theorem scrollOffset_next_of_overscrolls (hlt : selected < next) (hn : next < total)
    (h : Overscrolls visible total selected) :
    scrollOffset next visible total + 1 = scrollOffset selected visible total := by
  have hselected := scrollOffset_add_of_overscrolls (hlt.trans hn) h
  obtain ⟨hodd, hfills, hhalf⟩ := h
  have hv : 1 ≤ visible := by omega
  have hcases := scrollOffset_cases hv hn
  omega

theorem scrollOffset_mono (hv : 1 ≤ visible) (hlt : selected < next) (hn : next < total)
    (h : ¬ Overscrolls visible total selected) :
    scrollOffset selected visible total ≤ scrollOffset next visible total := by
  have hselected := scrollOffset_cases hv (hlt.trans hn)
  have hnext := scrollOffset_cases hv hn
  unfold Overscrolls at h
  omega

/-- How the offset of a row lies to the end of the table and to the offsets of the rows below. -/
structure Settles (selected visible total : Nat) : Prop where
  /-- No line stays blank while rows are hidden above. -/
  fits_iff : scrollOffset selected visible total + visible ≤ max total visible ↔
    ¬ Overscrolls visible total selected
  top_iff : total ≤ visible → (scrollOffset selected visible total = 0 ↔
    ¬ Overscrolls visible total selected)
  mono_iff : ∀ next, selected < next → next < total →
    (scrollOffset selected visible total ≤ scrollOffset next visible total ↔
      ¬ Overscrolls visible total selected)
  /-- A row that overscrolls leaves one line blank. -/
  blank : Overscrolls visible total selected →
    scrollOffset selected visible total + visible = total + 1
  /-- From there the table goes back by one line. -/
  back : Overscrolls visible total selected → ∀ next, selected < next → next < total →
    scrollOffset next visible total + 1 = scrollOffset selected visible total

theorem settles (hv : 1 ≤ visible) (hs : selected < total) : Settles selected visible total := by
  by_cases h : Overscrolls visible total selected
  · have hblank := scrollOffset_add_of_overscrolls hs h
    have hback {next : Nat} (hlt : selected < next) (hn : next < total) :=
      scrollOffset_next_of_overscrolls hlt hn h
    have hfills : visible ≤ total := h.2.1
    constructor
    case fits_iff => exact iff_of_false (by omega) (not_not_intro h)
    case top_iff => exact fun _ => iff_of_false (by omega) (not_not_intro h)
    case mono_iff =>
      intro next hlt hn
      have hnext := hback hlt hn
      exact iff_of_false (by omega) (not_not_intro h)
    case blank => exact fun _ => hblank
    case back => exact fun _ next hlt hn => hback hlt hn
  · have hfits := scrollOffset_add_le hv hs h
    constructor
    case fits_iff => exact iff_of_true hfits h
    case top_iff => exact fun _ => iff_of_true (by omega) h
    case mono_iff => exact fun next hlt hn => iff_of_true (scrollOffset_mono hv hlt hn h) h
    case blank | back => exact fun hover => absurd hover h

end Console.Selection

/-! ## The rows that a grid draws -/

namespace Screen

namespace RowWindow

/-- Rows are all taken where there is room for them. -/
theorem fill_of_fits {limit : Nat} {heights : List Nat} :
    ∀ w : RowWindow, w.height + heights.sum ≤ limit → fill limit w heights =
      { w with last := w.last + heights.length, height := w.height + heights.sum } := by
  induction heights with
  | nil => exact fun w _ => rfl
  | cons height heights ih =>
    intro w hroom
    rw [List.sum_cons, ← Nat.add_assoc] at hroom
    have hfirst : ¬ limit < w.height + height := by omega
    rw [fill, if_neg hfirst, ih { w with last := w.last + 1, height := w.height + height } hroom,
      List.sum_cons, List.length_cons]
    simp only [Nat.add_assoc, Nat.add_comm 1]

end RowWindow

namespace Grid

variable {grid : Grid} {a : Area}

/-- The rows that are drawn into an area, each with its place among the rows of the grid. -/
def shownRows (grid : Grid) (a : Area) : List (GridRow × Nat) :=
  let w := RowWindow.around (grid.rows.map GridRow.height) (a.height - 1) grid.selected
  (grid.rows.zipIdx.take w.last).drop w.first

/-- The heading drawn. -/
def drawHeading (grid : Grid) (c : Canvas) (a : Area) : Canvas :=
  grid.drawCells (c.restyle (a.lines 0 1) grid.heading.style) (a.lines 0 1) grid.heading.cells

/-- Below its heading a grid draws these rows. -/
theorem draw_eq (c : Canvas) (ha : a.isEmpty = false) :
    grid.draw c a = grid.drawRows (a.lines 1 (a.height - 1)) (a.y + 1) (grid.shownRows a)
      (grid.drawHeading c a) := by
  unfold draw
  rw [ha]
  rfl

/-- Where no row is selected, rows that fit are all drawn. -/
theorem shownRows_of_fits (hselected : grid.selected = none)
    (hroom : (grid.rows.map GridRow.height).sum ≤ a.height - 1) :
    grid.shownRows a = grid.rows.zipIdx := by
  have hwindow : RowWindow.around (grid.rows.map GridRow.height) (a.height - 1) none =
      ⟨0, grid.rows.length, (grid.rows.map GridRow.height).sum⟩ := by
    unfold RowWindow.around
    rw [RowWindow.fill_of_fits _ (by simpa using hroom)]
    simp
  unfold shownRows
  rw [hselected, hwindow]
  simp

end Grid

end Screen

/-! ## The nodes on screen -/

namespace Console

namespace View

variable {theme : Theme} {tab : NodesTab} {visible : Nat} {a : Area}

/-- Whether a row has the background of the selected one. -/
def IsHighlighted (theme : Theme) (row : GridRow) : Prop :=
  row.style = .ofBack theme.selectedBack

theorem isHighlighted_nodeGridRow {isSelected : Bool} {row : NodeRow} :
    IsHighlighted theme (nodeGridRow theme isSelected row) ↔ isSelected = true := by
  cases isSelected <;> simp [IsHighlighted, nodeGridRow, Style.ofBack, Style.plain]

/-- The first row of the table on screen. -/
def firstRow (tab : NodesTab) (visible : Nat) : Nat :=
  Selection.scrollOffset tab.selected visible tab.table.rows.length

/-- Line by line the table stands on screen from its first row there on. -/
theorem getElem?_visibleRows {line : Nat} (hline : line < visible) :
    (visibleRows theme tab visible)[line]? = tab.table.rows[firstRow tab visible + line]?.map
      (nodeGridRow theme (firstRow tab visible + line = tab.selected)) := by
  unfold visibleRows firstRow
  rw [List.getElem?_map, List.getElem?_take_of_lt hline, List.getElem?_drop, List.getElem?_zipIdx,
    Option.map_map, Nat.zero_add]
  rfl

theorem length_visibleRows : (visibleRows theme tab visible).length =
    min visible (tab.table.rows.length - firstRow tab visible) := by
  unfold visibleRows firstRow
  simp

/-- All rows that are chosen to be on screen are drawn: each takes one line. -/
theorem shownRows_nodesGrid (theme : Theme) (tab : NodesTab) (a : Area) :
    (nodesGrid theme tab a).shownRows a = (visibleRows theme tab (a.height - 1)).zipIdx := by
  refine Grid.shownRows_of_fits rfl ?_
  show ((visibleRows theme tab (a.height - 1)).map GridRow.height).sum ≤ a.height - 1
  have hone : (visibleRows theme tab (a.height - 1)).map GridRow.height =
      List.replicate (visibleRows theme tab (a.height - 1)).length 1 := by
    refine List.map_eq_replicate_iff.mpr fun row hrow => ?_
    obtain ⟨⟨node, place⟩, -, rfl⟩ := List.mem_map.mp hrow
    rfl
  rw [hone, List.sum_replicate, smul_eq_mul, Nat.mul_one]
  exact length_visibleRows.trans_le (Nat.min_le_left _ _)

/-- The frame around the nodes tab. -/
def nodesFrame (theme : Theme) (tab : NodesTab) : Frame :=
  ⟨s!" Nodes ({tab.table.rows.length}) ", none, theme.focusedBorder⟩

/-- What stands below the table. -/
def nodesSummary (theme : Theme) (tab : NodesTab) : Paragraph :=
  let color := if tab.table.rows.any NodeRow.needsAttention then theme.warning else theme.border
  let summary := tab.table.summary?.getD ""
  .ofLines [.plain s!" {summary}  (Enter: full detail)"] (.ofText color)

/-- Where there are nodes the tab is a frame, the table in the upper part of what it encloses, and
the summary below. -/
theorem drawNodes_eq {app : App} (hrows : app.nodes.table.rows ≠ []) (theme : Theme) (c : Canvas)
    (a : Area) : drawNodes app theme c a =
      (nodesSummary theme app.nodes).draw
        ((nodesGrid theme app.nodes (a.inner.splitFoot 3).1).draw
          ((nodesFrame theme app.nodes).draw c a) (a.inner.splitFoot 3).1)
        (a.inner.splitFoot 3).2 := by
  unfold drawNodes
  simp only [List.isEmpty_eq_false_iff.mpr hrows]
  rfl

/-- The selected row is among those that are drawn, and it alone is highlighted. -/
structure ShowsSelected (theme : Theme) (tab : NodesTab) (a : Area) : Prop where
  draw_eq : ∀ c, 0 < a.width → (nodesGrid theme tab a).draw c a =
    (nodesGrid theme tab a).drawRows (a.lines 1 (a.height - 1)) (a.y + 1)
      ((nodesGrid theme tab a).shownRows a) ((nodesGrid theme tab a).drawHeading c a)
  first_le : firstRow tab (a.height - 1) ≤ tab.selected
  lt_last : tab.selected < firstRow tab (a.height - 1) + (a.height - 1)
  drawn : ∃ row, tab.selectedRow? = some row ∧
    (nodeGridRow theme true row, tab.selected - firstRow tab (a.height - 1)) ∈
      (nodesGrid theme tab a).shownRows a
  highlighted_iff : ∀ gridRow line, (gridRow, line) ∈ (nodesGrid theme tab a).shownRows a →
    (IsHighlighted theme gridRow ↔ line = tab.selected - firstRow tab (a.height - 1))

theorem showsSelected (theme : Theme) (hlt : tab.selected < tab.table.rows.length)
    (ha : 2 ≤ a.height) : ShowsSelected theme tab a := by
  have hvisible : 1 ≤ a.height - 1 := by omega
  have hle := Selection.scrollOffset_le hvisible hlt
  have hon := Selection.lt_scrollOffset_add hvisible hlt
  change firstRow tab (a.height - 1) ≤ tab.selected at hle
  change tab.selected < firstRow tab (a.height - 1) + (a.height - 1) at hon
  have hplace : firstRow tab (a.height - 1) +
      (tab.selected - firstRow tab (a.height - 1)) = tab.selected := Nat.add_sub_of_le hle
  refine ⟨?_, hle, hon, ?_, ?_⟩
  · intro c hwidth
    refine Grid.draw_eq c ?_
    simp only [Area.isEmpty, Bool.or_eq_false_iff, beq_eq_false_iff_ne]
    omega
  · refine ⟨tab.table.rows[tab.selected], List.getElem?_eq_getElem hlt, ?_⟩
    rw [shownRows_nodesGrid, List.mem_zipIdx_iff_getElem?, getElem?_visibleRows (by omega)]
    simp only [hplace, decide_true, List.getElem?_eq_getElem hlt, Option.map_some]
  · intro gridRow line hmem
    rw [shownRows_nodesGrid, List.mem_zipIdx_iff_getElem?] at hmem
    have hline : line < a.height - 1 :=
      (List.getElem?_eq_some_iff.mp hmem).1.trans_le
        (length_visibleRows.trans_le (Nat.min_le_left _ _))
    rw [getElem?_visibleRows hline] at hmem
    obtain ⟨row, -, rfl⟩ := Option.map_eq_some_iff.mp hmem
    rw [isHighlighted_nodeGridRow, decide_eq_true_iff]
    omega

/-- A row that overscrolls leaves one line blank, any other row none that could show a node. -/
theorem length_visibleRows_eq (theme : Theme) (hvisible : 1 ≤ visible)
    (hlt : tab.selected < tab.table.rows.length) : (visibleRows theme tab visible).length =
      min visible tab.table.rows.length -
        if Selection.Overscrolls visible tab.table.rows.length tab.selected then 1 else 0 := by
  have hsettles := Selection.settles hvisible hlt
  have hblank := hsettles.blank
  have hfits := hsettles.fits_iff.mpr
  rw [length_visibleRows]
  unfold firstRow
  split_ifs with h
  · have hfills : visible ≤ tab.table.rows.length := h.2.1
    have hoffset := hblank h
    omega
  · have hoffset := hfits h
    omega

/-! ## The theorems -/

/-- **The table scrolls steadily but for one row.** With every number of lines and of nodes: no line
stays blank while nodes are hidden above, and the table does not jump back when the selection moves
down, exactly if the selected row does not overscroll. The row that does leaves one line blank, and
from there the table goes back by one line. -/
theorem steady_iff_not_overscrolls {selected total : Nat} (hvisible : 1 ≤ visible)
    (hlt : selected < total) : Selection.Settles selected visible total ∧
      ∀ (theme : Theme) (tab : NodesTab), tab.selected = selected →
        tab.table.rows.length = total → (visibleRows theme tab visible).length =
          min visible total - if Selection.Overscrolls visible total selected then 1 else 0 := by
  refine ⟨Selection.settles hvisible hlt, ?_⟩
  rintro theme tab rfl rfl
  exact length_visibleRows_eq theme hvisible hlt

/-- With the eighth of ten nodes selected, five lines show the last five. -/
theorem steady_iff_not_overscrolls_eighth : 1 ≤ 5 ∧ 7 < 10 ∧
    ¬ Selection.Overscrolls 5 10 7 ∧ Selection.scrollOffset 7 5 10 + 5 ≤ max 10 5 := by
  have hvisible : 1 ≤ 5 := by decide
  have hlt : 7 < 10 := by decide
  have hsteady : ¬ Selection.Overscrolls 5 10 7 := by decide
  exact ⟨hvisible, hlt, hsteady,
    (steady_iff_not_overscrolls hvisible hlt).1.fits_iff.mpr hsteady⟩

end View

namespace App

open View (ShowsSelected drawNodes nodesFrame nodesGrid nodesSummary visibleRows)

/-- **The selected node is on screen.** With every number of lines and of nodes the offset keeps the
selected row in the window, so in every run, whatever happens, a table that is drawn with a line
below its heading shows the selected node in a row that alone is highlighted. This table is what the
nodes tab draws into the upper part of its frame. -/
theorem selected_row_on_screen :
    (∀ selected visible total, 1 ≤ visible → selected < total →
      Selection.scrollOffset selected visible total ≤ selected ∧
        selected < Selection.scrollOffset selected visible total + visible) ∧
    (∀ (settings : Settings) (warnings : List String) (client : Web.Client) (scope : Web.JobScope)
      (happenings : List Happening) (theme : Theme) (a : Area),
      let tab := ((initial settings warnings client scope).after happenings).nodes
      tab.table.rows ≠ [] → 2 ≤ a.height → ShowsSelected theme tab a) ∧
    ∀ (app : App) (theme : Theme) (c : Canvas) (a : Area), app.nodes.table.rows ≠ [] →
      let upper := (a.inner.splitFoot 3).1
      drawNodes app theme c a = (nodesSummary theme app.nodes).draw
        ((nodesGrid theme app.nodes upper).draw ((nodesFrame theme app.nodes).draw c a) upper)
        (a.inner.splitFoot 3).2 := by
  refine ⟨fun selected visible total hv hs => ?_, ?_, fun app theme c a hrows => ?_⟩
  · exact ⟨Selection.scrollOffset_le hv hs, Selection.lt_scrollOffset_add hv hs⟩
  · intro settings warnings client scope happenings theme a tab hrows ha
    have hsound : tab.Sound :=
      ((consistent_initial settings warnings client scope).after happenings).nodes
    have hpos := List.length_pos_of_ne_nil hrows
    have hlt : tab.selected < tab.table.rows.length := by
      have hselected := hsound.selected_lt
      omega
    exact View.showsSelected theme hlt ha
  · exact View.drawNodes_eq hrows theme c a

/-- Nodes are fetched, and a row is selected by a key. -/
def selecting (fields : Json.Fields) (key : Char) : List Happening :=
  [.event 0 (.input (.key ⟨.char '2', false, false, false⟩)), .event 0 (nodesFetched fields),
    .event 0 (.input (.key ⟨.char key, false, false, false⟩))]

/-- The second of two nodes, in a tab with room for one. -/
theorem selected_row_on_screen_second :
    let app := (initial .standard [] default .active).after (selecting twoNodes 'j')
    let upper : Area := ⟨1, 1, 58, 2⟩
    app.nodes.table.rows ≠ [] ∧ 2 ≤ upper.height ∧ app.nodes.selected = 1 ∧
      ShowsSelected .dark app.nodes upper ∧ ∀ c, drawNodes app .dark c ⟨0, 0, 60, 4⟩ =
        (nodesSummary .dark app.nodes).draw ((nodesGrid .dark app.nodes upper).draw
          ((nodesFrame .dark app.nodes).draw c ⟨0, 0, 60, 4⟩) upper) ⟨1, 3, 58, 0⟩ := by
  intro app upper
  have hupper : 2 ≤ upper.height := by decide
  obtain ⟨hselected, hlength⟩ : app.nodes.selected = 1 ∧ app.nodes.table.rows.length = 2 := by
    unfold app selecting nodesFetched
    rw [records_twoNodes]
    decide +kernel
  have hrows : app.nodes.table.rows ≠ [] := List.ne_nil_of_length_pos (by omega)
  obtain ⟨-, hshows, hdrawn⟩ := selected_row_on_screen
  exact ⟨hrows, hupper, hselected,
    hshows .standard [] default .active (selecting twoNodes 'j') .dark upper hrows hupper,
    fun c => hdrawn app .dark c ⟨0, 0, 60, 4⟩ hrows⟩

/-- Three nodes. -/
def threeNodes : Json.Fields := ("3", .object []) :: twoNodes

theorem records_threeNodes : Collection.ofRecords (Collection.decoded NodeRecord threeNodes) =
    ⟨Collection.decoded NodeRecord threeNodes⟩ :=
  Collection.ofRecords_of_descending (by decide)

/-- Three nodes fit into three lines, and yet the first one is hidden once the last one is selected.
Of ten nodes in five lines, the table goes back from the ninth to the tenth. -/
theorem last_row_hides_first :
    let tab := ((initial .standard [] default .active).after (selecting threeNodes 'G')).nodes
    (tab.selected = 2 ∧ tab.table.rows.length = 3 ∧ (visibleRows .dark tab 3).length = 2) ∧
      Selection.scrollOffset 2 3 3 = 1 ∧ ¬ Selection.scrollOffset 2 3 3 + 3 ≤ max 3 3 ∧
        ¬ Selection.scrollOffset 8 5 10 ≤ Selection.scrollOffset 9 5 10 := by
  refine ⟨?_, by decide, by decide, by decide⟩
  unfold selecting nodesFetched
  rw [records_threeNodes]
  decide +kernel

end App

end Console

end ClusterBoard
