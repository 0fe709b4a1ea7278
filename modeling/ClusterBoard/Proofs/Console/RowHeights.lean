import Mathlib
import ClusterBoard.Console.View.Jobs
import ClusterBoard.Proofs.Console.Scrolling
import ClusterBoard.Proofs.Page.Placeholders
import ClusterBoard.Proofs.Text.HeadLines

/-!
# Heights of job rows

A row of the jobs table is as high as the longer of its two lists, the nodes and the history. Both
are cut to six lines and a note, and a history is never empty, so a row has one to seven lines and
the bounds that are set to its height change nothing (`View.height_jobGridRow`). A cell drawn where
there is a line for each of its own is drawn as a whole (`GridCell.draw_of_fits`), and the rows that
a grid shows fit below its heading (`Grid.sum_height_shownRows`). So no line of either cell is lost,
however the cells of a row are opened and closed, and a cell that is open holds the first lines of
its list (`View.jobGridRow_shows_all_lines`).
-/

namespace ClusterBoard

/-- The row with its cells in these states. -/
def JobRow.disclosed (row : JobRow) (nodes history : Disclosure) : JobRow :=
  { row with nodes := ⟨row.nodes.content, nodes⟩, history := ⟨row.history.content, history⟩ }

/-! ## Cells and rows on screen -/

namespace Screen

/-- A cell drawn with every line that it has. -/
def GridCell.drawWhole (cell : GridCell) (c : Canvas) (a : Area) : Canvas :=
  cell.lines.zipIdx.foldl (fun c (line, i) => c.putLine (a.line i) line) (c.restyle a cell.style)

theorem GridCell.draw_of_fits {cell : GridCell} {a : Area} (h : cell.lines.length ≤ a.height)
    (c : Canvas) : cell.draw c a = cell.drawWhole c a := by
  unfold draw drawWhole Canvas.putLines
  rw [List.take_of_length_le h]

namespace RowWindow

variable {heights tops : List Nat} {limit place : Nat} {w : RowWindow}

/-- The lines of the rows before a place. -/
def linesBefore (heights : List Nat) (place : Nat) : Nat := (heights.take place).sum

theorem linesBefore_mono (heights : List Nat) {next : Nat} (h : place ≤ next) :
    linesBefore heights place ≤ linesBefore heights next := List.monotone_sum_take heights h

theorem linesBefore_succ {height : Nat} (h : heights.drop place = height :: tops) :
    linesBefore heights (place + 1) = linesBefore heights place + height := by
  have hheight : heights[place]? = some height := by rw [← List.head?_drop, h, List.head?_cons]
  rw [linesBefore, List.take_add_one, hheight, List.sum_append]
  simp [linesBefore]

theorem drop_succ {height : Nat} (h : heights.drop place = height :: tops) :
    heights.drop (place + 1) = tops := by
  rw [← List.tail_drop, h, List.tail_cons]

/-- The height of a window is that of the rows in it. -/
def Spans (heights : List Nat) (w : RowWindow) : Prop :=
  linesBefore heights w.first + w.height = linesBefore heights w.last

/-- The rows of a window fit. -/
structure Fits (heights : List Nat) (limit : Nat) (w : RowWindow) : Prop where
  spans : w.Spans heights
  height_le : w.height ≤ limit

theorem Spans.grow {height : Nat} (h : w.Spans heights)
    (hnext : heights.drop w.last = height :: tops) :
    Spans heights { w with last := w.last + 1, height := w.height + height } := by
  unfold Spans at h ⊢
  rw [linesBefore_succ hnext, ← h, Nat.add_assoc]

/-- A window that is too high holds its first row. -/
theorem Spans.shrink {height : Nat} (h : w.Spans heights)
    (hnext : heights.drop w.first = height :: tops) (hpos : 0 < w.height) :
    Spans heights { w with first := w.first + 1, height := w.height - height } := by
  unfold Spans at h ⊢
  have hlt : w.first < w.last := by
    by_contra hle
    have hmono := linesBefore_mono heights (Nat.le_of_not_lt hle)
    omega
  have hmono := linesBefore_mono heights (Nat.succ_le_of_lt hlt)
  rw [Nat.succ_eq_add_one, linesBefore_succ hnext] at hmono
  dsimp only
  rw [linesBefore_succ hnext]
  omega

theorem fits_fill (hrest : heights.drop w.last = tops) (h : w.Fits heights limit) :
    (fill limit w tops).Fits heights limit := by
  induction tops generalizing w with
  | nil => exact h
  | cons height tops ih =>
    unfold fill
    split_ifs with hlimit
    · exact h
    · exact ih (drop_succ hrest) ⟨h.spans.grow hrest, Nat.le_of_not_lt hlimit⟩

theorem fits_dropTop (hrest : heights.drop w.first = tops) (h : w.Spans heights) :
    (dropTop limit w tops).Fits heights limit := by
  induction tops generalizing w with
  | nil =>
    -- No rows are left from the first one on, so the window is empty.
    have hall : linesBefore heights w.last ≤ linesBefore heights w.first := by
      unfold linesBefore
      rw [List.take_of_length_le (List.drop_eq_nil_iff.mp hrest)]
      exact (List.take_sublist _ _).sum_le_sum fun _ _ => Nat.zero_le _
    refine ⟨h, ?_⟩
    unfold Spans at h
    rw [dropTop]
    omega
  | cons height tops ih =>
    unfold dropTop
    split_ifs with hlimit
    · exact ih (drop_succ hrest) (h.shrink hrest (Nat.zero_lt_of_lt hlimit))
    · exact ⟨h, Nat.le_of_not_lt hlimit⟩

theorem last_dropTop : (dropTop limit w tops).last = w.last := by
  induction tops generalizing w with
  | nil => rfl
  | cons height tops ih =>
    unfold dropTop
    split_ifs
    · exact ih
    · rfl

theorem fits_foldl_extend {next : List Nat} (hnext : next <+: heights.drop w.last)
    (h : w.Fits heights limit) : (next.foldl (extend heights limit) w).Fits heights limit := by
  induction next generalizing w with
  | nil => exact h
  | cons height next ih =>
    obtain ⟨rest, hrest, hprefix⟩ := List.cons_prefix_iff.mp hnext
    have hlast : (extend heights limit w height).last = w.last + 1 := last_dropTop
    rw [List.foldl_cons]
    refine ih ?_ (fits_dropTop rfl (h.spans.grow hrest))
    rw [hlast, drop_succ hrest]
    exact hprefix

/-- The rows that are chosen fit. -/
theorem fits_around (heights : List Nat) (limit : Nat) (selected : Option Nat) :
    (around heights limit selected).Fits heights limit := by
  have hstart : (fill limit ⟨0, 0, 0⟩ heights).Fits heights limit :=
    fits_fill rfl ⟨rfl, Nat.zero_le limit⟩
  unfold around
  cases selected with
  | none => exact hstart
  | some place =>
    dsimp only
    split_ifs
    · exact ⟨rfl, Nat.zero_le limit⟩
    · refine fits_foldl_extend ?_ hstart
      rw [List.drop_take]
      exact List.take_prefix _ _

theorem Fits.sum_le (h : w.Fits heights limit) :
    ((heights.take w.last).drop w.first).sum ≤ limit := by
  have hsum := List.sum_take_add_sum_drop (heights.take w.last) w.first
  have hspans := h.spans
  have hle := h.height_le
  unfold Spans linesBefore at hspans
  rw [List.take_take] at hsum
  rcases Nat.le_total w.first w.last with hfirst | hlast
  · rw [Nat.min_eq_left hfirst] at hsum
    omega
  · rw [Nat.min_eq_right hlast] at hsum
    omega

end RowWindow

/-- The rows that are drawn into an area take no more lines than there are below the heading. -/
theorem Grid.sum_height_shownRows (grid : Grid) (a : Area) :
    ((grid.shownRows a).map fun shown => shown.1.height).sum ≤ a.height - 1 := by
  have hfits := RowWindow.fits_around (grid.rows.map GridRow.height) (a.height - 1) grid.selected
  have hheights : (grid.rows.zipIdx.map fun shown => shown.1.height) =
      grid.rows.map GridRow.height := by
    rw [← Function.comp_def GridRow.height Prod.fst, ← List.map_map, List.zipIdx_map_fst]
  unfold shownRows
  rw [List.map_drop, List.map_take, hheights]
  exact hfits.sum_le

end Screen

/-! ## The two lists of a job -/

namespace Console.View

open Screen Text

theorem nodeListText_hidden (view : NodeListView) :
    nodeListText ⟨view, .hidden⟩ = "▸ " ++ toString (nodeCount view) ++ " node(s)" := rfl

theorem nodeListText_shown_nodes (lines : List NodeLine) : nodeListText ⟨.nodes lines, .shown⟩ =
    headLines (join "\n" (lines.map nodeText)) greatestCellLines := rfl

theorem historyText_hidden (history : String) : historyText ⟨history, .hidden⟩ = "▸ history" := rfl

theorem historyText_shown (history : String) :
    historyText ⟨history, .shown⟩ = headLines history greatestCellLines := rfl

theorem nodeListText_of_open {cell : Collapsible NodeListView} {lines : List NodeLine}
    (h : cell.isOpen = true) (hlines : cell.content = .nodes lines) :
    nodeListText cell = headLines (join "\n" (lines.map nodeText)) greatestCellLines := by
  obtain ⟨view, state⟩ := cell
  obtain rfl : view = .nodes lines := hlines
  cases state with
  | hidden => cases h
  | shown => exact nodeListText_shown_nodes lines

theorem historyText_of_open {cell : Collapsible String} (h : cell.isOpen = true) :
    historyText cell = headLines cell.content greatestCellLines := by
  obtain ⟨history, state⟩ := cell
  cases state with
  | hidden => cases h
  | shown => exact historyText_shown history

theorem lineCount_nodeListText_le (cell : Collapsible NodeListView) :
    lineCount (nodeListText cell).toList ≤ greatestCellLines + 1 := by
  obtain ⟨view, state⟩ := cell
  cases state with
  | hidden =>
    rw [nodeListText_hidden]
    refine (lineCount_le_of_not_mem ?_).trans (by decide)
    simp [Nat.toList_repr, not_mem_toDigits]
  | shown =>
    cases view with
    | nodes lines =>
      rw [nodeListText_shown_nodes, lineCount_headLines]
      exact Nat.min_le_right _ _
    | noData | unavailable => decide

theorem lineCount_historyText_le (cell : Collapsible String) :
    lineCount (historyText cell).toList ≤ greatestCellLines + 1 := by
  obtain ⟨history, state⟩ := cell
  cases state with
  | hidden =>
    rw [historyText_hidden]
    decide
  | shown =>
    rw [historyText_shown, lineCount_headLines]
    exact Nat.min_le_right _ _

theorem lineCount_historyText_pos {cell : Collapsible String} (h : cell.content ≠ "") :
    0 < lineCount (historyText cell).toList := by
  obtain ⟨history, state⟩ := cell
  cases state with
  | hidden =>
    rw [historyText_hidden]
    decide
  | shown =>
    have hne : history.toList ≠ [] := mt String.toList_eq_nil_iff.mp h
    rw [historyText_shown, lineCount_headLines]
    exact lt_min (lineCount_pos hne) (Nat.succ_pos _)

/-- The bounds that are set to a height change nothing. -/
theorem height_jobGridRow (theme : Theme) {row : JobRow} (h : row.history.content ≠ "") :
    (jobGridRow theme row).height = max (lineCount (nodeListText row.nodes).toList)
      (lineCount (historyText row.history).toList) := by
  have hnodes := lineCount_nodeListText_le row.nodes
  have hhistory := lineCount_historyText_le row.history
  have hpos := lineCount_historyText_pos h
  have hword : Nat.pow 2 16 - 1 = 65535 := rfl
  unfold greatestCellLines at hnodes hhistory
  show min (rowHeight row) (Nat.pow 2 16 - 1) = _
  rw [hword, rowHeight]
  omega

/-- A cell of a row has the lines of a text, and the row has room for them. -/
structure ShowsText (row : GridRow) (cell : GridCell) (text : String) : Prop where
  lines_eq : cell.lines = linesOf text .plain
  length_le : cell.lines.length ≤ row.height
  draw_eq : ∀ (c : Canvas) (a : Area), a.height = row.height → cell.draw c a = cell.drawWhole c a

theorem showsText {row : GridRow} {text : String} {style : Style}
    (h : lineCount text.toList ≤ row.height) : ShowsText row (.ofText text style) text := by
  have hlength : (linesOf text .plain).length ≤ row.height := by
    rw [linesOf, List.length_map]
    exact h
  exact ⟨rfl, hlength, fun c a ha => GridCell.draw_of_fits (ha ▸ hlength) c⟩

/-- A row of the table has as many lines as the longer of its two lists, which are the fourth and
the fifth of its cells, and shows both. Of a list that is open these are the first lines. -/
structure ShowsLists (theme : Theme) (row : JobRow) : Prop where
  height_pos : 1 ≤ (jobGridRow theme row).height
  height_le : (jobGridRow theme row).height ≤ 7
  height_eq : (jobGridRow theme row).height = max (lineCount (nodeListText row.nodes).toList)
    (lineCount (historyText row.history).toList)
  nodes : ∃ cell, (jobGridRow theme row).cells[3]? = some cell ∧
    ShowsText (jobGridRow theme row) cell (nodeListText row.nodes)
  history : ∃ cell, (jobGridRow theme row).cells[4]? = some cell ∧
    ShowsText (jobGridRow theme row) cell (historyText row.history)
  nodes_open : row.nodes.isOpen = true → ∀ lines, row.nodes.content = .nodes lines →
    nodeListText row.nodes = headLines (join "\n" (lines.map nodeText)) greatestCellLines
  history_open : row.history.isOpen = true →
    historyText row.history = headLines row.history.content greatestCellLines

theorem showsLists (theme : Theme) {row : JobRow} (h : row.history.content ≠ "") :
    ShowsLists theme row := by
  have hheight := height_jobGridRow theme h
  have hnodes := lineCount_nodeListText_le row.nodes
  have hhistory := lineCount_historyText_le row.history
  have hpos := lineCount_historyText_pos h
  constructor
  case height_pos => exact hheight ▸ hpos.trans_le (Nat.le_max_right _ _)
  case height_le => exact hheight ▸ Nat.max_le.mpr ⟨hnodes, hhistory⟩
  case height_eq => exact hheight
  case nodes => exact ⟨_, rfl, showsText (hheight ▸ Nat.le_max_left _ _)⟩
  case history => exact ⟨_, rfl, showsText (hheight ▸ Nat.le_max_right _ _)⟩
  case nodes_open => exact fun hopen lines hlines => nodeListText_of_open hopen hlines
  case history_open => exact historyText_of_open

theorem history_ofJob_ne_empty (job : JobRecord) : (JobRow.ofJob job).history.content ≠ "" := by
  show prettyOr notAvailable job.history ≠ ""
  cases job.history with
  | none => decide
  | some value =>
    obtain ⟨c, rest, hchars, -⟩ := Json.exists_prettyChars_cons 0 value
    rw [prettyOr, Json.pretty, hchars]
    simp

/-! ## The theorem -/

/-- **No line of a job's lists is lost.** Whatever a job was decoded from and whichever of its cells
are open, its row has one to seven lines, as many as the longer of its two lists, and draws all of
both; and the rows that are shown fit below the heading. The lists are kept that short by
`headLines`: a text of at most `limit` lines stays, and a longer one is cut to these lines, which
lose no more than a carriage return at the end, and one that says how many follow. -/
theorem jobGridRow_shows_all_lines :
    (∀ (id : RecordId) (value : Json) (nodes history : Disclosure) (theme : Theme),
      ShowsLists theme ((JobRow.ofJob (.ofJson id value)).disclosed nodes history)) ∧
    (∀ (theme : Theme) (tab : JobsTab) (a : Area),
      (((jobsGrid theme tab a.width).shownRows a).map fun shown => shown.1.height).sum ≤
        a.height - 1) ∧
    ∀ (text : String) (limit : Nat),
      (lineCount text.toList ≤ limit → headLines text limit = text) ∧
      (limit < lineCount text.toList → ∃ dropped, limit + dropped = lineCount text.toList ∧
        lineCount (headLines text limit).toList = limit + 1 ∧
        lines (headLines text limit).toList = ((lines text.toList).take limit).map withoutReturn ++
          [("… " ++ toString dropped ++ " more line(s)").toList]) := by
  refine ⟨fun id value nodes history theme => showsLists theme (history_ofJob_ne_empty _),
    fun theme tab a => Grid.sum_height_shownRows _ a,
    fun text limit => ⟨fun hfits => ?_, fun hlt => ?_⟩⟩
  · rw [headLines, headLinesOf_of_fits hfits, String.ofList_toList]
  · refine ⟨lineCount text.toList - limit, Nat.add_sub_of_le hlt.le, ?_, ?_⟩
    · rw [lineCount_headLines]
      exact Nat.min_eq_right hlt
    · rw [toList_headLines, lines_headLinesOf hlt, droppedNote_eq]

/-- A job on eight nodes with a history of eight states. -/
def longLists : Json :=
  .object [("status", .object [
    ("slurmJobRunCurrentStatus", .object [("physicalNodeSnapshots", .object
      ((List.range 8).map fun n => (toString n, .object [("slurmNodeName", .string s!"a{n}")])))]),
    ("slurmJobRunStatusHistory", .array (List.replicate 8 .null))])]

/-- The first of these nodes, as they are listed. -/
def listedNodes (count : Nat) : List NodeLine :=
  (List.range count).map fun n => NodeListView.lineOf ⟨some s!"a{n}", none, none⟩

/-- Of the ten lines of the history a row shows six and notes four, and of the eight nodes it shows
six and notes two. -/
theorem jobGridRow_shows_all_lines_long_lists :
    let row := (JobRow.ofJob (.ofJson ⟨"1"⟩ longLists)).disclosed .shown .shown
    let history := row.history.content
    (6 < lineCount history.toList ∧ lineCount history.toList ≤ 10) ∧
      headLines history 10 = history ∧ (jobGridRow .dark row).height = 7 ∧
      (lines (historyText row.history).toList).getLast? = some "… 4 more line(s)".toList ∧
      row.nodes.content = .nodes (listedNodes 8) ∧
      nodeListText row.nodes = headLines (join "\n" ((listedNodes 8).map nodeText)) 6 ∧
      (lines (nodeListText row.nodes).toList).getLast? = some "… 2 more line(s)".toList := by
  intro row history
  have hten : lineCount history.toList = 10 := by decide +kernel
  have hlong : 6 < lineCount history.toList := by omega
  have hfits : lineCount history.toList ≤ 10 := by omega
  have hnodes : row.nodes.content = .nodes (listedNodes 8) := rfl
  have hcount : lineCount (join "\n" ((listedNodes 8).map nodeText)).toList = 8 := by
    rw [join, String.toList_ofList]
    decide +kernel
  obtain ⟨hrows, -, htexts⟩ := jobGridRow_shows_all_lines
  have hshows : ShowsLists .dark row := hrows ⟨"1"⟩ longLists .shown .shown .dark
  have hlisted := hshows.nodes_open rfl _ hnodes
  have hnote (text : String) (dropped : Nat) (hcut : lineCount text.toList = 6 + dropped)
      (hpos : 0 < dropped) : lineCount (headLines text 6).toList = 7 ∧
        (lines (headLines text 6).toList).getLast? =
          some ("… " ++ toString dropped ++ " more line(s)").toList := by
    obtain ⟨rest, hrest, hseven, hlines⟩ := (htexts text 6).2 (by omega)
    obtain rfl : rest = dropped := by omega
    exact ⟨hseven, (congrArg List.getLast? hlines).trans List.getLast?_concat⟩
  obtain ⟨hseven, hfour⟩ := hnote history 4 hten (by decide)
  obtain ⟨-, htwo⟩ := hnote _ 2 hcount (by decide)
  refine ⟨⟨hlong, hfits⟩, (htexts history 10).1 hfits, ?_, ?_, hnodes, hlisted, ?_⟩
  · have hle := lineCount_nodeListText_le row.nodes
    rw [hshows.height_eq, hshows.history_open rfl]
    exact (congrArg (max _) hseven).trans (Nat.max_eq_right hle)
  · rw [hshows.history_open rfl]
    exact hfour
  · rw [hlisted]
    exact htwo

end Console.View

end ClusterBoard
