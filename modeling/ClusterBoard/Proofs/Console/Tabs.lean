import Mathlib
import ClusterBoard.Console.Tabs
import ClusterBoard.Proofs.Board.PagerRuns

/-!
# The tabs agree with what they loaded

A tab keeps its page next to the records that the page was rendered from, and the selected row as a
place. `JobsTab.Operates` says what one operation can make of the jobs tab. An operation keeps the
page up to date but for the cells that were opened and closed, and the place in the table
(`JobsTab.Sound.operates`); so does loading. Hence the selected record is the one that the selected
row was rendered from (`JobsTab.Sound.selectedJob?_eq`, `NodesTab.Sound.selectedNode?_eq`).
-/

namespace ClusterBoard

/-! ## Rendered pages -/

/-- The row as it was rendered: the node list open, the history closed. -/
def JobRow.asRendered (row : JobRow) : JobRow :=
  { row with nodes := ⟨row.nodes.content, .shown⟩, history := ⟨row.history.content, .hidden⟩ }

/-- The page as it was rendered. -/
def PageView.asRendered (page : PageView) : PageView :=
  { page with rows := page.rows.map JobRow.asRendered }

/-- A change of a row that only opens or closes its cells. -/
def JobRow.OpensOrCloses (change : JobRow → JobRow) : Prop :=
  ∀ row, (change row).asRendered = row.asRendered

theorem JobRow.opensOrCloses_toggleNodes : OpensOrCloses toggleNodes := fun _ => rfl

theorem JobRow.opensOrCloses_toggleHistory : OpensOrCloses toggleHistory := fun _ => rfl

theorem map_asRendered_modify {change : JobRow → JobRow} (h : JobRow.OpensOrCloses change)
    (rows : List JobRow) (place : Nat) :
    (rows.modify place change).map JobRow.asRendered = rows.map JobRow.asRendered := by
  refine List.ext_getElem? fun i => ?_
  rw [List.getElem?_map, List.getElem?_map, List.getElem?_modify]
  cases rows[i]? with
  | none => rfl
  | some row =>
    by_cases hi : place = i
    · simp [hi, h row]
    · simp [hi]

namespace Navigation

variable {nav : Navigation} {user : String} {current : Option String}

theorem exists_entry_of_userAt? {place : Nat} (h : nav.userAt? place = some user) :
    ∃ entry ∈ nav.entries, entry.user = user := by
  obtain ⟨entry, hentry, hu⟩ := Option.map_eq_some_iff.mp h
  exact ⟨entry, List.mem_of_getElem? hentry, hu⟩

theorem exists_entry_of_nextUser? (h : nav.nextUser? current = some user) :
    ∃ entry ∈ nav.entries, entry.user = user := by
  unfold nextUser? at h
  split at h <;> exact exists_entry_of_userAt? h

theorem exists_entry_of_previousUser? (h : nav.previousUser? current = some user) :
    ∃ entry ∈ nav.entries, entry.user = user := by
  unfold previousUser? at h
  split at h <;> exact exists_entry_of_userAt? h

end Navigation

namespace Pager

/-- The jobs on the page. -/
def shownJobs (p : Pager) : List JobRecord :=
  match p.group? with
  | some group => (placesOn group p.page).filterMap (p.jobs.records[·]?)
  | none => []

theorem rows_view (p : Pager) : p.view.rows = p.shownJobs.map JobRow.ofJob := by
  unfold shownJobs
  cases hg : p.group? with
  | none => rw [view_of_no_group hg]; rfl
  | some group =>
    obtain ⟨user, hu, -⟩ := Option.bind_eq_some_iff.mp hg
    rw [view_of_group hu hg, List.map_filterMap]
    rfl

theorem mem_records_of_shownJobs {p : Pager} {place : Nat} {job : JobRecord}
    (h : p.shownJobs[place]? = some job) : job ∈ p.jobs.records := by
  have hmem := List.mem_of_getElem? h
  unfold shownJobs at hmem
  split at hmem
  · obtain ⟨source, -, hjob⟩ := List.mem_filterMap.mp hmem
    exact List.mem_of_getElem? hjob
  · exact absurd hmem List.not_mem_nil

theorem asRendered_view (p : Pager) : p.view.asRendered = p.view := by
  unfold PageView.asRendered
  rw [rows_view, List.map_map]
  have hrows : p.shownJobs.map (JobRow.asRendered ∘ JobRow.ofJob) = p.view.rows := by
    rw [rows_view]; rfl
  rw [hrows]

/-- Every user in the navigation has jobs. -/
theorem Derived.group?_select_isSome {p : Pager} {user : String} (h : p.Derived)
    (hu : ∃ entry ∈ p.navigation.entries, entry.user = user) : (p.select user).group?.isSome := by
  obtain ⟨entry, hentry, rfl⟩ := hu
  rw [h.navigation_eq] at hentry
  obtain ⟨group, hg, rfl⟩ := Navigation.mem_entries.mp hentry
  rw [h.grouping_eq] at hg
  have hgroup : (Grouping.ofJobs p.jobs).group? group.user = some group :=
    Grouping.group?_eq_some_iff.mpr ⟨hg, rfl⟩
  show (p.grouping.group? group.user).isSome
  rw [h.grouping_eq, hgroup]
  rfl

end Pager

/-! ## Look-up by the ID of a row -/

namespace Collection

variable {α : Type} [Record α] {c : Collection α} {r : α}

/-- No two records have the same ID. -/
def Distinct (c : Collection α) : Prop := (c.records.map Record.id).Nodup

/-- A record's ID leads to a record with this ID. -/
theorem exists_find?_id (hr : r ∈ c.records) :
    ∃ q, c.find? (Record.id r).text = some q ∧ Record.id q = Record.id r := by
  cases hf : c.find? (Record.id r).text with
  | none => simpa using List.find?_eq_none.mp hf r hr
  | some q =>
    have htext : (Record.id q).text = (Record.id r).text := by simpa using List.find?_some hf
    exact ⟨q, rfl, congrArg RecordId.mk htext⟩

/-- Where IDs are distinct it leads to that very record. -/
theorem Distinct.find?_id (h : c.Distinct) (hr : r ∈ c.records) :
    c.find? (Record.id r).text = some r := by
  obtain ⟨q, hq, hid⟩ := exists_find?_id hr
  rw [hq]
  exact congrArg some (List.inj_on_of_nodup_map h (List.mem_of_find?_eq_some hq) hr hid)

section Place

variable {ρ : Type} {rowId : ρ → RecordId} {row : Option ρ} {record : Option α}

/-- The record that is looked up for a row has the row's ID. -/
theorem id_bind_find? (hid : row.map rowId = record.map Record.id)
    (hmem : ∀ r, record = some r → r ∈ c.records) :
    (row.bind fun row => c.find? (rowId row).text).map Record.id = row.map rowId := by
  cases row with
  | none => rfl
  | some row =>
    obtain ⟨r, rfl, hr⟩ := Option.map_eq_some_iff.mp hid.symm
    obtain ⟨q, hq, hqr⟩ := exists_find?_id (hmem r rfl)
    rw [hr] at hq hqr
    simp only [Option.bind_some, Option.map_some, hq, hqr]

/-- Where IDs are distinct it is the record that the row was rendered from. -/
theorem Distinct.bind_find? (h : c.Distinct) (hid : row.map rowId = record.map Record.id)
    (hmem : ∀ r, record = some r → r ∈ c.records) :
    (row.bind fun row => c.find? (rowId row).text) = record := by
  cases record with
  | none => rw [Option.map_eq_none_iff.mp hid, Option.bind_none]
  | some r =>
    obtain ⟨row, rfl, hrow⟩ := Option.map_eq_some_iff.mp hid
    rw [Option.bind_some, hrow]
    exact h.find?_id (hmem r rfl)

end Place

theorem distinct_empty : (empty : Collection α).Distinct := List.nodup_nil

theorem distinct_ofRecords {fields : Json.Fields} (h : fields.Distinct) :
    (ofRecords (decoded α fields)).Distinct :=
  ((records_perm (decoded α fields)).map Record.id).nodup_iff.mpr (nodup_ids h)

end Collection

namespace Console

/-! ## The selected row -/

namespace Selection

/-- A move that stays in the table; in an empty table the place is 0. -/
def Keeps (move : Nat → Nat → Nat) : Prop :=
  ∀ count selected, selected < max 1 count → move count selected < max 1 count

theorem keeps_up : Keeps fun _ selected => up selected := by
  intro count selected h
  show selected - 1 < max 1 count
  omega

theorem keeps_down : Keeps down := by
  intro count selected h
  unfold down
  split_ifs <;> omega

theorem keeps_top : Keeps fun _ _ => top := by
  intro count selected h
  show 0 < max 1 count
  omega

theorem keeps_bottom : Keeps fun count _ => bottom count := by
  intro count selected h
  show count - 1 < max 1 count
  omega

theorem clamp_lt (count selected : Nat) : clamp count selected < max 1 count := by
  unfold clamp
  omega

/-- A place in the table is that of a row, unless there are no rows. -/
theorem getElem?_isSome_iff {α : Type} {rows : List α} {selected : Nat}
    (h : selected < max 1 rows.length) : rows[selected]?.isSome ↔ rows ≠ [] := by
  cases rows with
  | nil => simp
  | cons row rows =>
    have hlt : selected < (row :: rows).length := by
      rw [List.length_cons] at *
      omega
    rw [List.getElem?_eq_getElem hlt]
    simp

end Selection

/-! ## The jobs tab -/

namespace JobsTab

/-- The page is the pager's but for open and closed cells, and the selected row is on it. -/
structure Sound (tab : JobsTab) : Prop where
  derived : tab.pager.Derived
  inRange : tab.pager.InRange
  page_eq : tab.page.asRendered = tab.pager.view
  selected_lt : tab.selected < max 1 tab.page.rows.length

/-- What an operation can make of the tab, and whether it says that the page changed. -/
inductive Operates (tab : JobsTab) : JobsTab × Bool → Prop
  | nothing : Operates tab (tab, false)
  | moved (pager : Pager) (hs : tab.pager.Step pager) (hj : pager.jobs = tab.pager.jobs) :
      Operates tab ({ tab with pager, selected := Selection.top }.rerender, true)
  | changed (change : JobRow → JobRow) (h : JobRow.OpensOrCloses change) :
      Operates tab
        ({ tab with page := { tab.page with rows := tab.page.rows.modify tab.selected change } },
          true)

variable {tab : JobsTab}

section Operations

/-- A move of the pager is an operation, if it changes the page whenever there is one. -/
theorem operates_moved {changes : Pager → Bool} {next : Option Pager} (operation : Pager.Operation)
    (hnext : tab.pager.apply operation = next.getD tab.pager)
    (h : ∀ q, next = some q → q.jobs = tab.pager.jobs ∧ changes q = true) :
    tab.Operates (tab.moved changes next) := by
  have hs := tab.pager.step_apply operation
  cases hn : next with
  | none => exact .nothing
  | some q =>
    obtain ⟨hj, hc⟩ := h q hn
    rw [hnext, hn, Option.getD_some] at hs
    simp only [moved, hc, if_true]
    exact .moved q hs hj

theorem operates_nextPage (tab : JobsTab) : tab.Operates tab.nextPage := by
  refine operates_moved .nextPage rfl fun q hq => ?_
  obtain ⟨-, rfl⟩ := Pager.nextPage?_eq_some.mp hq
  exact ⟨rfl, rfl⟩

theorem operates_previousPage (tab : JobsTab) : tab.Operates tab.previousPage := by
  refine operates_moved .previousPage rfl fun q hq => ?_
  obtain ⟨-, rfl⟩ := Pager.previousPage?_eq_some.mp hq
  exact ⟨rfl, rfl⟩

/-- Every user that a move leads to has jobs, so the page is rendered anew. -/
theorem operates_nextUser (h : tab.pager.Derived) : tab.Operates tab.nextUser := by
  refine operates_moved .nextUser rfl fun q hq => ?_
  obtain ⟨user, hu, rfl⟩ := Option.map_eq_some_iff.mp hq
  exact ⟨rfl, h.group?_select_isSome (Navigation.exists_entry_of_nextUser? hu)⟩

theorem operates_previousUser (h : tab.pager.Derived) : tab.Operates tab.previousUser := by
  refine operates_moved .previousUser rfl fun q hq => ?_
  obtain ⟨user, hu, rfl⟩ := Option.map_eq_some_iff.mp hq
  exact ⟨rfl, h.group?_select_isSome (Navigation.exists_entry_of_previousUser? hu)⟩

theorem operates_changeRow {change : JobRow → JobRow} (h : JobRow.OpensOrCloses change) :
    tab.Operates (tab.changeRow change) := by
  unfold changeRow
  cases tab.selectedRow? with
  | none => exact .nothing
  | some row => exact .changed change h

theorem operates_toggleNodes (tab : JobsTab) : tab.Operates tab.toggleNodes :=
  operates_changeRow JobRow.opensOrCloses_toggleNodes

theorem operates_toggleHistory (tab : JobsTab) : tab.Operates tab.toggleHistory :=
  operates_changeRow JobRow.opensOrCloses_toggleHistory

/-- An operation that reports no change makes none. -/
theorem Operates.eq_of_not_changed {next : JobsTab} (h : tab.Operates (next, false)) :
    next = tab := by
  cases h
  rfl

theorem Operates.jobs_eq {result : JobsTab × Bool} (h : tab.Operates result) :
    result.1.pager.jobs = tab.pager.jobs := by
  cases h with
  | nothing => rfl
  | moved pager hs hj => exact hj
  | changed change h => rfl

end Operations

/-! ### What every operation keeps -/

theorem sound_rerender (hd : tab.pager.Derived) (hr : tab.pager.InRange) : tab.rerender.Sound where
  derived := hd
  inRange := hr
  page_eq := tab.pager.asRendered_view
  selected_lt := Selection.clamp_lt _ _

theorem jobs_load (tab : JobsTab) (jobs : Collection JobRecord) (fetchedAt : Int)
    (background : Bool) : (tab.load jobs fetchedAt background).pager.jobs = jobs := by
  cases background with
  | false => rfl
  | true => exact tab.pager.jobs_refresh jobs

theorem sound_initial : initial.Sound where
  derived := Pager.derived_initial
  inRange := Pager.inRange_initial
  page_eq := rfl
  selected_lt := by decide

namespace Sound

theorem load (h : tab.Sound) (jobs : Collection JobRecord) (fetchedAt : Int) (background : Bool) :
    (tab.load jobs fetchedAt background).Sound := by
  cases background with
  | false => exact sound_rerender (Pager.derived_ofJobs jobs) ⟨le_rfl, le_max_left _ _⟩
  | true =>
    have hs := tab.pager.step_refresh jobs
    exact sound_rerender (h.derived.step hs) (h.inRange.step hs)

theorem select (h : tab.Sound) {move : Nat → Nat → Nat} (hm : Selection.Keeps move) :
    (tab.select move).Sound where
  derived := h.derived
  inRange := h.inRange
  page_eq := h.page_eq
  selected_lt := hm _ _ h.selected_lt

theorem operates (h : tab.Sound) {result : JobsTab × Bool} (ho : tab.Operates result) :
    result.1.Sound := by
  cases ho with
  | nothing => exact h
  | moved pager hs hj => exact sound_rerender (h.derived.step hs) (h.inRange.step hs)
  | changed change hc =>
    refine ⟨h.derived, h.inRange, ?_, ?_⟩
    · rw [← h.page_eq]
      unfold PageView.asRendered
      simp only [map_asRendered_modify hc]
    · show tab.selected < max 1 (tab.page.rows.modify tab.selected change).length
      rw [List.length_modify]
      exact h.selected_lt

/-! ### The selected job -/

/-- The rows are those of the jobs on the page, but for open and closed cells. -/
theorem rows_eq (h : tab.Sound) :
    tab.page.rows.map JobRow.asRendered = tab.pager.shownJobs.map JobRow.ofJob :=
  (congrArg PageView.rows h.page_eq).trans tab.pager.rows_view

/-- The selected row bears the ID of the job that stands at its place. -/
theorem selectedRow?_id (h : tab.Sound) :
    tab.selectedRow?.map JobRow.id = tab.pager.shownJobs[tab.selected]?.map JobRecord.id := by
  have hplace := congrArg (fun rows => rows[tab.selected]?.map JobRow.id) h.rows_eq
  simp only [List.getElem?_map, Option.map_map] at hplace
  exact hplace

/-- Where there are rows one is selected. -/
theorem selectedRow?_isSome_iff (h : tab.Sound) : tab.selectedRow?.isSome ↔ tab.page.rows ≠ [] :=
  Selection.getElem?_isSome_iff h.selected_lt

theorem selectedJob?_id (h : tab.Sound) :
    tab.selectedJob?.map JobRecord.id = tab.selectedRow?.map JobRow.id :=
  Collection.id_bind_find? h.selectedRow?_id fun _ => Pager.mem_records_of_shownJobs

/-- The selected job is the one that the selected row was rendered from. -/
theorem selectedJob?_eq (h : tab.Sound) (hd : tab.pager.jobs.Distinct) :
    tab.selectedJob? = tab.pager.shownJobs[tab.selected]? :=
  hd.bind_find? h.selectedRow?_id fun _ => Pager.mem_records_of_shownJobs

end Sound

end JobsTab

/-! ## The nodes tab -/

namespace NodesTab

/-- The table is that of the nodes, and the selected row is in it. -/
structure Sound (tab : NodesTab) : Prop where
  table_eq : tab.table = .ofNodes tab.nodes
  selected_lt : tab.selected < max 1 tab.table.rows.length

variable {tab : NodesTab}

theorem sound_initial : initial.Sound where
  table_eq := rfl
  selected_lt := by decide

theorem sound_load (tab : NodesTab) (nodes : Collection NodeRecord) (fetchedAt : Int) :
    (tab.load nodes fetchedAt).Sound where
  table_eq := rfl
  selected_lt := Selection.clamp_lt _ _

namespace Sound

theorem select (h : tab.Sound) {move : Nat → Nat → Nat} (hm : Selection.Keeps move) :
    (tab.select move).Sound where
  table_eq := h.table_eq
  selected_lt := hm _ _ h.selected_lt

theorem selectedRow?_eq (h : tab.Sound) :
    tab.selectedRow? = tab.nodes.records[tab.selected]?.map NodeRow.ofNode := by
  unfold selectedRow?
  rw [h.table_eq]
  exact List.getElem?_map

theorem selectedRow?_id (h : tab.Sound) :
    tab.selectedRow?.map NodeRow.id = tab.nodes.records[tab.selected]?.map NodeRecord.id := by
  rw [h.selectedRow?_eq, Option.map_map]
  rfl

/-- Where there are rows one is selected. -/
theorem selectedRow?_isSome_iff (h : tab.Sound) :
    tab.selectedRow?.isSome ↔ tab.table.rows ≠ [] :=
  Selection.getElem?_isSome_iff h.selected_lt

theorem selectedNode?_id (h : tab.Sound) :
    tab.selectedNode?.map NodeRecord.id = tab.selectedRow?.map NodeRow.id :=
  Collection.id_bind_find? h.selectedRow?_id fun _ => List.mem_of_getElem?

/-- The selected node is the one that the selected row was rendered from. -/
theorem selectedNode?_eq (h : tab.Sound) (hd : tab.nodes.Distinct) :
    tab.selectedNode? = tab.nodes.records[tab.selected]? :=
  hd.bind_find? h.selectedRow?_id fun _ => List.mem_of_getElem?

end Sound

end NodesTab

end Console

end ClusterBoard
