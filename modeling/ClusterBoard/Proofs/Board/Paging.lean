import Mathlib
import ClusterBoard.Board.Pager
import ClusterBoard.Proofs.Board.Navigation
import ClusterBoard.Proofs.Record.Decoding

/-!
# Paging loses nothing

A user's jobs are cut into pages of `pageSize` (`flatMap_placesOn`). So the pages of a user, one
after the other, hold one row for each job of the user (`allRows_eq`), the pages of all users hold
every job once (`allIds_perm`), and the node lines on them are as many as the navigation and the
status say (`lineCount_eq`).
-/

namespace ClusterBoard

/-! ## Cutting a list -/

theorem lt_pageCount_iff {n count : Nat} : n < pageCount count ↔ n * pageSize < count := by
  unfold pageCount pageSize; omega

theorem flatMap_cuts {α : Type} (l : List α) (size : Nat) :
    ∀ k, (List.range k).flatMap (fun n => (l.drop (n * size)).take size) = l.take (k * size)
  | 0 => by simp
  | k + 1 => by
    rw [List.range_succ, List.flatMap_append, flatMap_cuts l size k, Nat.succ_mul, List.take_add]
    simp

namespace Pager

/-- On a page stand the next `pageSize` jobs. -/
theorem placesOn_succ (group : UserGroup) (n : Nat) :
    placesOn group (n + 1) = (group.jobs.drop (n * pageSize)).take pageSize := by
  unfold placesOn pageEnd pageStart
  rw [Nat.add_sub_cancel]
  by_cases h : group.size ≤ n * pageSize
  · rw [if_pos (Or.inr h), List.drop_of_length_le h, List.take_nil]
  · rw [if_neg (by omega), List.extract_eq_take_drop, List.take_eq_take_iff, List.length_drop]
    unfold UserGroup.size at *
    omega

theorem length_placesOn_succ (group : UserGroup) (n : Nat) :
    (placesOn group (n + 1)).length = min pageSize (group.size - n * pageSize) := by
  rw [placesOn_succ, List.length_take, List.length_drop]
  rfl

theorem mem_of_mem_placesOn {group : UserGroup} {page place : Nat}
    (h : place ∈ placesOn group page) : place ∈ group.jobs := by
  cases page with
  | zero => exact absurd h List.not_mem_nil
  | succ n =>
    rw [placesOn_succ] at h
    exact List.mem_of_mem_drop (List.mem_of_mem_take h)

/-- The pages of a group hold its jobs in order. -/
theorem flatMap_placesOn (group : UserGroup) :
    (List.range (pageCount group.size)).flatMap (fun n => placesOn group (n + 1)) =
      group.jobs := by
  have hall : group.jobs.length ≤ pageCount group.size * pageSize := by
    unfold pageCount pageSize UserGroup.size; omega
  simp only [placesOn_succ]
  rw [flatMap_cuts, List.take_of_length_le hall]

/-! ## Bounds in words

Page numbers and bounds are words of 64 bits, and arithmetic on them stops at the greatest word. As
long as the group fits, the bounds are the same. -/

/-- The greatest word. -/
def greatestWord : Nat := Nat.pow 2 64 - 1

/-- Where a page starts, in words. -/
def wordStart (page : Nat) : Nat := min ((page - 1) * pageSize) greatestWord

/-- Where a page ends, in words. -/
def wordEnd (page count : Nat) : Nat := min (min (wordStart page + pageSize) greatestWord) count

theorem placesOn_eq_words {group : UserGroup} (h : group.size ≤ greatestWord) (page : Nat) :
    placesOn group page = if page = 0 ∨ group.size ≤ wordStart page then []
      else group.jobs.extract (wordStart page) (wordEnd page group.size) := by
  unfold placesOn
  have hstart : group.size ≤ wordStart page ↔ group.size ≤ pageStart page := by
    unfold wordStart pageStart; omega
  by_cases hout : page = 0 ∨ group.size ≤ pageStart page
  · rw [if_pos hout, if_pos (by rwa [hstart])]
  · rw [if_neg hout, if_neg (by rwa [hstart])]
    have hs : wordStart page = pageStart page := by
      unfold wordStart pageStart at *; omega
    have he : wordEnd page group.size = pageEnd page group.size := by
      unfold wordEnd pageEnd; omega
    rw [hs, he]

theorem wordEnd_bounds {page count : Nat} (h : count ≤ greatestWord)
    (hin : wordStart page < count) : wordStart page ≤ wordEnd page count ∧
      wordEnd page count ≤ count := by
  unfold wordEnd
  omega

end Pager

/-! ## Rows and node lines -/

/-- The number of node lines in a row. -/
def JobRow.lineCount (row : JobRow) : Nat :=
  match row.nodes.content with
  | .nodes lines => lines.length
  | .noData => 0
  | .unavailable => 0

theorem JobRow.lineCount_ofJob (job : JobRecord) :
    (JobRow.ofJob job).lineCount = job.nodeCount := by
  unfold JobRow.lineCount JobRow.ofJob nodeListCell JobRecord.nodeCount
  cases job.snapshots <;> simp [NodeListView.ofSnapshots, NodeSnapshots.count]

namespace Pager

/-- The rows of all pages, one after the other. -/
def allRows (p : Pager) : List JobRow :=
  (List.range p.totalPages).flatMap fun n => (p.atPage (n + 1)).view.rows

/-- The number of node lines on all pages. -/
def lineCount (p : Pager) : Nat := (p.allRows.map JobRow.lineCount).sum

section Group

variable {p : Pager} {user : String} {group : UserGroup}

theorem totalPages_of_group (hg : p.group? = some group) : p.totalPages = pageCount group.size := by
  unfold totalPages; rw [hg]; rfl

theorem totalPages_of_no_group (hg : p.group? = none) : p.totalPages = 0 := by
  unfold totalPages; rw [hg]; rfl

theorem view_of_group (hu : p.user = some user) (hg : p.group? = some group) :
    p.view =
      { rows := p.rowsAt (placesOn group p.page)
        status := some s!"{user} ({group.nodeCount} nodes): Page {p.page} of {pageCount group.size}"
        page := p.page
        totalPages := pageCount group.size
        previousDisabled := p.page = 1
        nextDisabled := p.page = pageCount group.size } := by
  unfold view
  simp only [hu, hg]

theorem view_of_no_group (hg : p.group? = none) : p.view = .blank p.page := by
  unfold view
  simp only [hg]
  cases p.user <;> rfl

theorem length_rowsAt {places : List Nat} (h : ∀ place ∈ places, place < p.jobs.size) :
    (p.rowsAt places).length = places.length := by
  unfold rowsAt
  rw [List.filterMap_length_eq_length]
  intro place hplace
  have hlt : place < p.jobs.records.length := h place hplace
  simp [hlt]

theorem rows_atPage (hu : p.user = some user) (hg : p.group? = some group) (page : Nat) :
    (p.atPage page).view.rows = p.rowsAt (placesOn group page) := by
  have hu' : (p.atPage page).user = some user := hu
  have hg' : (p.atPage page).group? = some group := hg
  rw [view_of_group hu' hg']
  rfl

/-- The pages of a group show the jobs at its places. -/
theorem allRows_of_group (hu : p.user = some user) (hg : p.group? = some group) :
    p.allRows = p.rowsAt group.jobs := by
  unfold allRows
  simp only [rows_atPage hu hg, totalPages_of_group hg]
  conv_rhs => rw [← flatMap_placesOn group]
  unfold rowsAt
  rw [List.filterMap_flatMap]

end Group

/-! ## The pages of a user -/

/-- The grouping and the navigation are those of the jobs. -/
structure Derived (p : Pager) : Prop where
  grouping_eq : p.grouping = .ofJobs p.jobs
  navigation_eq : p.navigation = .ofGrouping p.grouping

theorem derived_ofJobs (jobs : Collection JobRecord) : (ofJobs jobs).Derived := ⟨rfl, rfl⟩

theorem Derived.select {p : Pager} (h : p.Derived) (user : String) : (p.select user).Derived :=
  ⟨h.grouping_eq, h.navigation_eq⟩

theorem Derived.atPage {p : Pager} (h : p.Derived) (page : Nat) : (p.atPage page).Derived :=
  ⟨h.grouping_eq, h.navigation_eq⟩

namespace Derived

variable {p : Pager} {group : UserGroup}

theorem mem_groups (h : p.Derived) (hg : p.group? = some group) :
    group ∈ (Grouping.ofJobs p.jobs).groups ∧ p.user = some group.user := by
  obtain ⟨user, hu, hgroup⟩ := Option.bind_eq_some_iff.mp hg
  rw [h.grouping_eq] at hgroup
  obtain ⟨hmem, rfl⟩ := Grouping.group?_eq_some_iff.mp hgroup
  exact ⟨hmem, hu⟩

theorem size_pos (h : p.Derived) (hg : p.group? = some group) : 0 < group.size :=
  List.length_pos_iff.mpr (Grouping.jobs_ne_nil (h.mem_groups hg).1)

theorem totalPages_pos (h : p.Derived) (hg : p.group? = some group) : 0 < p.totalPages := by
  rw [totalPages_of_group hg, lt_pageCount_iff, Nat.zero_mul]
  exact h.size_pos hg

theorem lt_size (h : p.Derived) (hg : p.group? = some group) {place : Nat}
    (hplace : place ∈ group.jobs) : place < p.jobs.size :=
  Grouping.lt_size_of_mem_jobs (h.mem_groups hg).1 hplace

/-- The number of rows on a page. -/
theorem length_rows (h : p.Derived) (hg : p.group? = some group) (n : Nat) :
    (p.atPage (n + 1)).view.rows.length = min pageSize (group.size - n * pageSize) := by
  have hin : ∀ place ∈ placesOn group (n + 1), place < p.jobs.size := fun place hplace =>
    h.lt_size hg (mem_of_mem_placesOn hplace)
  rw [rows_atPage (h.mem_groups hg).2 hg, length_rowsAt hin, length_placesOn_succ]

theorem allRows_eq (h : p.Derived) (hg : p.group? = some group) :
    p.allRows = (p.jobs.records.filter (·.user == group.user)).map JobRow.ofJob := by
  obtain ⟨hmem, hu⟩ := h.mem_groups hg
  rw [allRows_of_group hu hg, Grouping.jobs_eq_placesOf hmem]
  exact filterMap_placesOf JobRow.ofJob group.user p.jobs.records

theorem lineCount_eq (h : p.Derived) (hg : p.group? = some group) :
    p.lineCount = group.nodeCount := by
  unfold lineCount
  rw [h.allRows_eq hg, Grouping.nodeCount_eq_nodesOf (h.mem_groups hg).1, List.map_map]
  unfold nodesOf
  exact congrArg List.sum (List.map_congr_left fun job _ => JobRow.lineCount_ofJob job)

end Derived

/-! ## The pages of the users in the navigation -/

section Loaded

variable {jobs : Collection JobRecord} {entry : NavEntry}

/-- Every user of the navigation has a group with the entry's node count. -/
theorem exists_group (he : entry ∈ (ofJobs jobs).navigation.entries) :
    ∃ group, ((ofJobs jobs).select entry.user).group? = some group ∧
      group.user = entry.user ∧ group.nodeCount = entry.nodeCount := by
  obtain ⟨group, hg, rfl⟩ := Navigation.mem_entries.mp he
  exact ⟨group, Grouping.group?_eq_some_iff.mpr ⟨hg, rfl⟩, rfl, rfl⟩

/-- Over all users the pages hold every job once. -/
theorem allIds_perm (jobs : Collection JobRecord) :
    ((ofJobs jobs).navigation.entries.flatMap fun entry =>
      ((ofJobs jobs).select entry.user).allRows.map JobRow.id).Perm
        (jobs.records.map JobRecord.id) := by
  have hrows : ∀ entry ∈ (ofJobs jobs).navigation.entries,
      ((ofJobs jobs).select entry.user).allRows.map JobRow.id =
        (jobs.records.filter (·.user == entry.user)).map JobRecord.id := by
    intro entry he
    obtain ⟨group, hg, hu, -⟩ := exists_group he
    rw [((derived_ofJobs jobs).select entry.user).allRows_eq hg, hu, List.map_map]
    rfl
  rw [List.flatMap_congr hrows, ← List.map_flatMap]
  exact (Navigation.flatMap_jobs_perm jobs).map JobRecord.id

end Loaded

/-! ## The theorem -/

/-- A pager at a user of the navigation shows all the user's jobs, page by page. -/
structure ShowsAll (p : Pager) (entry : NavEntry) : Prop where
  /-- The pages hold one row for each job of the user, in the order of the collection. -/
  rows_eq : p.allRows = (p.jobs.records.filter (·.user == entry.user)).map JobRow.ofJob
  full : ∀ page, 1 ≤ page → page < p.totalPages → (p.atPage page).view.rows.length = 100
  last : 1 ≤ (p.atPage p.totalPages).view.rows.length ∧
    (p.atPage p.totalPages).view.rows.length ≤ 100
  outside : ∀ page, page = 0 ∨ p.totalPages < page → (p.atPage page).view.rows = []
  /-- In words the bounds of a page are the same, and all look-ups are in range. -/
  words : ∀ group, p.group? = some group → group.size ≤ greatestWord → ∀ page,
    placesOn group page = (if page = 0 ∨ group.size ≤ wordStart page then []
      else group.jobs.extract (wordStart page) (wordEnd page group.size)) ∧
    (wordStart page < group.size →
      wordStart page ≤ wordEnd page group.size ∧ wordEnd page group.size ≤ group.size) ∧
    ∀ place ∈ placesOn group page, place < p.jobs.size
  lines : p.lineCount = entry.nodeCount
  label : entry.label = s!"{entry.user} ({p.lineCount} nodes)"
  status : ∀ page, (p.atPage page).view.status =
    some s!"{entry.user} ({p.lineCount} nodes): Page {page} of {p.totalPages}"

section Loaded

variable {jobs : Collection JobRecord} {entry : NavEntry}

theorem showsAll_select (he : entry ∈ (ofJobs jobs).navigation.entries) :
    ((ofJobs jobs).select entry.user).ShowsAll entry := by
  have hd := (derived_ofJobs jobs).select entry.user
  obtain ⟨group, hg, hu, hcount⟩ := exists_group he
  have htotal := totalPages_of_group hg
  have hlines : ((ofJobs jobs).select entry.user).lineCount = entry.nodeCount :=
    (hd.lineCount_eq hg).trans hcount
  have hfirst := hd.totalPages_pos hg
  constructor
  case rows_eq => exact hu ▸ hd.allRows_eq hg
  case full =>
    intro page hone hlt
    obtain ⟨n, rfl⟩ := Nat.exists_eq_add_of_le' hone
    rw [htotal, lt_pageCount_iff, Nat.succ_mul] at hlt
    rw [hd.length_rows hg, Nat.min_eq_left (by omega)]
    rfl
  case last =>
    obtain ⟨n, hn⟩ := Nat.exists_eq_add_of_lt hfirst
    have hlt : n * pageSize < group.size := lt_pageCount_iff.mp (by omega)
    rw [hn, Nat.zero_add, hd.length_rows hg]
    unfold pageSize at *
    omega
  case outside =>
    rintro page (rfl | hlt)
    · exact rows_atPage rfl hg 0
    · obtain ⟨n, rfl⟩ := Nat.exists_eq_add_of_lt hlt
      have hend : ¬ (n + pageCount group.size) * pageSize < group.size :=
        fun h => absurd (lt_pageCount_iff.mpr h) (by omega)
      rw [htotal, Nat.add_comm _ n]
      refine List.eq_nil_of_length_eq_zero ?_
      rw [hd.length_rows hg]
      omega
  case words =>
    intro other hother hfits page
    obtain rfl : group = other := Option.some.inj (hg.symm.trans hother)
    refine ⟨placesOn_eq_words hfits page, wordEnd_bounds hfits, fun place hplace => ?_⟩
    exact hd.lt_size hg (mem_of_mem_placesOn hplace)
  case lines => exact hlines
  case label => rw [hlines]; rfl
  case status =>
    intro page
    have hg' : (((ofJobs jobs).select entry.user).atPage page).group? = some group := hg
    rw [view_of_group rfl hg', hlines, htotal, hcount]
    rfl

end Loaded

/-- **Paging loses nothing.** Loaded from an object, every user of the navigation sees all the
user's jobs, in pages of a hundred, and over all users every key of the object is seen once. -/
theorem ofJson_pages_complete (fields : Json.Fields) (h : fields.Distinct) :
    ∃ jobs : Collection JobRecord, Collection.ofJson (.object fields) = .ok jobs ∧
      jobs.records.Pairwise (fun a b => a.id.compare b.id = .gt) ∧
      (∀ entry ∈ (ofJobs jobs).navigation.entries,
        ((ofJobs jobs).select entry.user).ShowsAll entry) ∧
      ((ofJobs jobs).navigation.entries.flatMap fun entry =>
        ((ofJobs jobs).select entry.user).allRows.map fun row => row.id.text).Perm
          fields.keys := by
  refine ⟨_, Collection.ofJson_object fields, sortDescending_strict (Collection.nodup_ids h),
    fun entry he => showsAll_select he, ?_⟩
  have hids := (allIds_perm (.ofRecords (Collection.decoded JobRecord fields))).map RecordId.text
  rw [List.map_flatMap, List.map_map] at hids
  simp only [List.map_map] at hids
  exact hids.trans (Collection.texts_perm JobRecord fields)

/-- A job of ann on one node, and a record that is no object. -/
def annAndUnknown : Json.Fields :=
  [("12", .object [("spec", .object [("userName", .string "ann")]),
    ("status", .object [("slurmJobRunCurrentStatus", .object
      [("physicalNodeSnapshots", .object [("n0", .object [])])])])]), ("7", .null)]

/-- Two users, one of them without a node. -/
theorem ofJson_pages_complete_two_users : annAndUnknown.Distinct ∧
    ∃ jobs : Collection JobRecord, Collection.ofJson (.object annAndUnknown) = .ok jobs ∧
      ((ofJobs jobs).select "ann").ShowsAll ⟨"ann", 1⟩ ∧
      ((ofJobs jobs).select unknownUser).ShowsAll ⟨unknownUser, 0⟩ := by
  have hd : annAndUnknown.Distinct := by unfold Json.Fields.Distinct; decide
  obtain ⟨jobs, hjobs, -, hall, -⟩ := ofJson_pages_complete annAndUnknown hd
  have hsorted : jobs = ⟨Collection.decoded JobRecord annAndUnknown⟩ := by
    have h := hjobs
    rw [Collection.ofJson_object] at h
    rw [← Except.ok.inj h]
    exact congrArg Collection.mk (List.mergeSort_of_pairwise (by decide))
  have hgroups : (Grouping.ofJobs jobs).groups = [⟨"ann", [0], 1⟩, ⟨unknownUser, [1], 0⟩] := by
    rw [hsorted]; decide
  refine ⟨hd, jobs, hjobs, hall ⟨"ann", 1⟩ ?_, hall ⟨unknownUser, 0⟩ ?_⟩
  · exact Navigation.mem_entries.mpr ⟨⟨"ann", [0], 1⟩, by simp [hgroups], rfl⟩
  · exact Navigation.mem_entries.mpr ⟨⟨unknownUser, [1], 0⟩, by simp [hgroups], rfl⟩

end Pager

end ClusterBoard
