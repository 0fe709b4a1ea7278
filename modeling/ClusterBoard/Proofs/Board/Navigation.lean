import Mathlib
import ClusterBoard.Board.Navigation
import ClusterBoard.Proofs.Board.Grouping
import ClusterBoard.Proofs.Record.Order

/-!
# The navigation lists the groups

The entries are those of the groups, most nodes first, and groups with equally many nodes stay in
their order (`filter_entries`). So the first entry is the user shown at first: looking for the first
group with the most nodes and sorting agree also on ties (`head?_entries`).
-/

namespace ClusterBoard

namespace Navigation

variable {g : Grouping} {jobs : Collection JobRecord}

/-- The entry of a group. -/
def entryOf (group : UserGroup) : NavEntry := ⟨group.user, group.nodeCount⟩

theorem entries_perm (g : Grouping) : (ofGrouping g).entries.Perm (g.groups.map entryOf) :=
  List.mergeSort_perm _ _

theorem mem_entries {entry : NavEntry} :
    entry ∈ (ofGrouping g).entries ↔ ∃ group ∈ g.groups, entryOf group = entry := by
  rw [(entries_perm g).mem_iff, List.mem_map]

/-- Having no fewer nodes is transitive and total. -/
theorem moreNodes_trans (a b c : NavEntry) (hab : decide (b.nodeCount ≤ a.nodeCount) = true)
    (hbc : decide (c.nodeCount ≤ b.nodeCount) = true) :
    decide (c.nodeCount ≤ a.nodeCount) = true := by
  rw [decide_eq_true_eq] at *
  exact hbc.trans hab

theorem moreNodes_total (a b : NavEntry) :
    (decide (b.nodeCount ≤ a.nodeCount) || decide (a.nodeCount ≤ b.nodeCount)) = true := by
  simpa using le_total b.nodeCount a.nodeCount

theorem entries_pairwise (g : Grouping) :
    (ofGrouping g).entries.Pairwise fun a b => b.nodeCount ≤ a.nodeCount := by
  have h := List.pairwise_mergeSort moreNodes_trans moreNodes_total (g.groups.map entryOf)
  exact h.imp of_decide_eq_true

/-- Groups with equally many nodes stay in their order. -/
theorem filter_entries (g : Grouping) (count : Nat) :
    (ofGrouping g).entries.filter (·.nodeCount == count) =
      (g.groups.map entryOf).filter (·.nodeCount == count) := by
  refine filter_mergeSort moreNodes_trans moreNodes_total (fun a b ha hb => ?_) _
  rw [beq_iff_eq] at ha hb
  simp [ha, hb]

/-- The first entry has as many nodes as any group. -/
theorem nodeCount_first {group : UserGroup} {entry : NavEntry} {rest : List NavEntry}
    (h : group.IsFirstLargest g.groups) (he : (ofGrouping g).entries = entry :: rest) :
    entry.nodeCount = group.nodeCount := by
  apply le_antisymm
  · obtain ⟨other, hother, rfl⟩ := mem_entries.mp (he ▸ List.mem_cons_self)
    exact h.le hother
  · have hmem : entryOf group ∈ entry :: rest := he ▸ mem_entries.mpr ⟨group, h.mem, rfl⟩
    rcases List.mem_cons.mp hmem with heq | hrest
    · exact le_of_eq (congrArg NavEntry.nodeCount heq)
    · have hsorted := entries_pairwise g
      rw [he, List.pairwise_cons] at hsorted
      exact hsorted.1 _ hrest

/-- Among the groups with the most nodes the first one leads. -/
theorem head?_entries_of_isFirstLargest {group : UserGroup} (h : group.IsFirstLargest g.groups) :
    (ofGrouping g).entries.head? = some (entryOf group) := by
  have hfilter := filter_entries g group.nodeCount
  cases he : (ofGrouping g).entries with
  | nil => exact absurd (mem_entries.mpr ⟨group, h.mem, rfl⟩) (he ▸ List.not_mem_nil)
  | cons entry rest =>
    have hfirst := nodeCount_first h he
    obtain ⟨before, after, hgroups, hbefore, -⟩ := h
    have hnone : (before.map entryOf).filter (·.nodeCount == group.nodeCount) = [] := by
      rw [List.filter_eq_nil_iff]
      simpa [entryOf] using fun a ha => (hbefore a ha).ne
    rw [he, hgroups, List.map_append, List.filter_append, hnone, List.nil_append, List.map_cons,
      List.filter_cons_of_pos (by simpa using hfirst),
      List.filter_cons_of_pos (by simp [entryOf])] at hfilter
    exact congrArg some (List.cons.inj hfilter).1

/-- The first entry is the user to show first. -/
theorem head?_entries (jobs : Collection JobRecord) :
    (ofGrouping (.ofJobs jobs)).entries.head?.map NavEntry.user =
      (Grouping.ofJobs jobs).focusedUser := by
  cases h : (Grouping.ofJobs jobs).focusedUser with
  | none =>
    have hgroups := Grouping.groups_eq_nil_iff.mpr (Grouping.focusedUser_eq_none_iff.mp h)
    simp [ofGrouping, hgroups]
  | some user =>
    obtain ⟨group, hgroup, rfl⟩ := Grouping.focusedUser_eq_some h
    rw [head?_entries_of_isFirstLargest hgroup]
    rfl

/-- The users of the navigation share out all jobs. -/
theorem flatMap_jobs_perm (jobs : Collection JobRecord) :
    ((ofGrouping (.ofJobs jobs)).entries.flatMap fun entry =>
      jobs.records.filter (·.user == entry.user)).Perm jobs.records := by
  have hentries := (entries_perm (.ofJobs jobs)).flatMap_right
    fun entry => jobs.records.filter (·.user == entry.user)
  rw [List.flatMap_map] at hentries
  refine hentries.trans ?_
  have hgroups : ∀ group ∈ (Grouping.ofJobs jobs).groups,
      jobs.records.filter (·.user == (entryOf group).user) =
        group.jobs.filterMap fun place => jobs.records[place]?.map id := by
    intro group hg
    rw [Grouping.jobs_eq_placesOf hg, filterMap_placesOf, List.map_id]
    rfl
  have hall := (Grouping.flatMap_jobs_perm jobs).filterMap fun place =>
    jobs.records[place]?.map id
  rw [List.flatMap_congr hgroups, ← List.filterMap_flatMap]
  unfold Collection.size at hall
  rwa [filterMap_range, List.map_id] at hall

end Navigation

/-! ## The theorem -/

/-- The groups split the jobs by user, and the user to show first has the most nodes. -/
structure Grouping.Partitions (g : Grouping) (jobs : Collection JobRecord) : Prop where
  /-- Every user has one group. -/
  distinct : (g.groups.map UserGroup.user).Nodup
  nonempty : ∀ group ∈ g.groups, group.jobs ≠ []
  increasing : ∀ group ∈ g.groups, group.jobs.Pairwise (· < ·)
  /-- A group holds jobs of its user only. -/
  owned : ∀ group ∈ g.groups, ∀ place ∈ group.jobs,
    ∃ job, jobs.records[place]? = some job ∧ job.user = group.user
  disjoint : g.groups.Pairwise fun a b => a.jobs.Disjoint b.jobs
  /-- Every job is in a group. -/
  places : (g.groups.flatMap UserGroup.jobs).Perm (List.range jobs.size)
  /-- Groups stand in the order of their first jobs. -/
  ordered : g.groups.Pairwise fun a b =>
    ∃ i j, a.jobs.head? = some i ∧ b.jobs.head? = some j ∧ i < j
  nodeCount_eq : ∀ group ∈ g.groups, group.nodeCount =
    (group.jobs.filterMap fun place => jobs.records[place]?.map JobRecord.nodeCount).sum
  /-- Look-up by name finds the group of that name. -/
  group?_iff : ∀ user group, g.group? user = some group ↔ group ∈ g.groups ∧ group.user = user
  focus_none : g.focusedUser = none ↔ jobs.records = []
  focus_some : ∀ user, g.focusedUser = some user →
    ∃ group : UserGroup, group.IsFirstLargest g.groups ∧ group.user = user

/-- The navigation lists the groups, most nodes first and ties in the order of the groups. -/
structure Navigation.Ranks (nav : Navigation) (g : Grouping) : Prop where
  perm : nav.entries.Perm (g.groups.map entryOf)
  descending : nav.entries.Pairwise fun a b => b.nodeCount ≤ a.nodeCount
  /-- Entries with equally many nodes stand in the order of their groups. -/
  stable : ∀ count, nav.entries.filter (·.nodeCount == count) =
    (g.groups.map entryOf).filter (·.nodeCount == count)
  /-- The first entry is the user to show first. -/
  first : nav.entries.head?.map NavEntry.user = g.focusedUser

/-- **Grouping and navigation.** The groups of a collection partition its jobs by user, and the
navigation ranks them. -/
theorem ofJobs_partitions_ofGrouping_ranks (jobs : Collection JobRecord) :
    (Grouping.ofJobs jobs).Partitions jobs ∧
      (Navigation.ofGrouping (.ofJobs jobs)).Ranks (.ofJobs jobs) where
  left :=
    { distinct := (Grouping.ofJobs_covers jobs).distinct
      nonempty := fun _ => Grouping.jobs_ne_nil
      increasing := fun _ => Grouping.jobs_pairwise
      owned := fun _ hg _ hplace => (Grouping.mem_jobs_iff hg).mp hplace
      disjoint := Grouping.groups_disjoint jobs
      places := Grouping.flatMap_jobs_perm jobs
      ordered := (Grouping.ofJobs_covers jobs).ordered
      nodeCount_eq := fun _ => Grouping.nodeCount_eq_sum
      group?_iff := fun _ _ => Grouping.group?_eq_some_iff
      focus_none := Grouping.focusedUser_eq_none_iff
      focus_some := fun _ => Grouping.focusedUser_eq_some }
  right :=
    { perm := Navigation.entries_perm _
      descending := Navigation.entries_pairwise _
      stable := Navigation.filter_entries _
      first := Navigation.head?_entries jobs }

end ClusterBoard
