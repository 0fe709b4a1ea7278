import Mathlib
import ClusterBoard.Board.Grouping

/-!
# Groups of a collection

One job after the other enters the tally. `Tally.Covers` says what the tally of a list of jobs is:
one group for each user, with the places and the node count of that user's jobs, in the order of the
first places, and an index that tells where each group stands. One job keeps it (`Covers.add`), so
it holds of every list (`Tally.ofList_covers`). What is shown first is the first group with the most
nodes (`firstLargest?_spec`).
-/

namespace ClusterBoard

/-- The places of a user's jobs. -/
def placesOf (user : String) (jobs : List JobRecord) : List Nat :=
  (jobs.zipIdx.filter fun entry => entry.1.user == user).map Prod.snd

/-- The nodes of a user's jobs together. -/
def nodesOf (user : String) (jobs : List JobRecord) : Nat :=
  ((jobs.filter fun job => job.user == user).map JobRecord.nodeCount).sum

variable {jobs : List JobRecord} {job : JobRecord} {user : String}

/-! ## The jobs of one user -/

theorem placesOf_concat : placesOf user (jobs ++ [job]) =
    placesOf user jobs ++ if job.user = user then [jobs.length] else [] := by
  unfold placesOf
  rw [List.zipIdx_append, List.filter_append, List.map_append]
  by_cases h : job.user = user <;> simp [h]

theorem nodesOf_concat : nodesOf user (jobs ++ [job]) =
    nodesOf user jobs + if job.user = user then job.nodeCount else 0 := by
  unfold nodesOf
  rw [List.filter_append, List.map_append, List.sum_append]
  by_cases h : job.user = user <;> simp [h]

theorem mem_placesOf {place : Nat} :
    place ∈ placesOf user jobs ↔ ∃ job, jobs[place]? = some job ∧ job.user = user := by
  simp [placesOf, List.mk_mem_zipIdx_iff_getElem?]

theorem lt_of_mem_placesOf {place : Nat} (h : place ∈ placesOf user jobs) :
    place < jobs.length := by
  obtain ⟨job, hjob, -⟩ := mem_placesOf.mp h
  exact (List.getElem?_eq_some_iff.mp hjob).1

theorem placesOf_pairwise (user : String) (jobs : List JobRecord) :
    (placesOf user jobs).Pairwise (· < ·) := by
  have hsub : (placesOf user jobs).Sublist (jobs.zipIdx.map Prod.snd) :=
    List.filter_sublist.map _
  refine List.Pairwise.sublist hsub ?_
  rw [List.zipIdx_map_snd]
  exact List.pairwise_lt_range'

theorem placesOf_eq_nil_iff : placesOf user jobs = [] ↔ ∀ job ∈ jobs, job.user ≠ user := by
  rw [List.eq_nil_iff_forall_not_mem]
  constructor
  · intro h job hjob he
    obtain ⟨place, hplace⟩ := List.mem_iff_getElem?.mp hjob
    exact h place (mem_placesOf.mpr ⟨job, hplace, he⟩)
  · intro h place hplace
    obtain ⟨job, hjob, he⟩ := mem_placesOf.mp hplace
    exact h job (List.mem_of_getElem? hjob) he

theorem nodesOf_eq_zero (h : ∀ job ∈ jobs, job.user ≠ user) : nodesOf user jobs = 0 := by
  unfold nodesOf
  rw [List.filter_eq_nil_iff.mpr (by simpa using h)]
  rfl

/-- At the places of the entries that pass a test stand the entries that pass it. -/
theorem filterMap_places {α β : Type} (p : α → Bool) (f : α → β) (l : List α) :
    ((l.zipIdx.filter fun entry => p entry.1).map Prod.snd).filterMap
      (fun place => l[place]?.map f) = (l.filter p).map f := by
  have hfst : l.filter p = (l.zipIdx.filter fun entry => p entry.1).map Prod.fst := by
    conv_lhs => rw [← List.zipIdx_map_fst 0 l, List.filter_map]
    rfl
  rw [hfst, List.map_map, List.filterMap_map, ← List.filterMap_eq_map]
  refine List.filterMap_congr fun entry hentry => ?_
  have hget : l[entry.2]? = some entry.1 :=
    List.mk_mem_zipIdx_iff_getElem?.mp (List.mem_filter.mp hentry).1
  simp [hget]

theorem filterMap_placesOf {β : Type} (f : JobRecord → β) (user : String) (jobs : List JobRecord) :
    (placesOf user jobs).filterMap (fun place => jobs[place]?.map f) =
      (jobs.filter fun job => job.user == user).map f :=
  filterMap_places (fun job : JobRecord => job.user == user) f jobs

theorem filterMap_range {α β : Type} (f : α → β) (l : List α) :
    (List.range l.length).filterMap (fun place => l[place]?.map f) = l.map f := by
  have h := filterMap_places (fun _ => true) f l
  rwa [List.filter_true, List.filter_true, List.zipIdx_map_snd, ← List.range_eq_range'] at h

namespace UserGroup

/-- The group after a job, of its own user or another. -/
def after (group : UserGroup) (place : Nat) (job : JobRecord) : UserGroup :=
  if group.user = job.user then group.add place job.nodeCount else group

@[simp] theorem user_after (group : UserGroup) (place : Nat) (job : JobRecord) :
    (group.after place job).user = group.user := by
  unfold after; split_ifs <;> rfl

theorem head?_after {group : UserGroup} {i place : Nat} (h : group.jobs.head? = some i) :
    (group.after place job).jobs.head? = some i := by
  unfold after add
  split_ifs
  · rw [List.head?_append, h]; rfl
  · exact h

end UserGroup

/-! ## The tally -/

namespace Tally

/-- What the tally of `jobs` is. -/
structure Covers (t : Tally) (jobs : List JobRecord) : Prop where
  /-- Every user has one group. -/
  distinct : (t.groups.map UserGroup.user).Nodup
  /-- The index tells where it stands. -/
  index_eq : ∀ user, t.index.lookup user = t.groups.findIdx? (·.user == user)
  /-- A group holds all its user's jobs. -/
  group_eq : ∀ group ∈ t.groups,
    group.jobs = placesOf group.user jobs ∧ group.nodeCount = nodesOf group.user jobs
  /-- The users are those of the jobs. -/
  user_iff : ∀ user, user ∈ t.groups.map UserGroup.user ↔ ∃ job ∈ jobs, job.user = user
  /-- Groups stand in the order of their first jobs. -/
  ordered : t.groups.Pairwise fun a b =>
    ∃ i j, a.jobs.head? = some i ∧ b.jobs.head? = some j ∧ i < j

theorem covers_empty : Tally.empty.Covers [] where
  distinct := List.nodup_nil
  index_eq _ := rfl
  group_eq _ h := absurd h (List.not_mem_nil)
  user_iff _ := by simp [empty]
  ordered := List.Pairwise.nil

/-- With one group for each user, changing the group at a user's place is changing that user's
group. -/
theorem modify_eq_map {groups : List UserGroup} {slot : Nat} (f : UserGroup → UserGroup)
    (hd : (groups.map UserGroup.user).Nodup)
    (hs : groups.findIdx? (·.user == user) = some slot) :
    groups.modify slot f =
      groups.map fun group => if group.user = user then f group else group := by
  induction groups generalizing slot with
  | nil => simp at hs
  | cons group groups ih =>
    rw [List.map_cons, List.nodup_cons] at hd
    rw [List.findIdx?_cons] at hs
    by_cases h : group.user = user
    · have hne : ∀ g ∈ groups, g.user ≠ user := fun g hg he =>
        hd.1 (List.mem_map.mpr ⟨g, hg, he.trans h.symm⟩)
      have hid : (groups.map fun g => if g.user = user then f g else g) = groups :=
        (List.map_congr_left fun g hg => if_neg (hne g hg)).trans groups.map_id
      obtain rfl : 0 = slot := by simpa [h] using hs
      rw [List.modify_zero_cons, List.map_cons, if_pos h, hid]
    · obtain ⟨i, hi, rfl⟩ : ∃ i, groups.findIdx? (·.user == user) = some i ∧ i + 1 = slot := by
        simpa [h] using hs
      rw [List.modify_succ_cons, List.map_cons, if_neg h, ih hd.2 hi]

variable {t : Tally}

theorem add_of_lookup_none (h : t.index.lookup job.user = none) (place : Nat) :
    t.add place job = ⟨t.groups ++ [⟨job.user, [place], job.nodeCount⟩],
      (job.user, t.groups.length) :: t.index⟩ := by
  unfold add; rw [h]

theorem add_of_lookup_some {slot : Nat} (h : t.index.lookup job.user = some slot) (place : Nat) :
    t.add place job = ⟨t.groups.modify slot (·.add place job.nodeCount), t.index⟩ := by
  unfold add; rw [h]

theorem Covers.lookup_eq_none_iff (h : t.Covers jobs) :
    t.index.lookup user = none ↔ ∀ group ∈ t.groups, group.user ≠ user := by
  rw [h.index_eq, List.findIdx?_eq_none_iff]
  simp

/-- Every group has a first job. -/
theorem Covers.exists_head? (h : t.Covers jobs) {group : UserGroup} (hg : group ∈ t.groups) :
    ∃ i, group.jobs.head? = some i ∧ i < jobs.length := by
  obtain ⟨job, hjob, he⟩ := (h.user_iff group.user).mp (List.mem_map_of_mem hg)
  have hne : group.jobs ≠ [] := by
    rw [(h.group_eq group hg).1]
    exact fun hnil => placesOf_eq_nil_iff.mp hnil job hjob he
  refine ⟨group.jobs.head hne, List.head?_eq_some_head hne, ?_⟩
  have hmem : group.jobs.head hne ∈ placesOf group.user jobs := by
    rw [← (h.group_eq group hg).1]; exact List.head_mem hne
  exact lt_of_mem_placesOf hmem

/-- A job of a user without a group opens one. -/
theorem Covers.add_new (h : t.Covers jobs) (hnew : t.index.lookup job.user = none) :
    (t.add jobs.length job).Covers (jobs ++ [job]) := by
  have hgroups : ∀ group ∈ t.groups, group.user ≠ job.user := h.lookup_eq_none_iff.mp hnew
  have hjobs : ∀ j ∈ jobs, j.user ≠ job.user := by
    intro j hj he
    obtain ⟨group, hg, hu⟩ := List.mem_map.mp ((h.user_iff job.user).mpr ⟨j, hj, he⟩)
    exact hgroups group hg hu
  rw [add_of_lookup_none hnew]
  constructor
  case distinct =>
    rw [List.map_append, List.nodup_append]
    refine ⟨h.distinct, List.nodup_singleton _, ?_⟩
    simpa using hgroups
  case index_eq =>
    intro user
    rw [List.lookup_cons, List.findIdx?_append, h.index_eq]
    by_cases hu : user = job.user
    · have hnone : t.groups.findIdx? (·.user == user) = none := by
        rw [hu, ← h.index_eq, hnew]
      rw [hnone, hu]
      simp
    · have hne : (user == job.user) = false := by simpa using hu
      rw [hne]
      simp [Ne.symm hu]
  case group_eq =>
    intro group hg
    rw [placesOf_concat, nodesOf_concat]
    rcases List.mem_append.mp hg with hg | hg
    · obtain ⟨hplaces, hnodes⟩ := h.group_eq group hg
      simp [hplaces, hnodes, Ne.symm (hgroups group hg)]
    · obtain rfl := List.mem_singleton.mp hg
      simp [placesOf_eq_nil_iff.mpr hjobs, nodesOf_eq_zero hjobs]
  case user_iff =>
    intro user
    rw [List.map_append, List.mem_append, h.user_iff user]
    simp [or_and_right, exists_or, eq_comm]
  case ordered =>
    rw [List.pairwise_append]
    refine ⟨h.ordered, List.pairwise_singleton _ _, fun a ha b hb => ?_⟩
    obtain ⟨i, hi, hlt⟩ := h.exists_head? ha
    obtain rfl := List.mem_singleton.mp hb
    exact ⟨i, jobs.length, hi, rfl, hlt⟩

/-- A job of a user with a group enters it. -/
theorem Covers.add_known {slot : Nat} (h : t.Covers jobs)
    (hs : t.index.lookup job.user = some slot) :
    (t.add jobs.length job).Covers (jobs ++ [job]) := by
  have hslot : t.groups.findIdx? (·.user == job.user) = some slot := by rw [← h.index_eq, hs]
  have hmap : (t.groups.map (·.after jobs.length job)).map UserGroup.user =
      t.groups.map UserGroup.user := by simp
  have hknown : ∃ j ∈ jobs, j.user = job.user := by
    have hne : ¬ ∀ group ∈ t.groups, group.user ≠ job.user := by
      rw [← h.lookup_eq_none_iff, hs]
      exact Option.some_ne_none slot
    push Not at hne
    obtain ⟨group, hg, hu⟩ := hne
    exact (h.user_iff job.user).mp (hu ▸ List.mem_map_of_mem hg)
  rw [add_of_lookup_some hs, modify_eq_map _ h.distinct hslot]
  change Covers ⟨t.groups.map (·.after jobs.length job), t.index⟩ (jobs ++ [job])
  constructor
  case distinct => exact hmap ▸ h.distinct
  case index_eq =>
    intro user
    rw [h.index_eq, List.findIdx?_map]
    simp [Function.comp_def]
  case group_eq =>
    intro group hg
    obtain ⟨old, hold, rfl⟩ := List.mem_map.mp hg
    obtain ⟨hplaces, hnodes⟩ := h.group_eq old hold
    rw [placesOf_concat, nodesOf_concat]
    by_cases he : old.user = job.user
    · simp [he, UserGroup.after, UserGroup.add, hplaces, hnodes]
    · simp [he, Ne.symm he, UserGroup.after, hplaces, hnodes]
  case user_iff =>
    intro user
    rw [hmap, h.user_iff]
    constructor
    · rintro ⟨j, hj, he⟩
      exact ⟨j, List.mem_append_left _ hj, he⟩
    · rintro ⟨j, hj, he⟩
      rcases List.mem_append.mp hj with hj | hj
      · exact ⟨j, hj, he⟩
      · obtain rfl := List.mem_singleton.mp hj
        exact he ▸ hknown
  case ordered =>
    rw [List.pairwise_map]
    refine h.ordered.imp ?_
    rintro a b ⟨i, j, hi, hj, hlt⟩
    exact ⟨i, j, UserGroup.head?_after hi, UserGroup.head?_after hj, hlt⟩

/-- One more job keeps the tally. -/
theorem Covers.add (h : t.Covers jobs) : (t.add jobs.length job).Covers (jobs ++ [job]) := by
  cases hs : t.index.lookup job.user with
  | none => exact h.add_new hs
  | some slot => exact h.add_known hs

theorem ofList_concat (jobs : List JobRecord) (job : JobRecord) :
    ofList (jobs ++ [job]) = (ofList jobs).add jobs.length job := by
  unfold ofList
  rw [List.zipIdx_append, List.foldl_append]
  simp

theorem ofList_covers (jobs : List JobRecord) : (ofList jobs).Covers jobs := by
  induction jobs using List.reverseRecOn with
  | nil => exact covers_empty
  | append_singleton jobs job ih =>
    rw [ofList_concat]
    exact ih.add

end Tally

/-! ## The user to show first -/

namespace UserGroup

/-- The group has more nodes than all before it and no fewer than all after it. -/
def IsFirstLargest (group : UserGroup) (groups : List UserGroup) : Prop :=
  ∃ before after, groups = before ++ group :: after ∧
    (∀ g ∈ before, g.nodeCount < group.nodeCount) ∧ ∀ g ∈ after, g.nodeCount ≤ group.nodeCount

theorem IsFirstLargest.mem {group : UserGroup} {groups : List UserGroup}
    (h : group.IsFirstLargest groups) : group ∈ groups := by
  obtain ⟨before, after, rfl, -, -⟩ := h
  simp

theorem IsFirstLargest.le {group g : UserGroup} {groups : List UserGroup}
    (h : group.IsFirstLargest groups) (hg : g ∈ groups) : g.nodeCount ≤ group.nodeCount := by
  obtain ⟨before, after, rfl, hbefore, hafter⟩ := h
  rcases List.mem_append.mp hg with hg | hg
  · exact (hbefore g hg).le
  · rcases List.mem_cons.mp hg with rfl | hg
    · exact le_rfl
    · exact hafter g hg

theorem firstLargest?_concat (groups : List UserGroup) (g : UserGroup) :
    firstLargest? (groups ++ [g]) = some (match firstLargest? groups with
      | none => g
      | some best => if best.nodeCount < g.nodeCount then g else best) := by
  cases groups with
  | nil => rfl
  | cons group groups => simp [firstLargest?, List.foldl_append]

theorem firstLargest?_eq_none_iff {groups : List UserGroup} :
    firstLargest? groups = none ↔ groups = [] := by
  cases groups <;> simp [firstLargest?]

theorem firstLargest?_spec {groups : List UserGroup} {group : UserGroup}
    (h : firstLargest? groups = some group) : group.IsFirstLargest groups := by
  induction groups using List.reverseRecOn generalizing group with
  | nil => exact absurd h (by simp [firstLargest?])
  | append_singleton groups g ih =>
    rw [firstLargest?_concat] at h
    cases hbest : firstLargest? groups with
    | none =>
      rw [hbest] at h
      obtain rfl := firstLargest?_eq_none_iff.mp hbest
      obtain rfl : g = group := Option.some.inj h
      exact ⟨[], [], rfl, by simp, by simp⟩
    | some best =>
      have hspec := ih hbest
      rw [hbest] at h
      by_cases hlt : best.nodeCount < g.nodeCount
      · obtain rfl : g = group := by simpa [hlt] using h
        exact ⟨groups, [], rfl, fun b hb => (hspec.le hb).trans_lt hlt, by simp⟩
      · obtain rfl : best = group := by simpa [hlt] using h
        obtain ⟨before, after, rfl, hbefore, hafter⟩ := hspec
        refine ⟨before, after ++ [g], by simp, hbefore, fun a ha => ?_⟩
        rcases List.mem_append.mp ha with ha | ha
        · exact hafter a ha
        · obtain rfl := List.mem_singleton.mp ha
          exact Nat.le_of_not_lt hlt

end UserGroup

/-! ## The groups of a collection -/

namespace Grouping

variable {jobs : Collection JobRecord} {group : UserGroup}

theorem ofJobs_covers (jobs : Collection JobRecord) :
    Tally.Covers ⟨(ofJobs jobs).groups, (ofJobs jobs).index⟩ jobs.records :=
  Tally.ofList_covers jobs.records

/-- Through the index one finds the group that bears the user's name. -/
theorem group?_eq_find? (jobs : Collection JobRecord) (user : String) :
    (ofJobs jobs).group? user = (ofJobs jobs).groups.find? (·.user == user) := by
  rw [List.find?_eq_bind_findIdx?_getElem?, ← (ofJobs_covers jobs).index_eq]
  rfl

theorem group?_eq_some_iff : (ofJobs jobs).group? user = some group ↔
    group ∈ (ofJobs jobs).groups ∧ group.user = user := by
  rw [group?_eq_find?]
  constructor
  · intro h
    exact ⟨List.mem_of_find?_eq_some h, by simpa using List.find?_some h⟩
  · rintro ⟨hg, rfl⟩
    cases h : (ofJobs jobs).groups.find? (·.user == group.user) with
    | none => simpa using List.find?_eq_none.mp h group hg
    | some g =>
      have hu : g.user = group.user := by simpa using List.find?_some h
      exact congrArg some (List.inj_on_of_nodup_map (ofJobs_covers jobs).distinct
        (List.mem_of_find?_eq_some h) hg hu)

theorem slot_lt {slot : Nat} (h : (ofJobs jobs).index.lookup user = some slot) :
    slot < (ofJobs jobs).groups.length := by
  rw [(ofJobs_covers jobs).index_eq] at h
  exact (List.findIdx?_eq_some_iff_getElem.mp h).1

theorem jobs_eq_placesOf (hg : group ∈ (ofJobs jobs).groups) :
    group.jobs = placesOf group.user jobs.records :=
  ((ofJobs_covers jobs).group_eq group hg).1

theorem nodeCount_eq_nodesOf (hg : group ∈ (ofJobs jobs).groups) :
    group.nodeCount = nodesOf group.user jobs.records :=
  ((ofJobs_covers jobs).group_eq group hg).2

theorem jobs_ne_nil (hg : group ∈ (ofJobs jobs).groups) : group.jobs ≠ [] := by
  obtain ⟨i, hi, -⟩ := (ofJobs_covers jobs).exists_head? hg
  rintro hnil
  simp [hnil] at hi

theorem jobs_pairwise (hg : group ∈ (ofJobs jobs).groups) : group.jobs.Pairwise (· < ·) := by
  rw [jobs_eq_placesOf hg]
  exact placesOf_pairwise _ _

theorem mem_jobs_iff (hg : group ∈ (ofJobs jobs).groups) {place : Nat} :
    place ∈ group.jobs ↔ ∃ job, jobs.records[place]? = some job ∧ job.user = group.user := by
  rw [jobs_eq_placesOf hg, mem_placesOf]

theorem lt_size_of_mem_jobs (hg : group ∈ (ofJobs jobs).groups) {place : Nat}
    (h : place ∈ group.jobs) : place < jobs.size :=
  lt_of_mem_placesOf (jobs_eq_placesOf hg ▸ h)

theorem size_le (hg : group ∈ (ofJobs jobs).groups) : group.size ≤ jobs.size := by
  unfold UserGroup.size Collection.size
  rw [jobs_eq_placesOf hg, placesOf, List.length_map]
  exact (List.length_filter_le _ _).trans_eq List.length_zipIdx

/-- No job is in two groups. -/
theorem groups_disjoint (jobs : Collection JobRecord) :
    (ofJobs jobs).groups.Pairwise fun a b => a.jobs.Disjoint b.jobs := by
  have hne := List.pairwise_map.mp (ofJobs_covers jobs).distinct
  refine hne.imp_of_mem fun {a b} ha hb hab place hpa hpb => hab ?_
  obtain ⟨job, hjob, hua⟩ := (mem_jobs_iff ha).mp hpa
  obtain ⟨job', hjob', hub⟩ := (mem_jobs_iff hb).mp hpb
  obtain rfl : job = job' := Option.some.inj (hjob.symm.trans hjob')
  exact hua.symm.trans hub

/-- Every job is in one group. -/
theorem flatMap_jobs_perm (jobs : Collection JobRecord) :
    ((ofJobs jobs).groups.flatMap UserGroup.jobs).Perm (List.range jobs.size) := by
  have hnodup : ((ofJobs jobs).groups.flatMap UserGroup.jobs).Nodup := by
    rw [List.nodup_flatMap]
    refine ⟨fun group hg => ?_, groups_disjoint jobs⟩
    exact (jobs_pairwise hg).imp Nat.ne_of_lt
  rw [List.perm_ext_iff_of_nodup hnodup List.nodup_range]
  intro place
  rw [List.mem_flatMap, List.mem_range]
  constructor
  · rintro ⟨group, hg, hplace⟩
    exact lt_size_of_mem_jobs hg hplace
  · intro hlt
    have hget : jobs.records[place]? = some jobs.records[place] := List.getElem?_eq_getElem hlt
    obtain ⟨group, hg, hu⟩ := List.mem_map.mp
      (((ofJobs_covers jobs).user_iff _).mpr ⟨jobs.records[place], List.getElem_mem hlt, rfl⟩)
    exact ⟨group, hg, (mem_jobs_iff hg).mpr ⟨_, hget, hu.symm⟩⟩

/-- The node count of a group is that of its jobs together. -/
theorem nodeCount_eq_sum (hg : group ∈ (ofJobs jobs).groups) :
    group.nodeCount =
      (group.jobs.filterMap fun place => jobs.records[place]?.map JobRecord.nodeCount).sum := by
  rw [nodeCount_eq_nodesOf hg, jobs_eq_placesOf hg, filterMap_placesOf]
  rfl

theorem groups_eq_nil_iff : (ofJobs jobs).groups = [] ↔ jobs.records = [] := by
  have huser := (ofJobs_covers jobs).user_iff
  rw [List.eq_nil_iff_forall_not_mem, List.eq_nil_iff_forall_not_mem]
  constructor
  · intro h job hjob
    obtain ⟨group, hg, -⟩ := List.mem_map.mp ((huser job.user).mpr ⟨job, hjob, rfl⟩)
    exact h group hg
  · intro h group hg
    obtain ⟨job, hjob, -⟩ := (huser group.user).mp (List.mem_map_of_mem hg)
    exact h job hjob

theorem focusedUser_eq_none_iff : (ofJobs jobs).focusedUser = none ↔ jobs.records = [] := by
  rw [← groups_eq_nil_iff, ← UserGroup.firstLargest?_eq_none_iff]
  exact Option.map_eq_none_iff

theorem focusedUser_eq_some (h : (ofJobs jobs).focusedUser = some user) :
    ∃ group : UserGroup, group.IsFirstLargest (ofJobs jobs).groups ∧ group.user = user := by
  obtain ⟨group, hgroup, hu⟩ := Option.map_eq_some_iff.mp h
  exact ⟨group, UserGroup.firstLargest?_spec hgroup, hu⟩

end Grouping

end ClusterBoard
