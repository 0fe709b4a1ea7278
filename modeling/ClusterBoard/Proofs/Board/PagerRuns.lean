import Mathlib
import ClusterBoard.Proofs.Board.Paging

/-!
# Runs of a pager

Seven operations change a pager, each some of its parts. `Pager.Step` says what one of them can do.
A step keeps what is derived from the jobs up to date (`Derived.step`) and the page in range
(`InRange.step`), so both hold after every run. From them follows what is shown: which moves are
offered, and whether there are rows (`Pager.run_sound`).
-/

namespace ClusterBoard.Pager

/-! ## Operations -/

/-- One operation on a pager. -/
inductive Operation where
  | load (jobs : Collection JobRecord)
  | refresh (jobs : Collection JobRecord)
  | select (user : String)
  | nextUser
  | previousUser
  | nextPage
  | previousPage

/-- The pager after an operation; a move that has nowhere to go changes nothing. -/
def apply (p : Pager) : Operation → Pager
  | .load jobs => .ofJobs jobs
  | .refresh jobs => p.refresh jobs
  | .select user => p.select user
  | .nextUser => p.nextUser?.getD p
  | .previousUser => p.previousUser?.getD p
  | .nextPage => p.nextPage?.getD p
  | .previousPage => p.previousPage?.getD p

/-- The pager after operations on the one with nothing loaded. -/
def run (operations : List Operation) : Pager := operations.foldl apply .initial

/-- What one operation can make of a pager. -/
inductive Step (p : Pager) : Pager → Prop
  | stay : Step p p
  | load (jobs : Collection JobRecord) : Step p (ofJobs jobs)
  /-- Fresh jobs for the same user. -/
  | keep (jobs : Collection JobRecord) (user : String) (page : Nat) (hpos : 1 ≤ page)
      (hle : page ≤ max 1 ((ofJobs jobs).select user).totalPages) :
      Step p (((ofJobs jobs).select user).atPage page)
  | select (user : String) : Step p (p.select user)
  | turn (page : Nat) (hpos : 1 ≤ page) (hle : page ≤ max p.page p.totalPages) :
      Step p (p.atPage page)

section Steps

variable {p q : Pager} {jobs : Collection JobRecord} {user : String}

theorem refresh_of_known (hu : p.user = some user) (hk : (ofJobs jobs).knows user) :
    p.refresh jobs = ((ofJobs jobs).select user).atPage
      (max 1 (min p.page (max 1 ((ofJobs jobs).select user).totalPages))) := by
  unfold refresh
  simp only [hu, hk, if_true]
  rfl

/-- Without a user who still has jobs, fresh jobs are loaded from the start. -/
theorem refresh_of_unknown (h : ∀ user, p.user = some user → ¬ (ofJobs jobs).knows user) :
    p.refresh jobs = ofJobs jobs := by
  unfold refresh
  cases hu : p.user with
  | none => rfl
  | some user => simp only [if_neg (h user hu)]

/-- Fresh jobs either keep a user who has jobs, on a page in range, or start over. -/
theorem refresh_cases (p : Pager) (jobs : Collection JobRecord) :
    (∃ user, (ofJobs jobs).knows user ∧ p.refresh jobs = ((ofJobs jobs).select user).atPage
      (max 1 (min p.page (max 1 ((ofJobs jobs).select user).totalPages)))) ∨
    p.refresh jobs = ofJobs jobs := by
  by_cases h : ∃ user, p.user = some user ∧ (ofJobs jobs).knows user
  · obtain ⟨user, hu, hk⟩ := h
    exact .inl ⟨user, hk, refresh_of_known hu hk⟩
  · exact .inr (refresh_of_unknown fun user hu hk => h ⟨user, hu, hk⟩)

theorem jobs_refresh (p : Pager) (jobs : Collection JobRecord) : (p.refresh jobs).jobs = jobs := by
  rcases p.refresh_cases jobs with ⟨user, -, heq⟩ | heq
  all_goals
    rw [heq]
    rfl

theorem previousPage?_eq_some :
    p.previousPage? = some q ↔ 1 < p.page ∧ q = p.atPage (p.page - 1) := by
  unfold previousPage?
  by_cases h : 1 < p.page <;> simp [h, atPage, eq_comm]

theorem nextPage?_eq_some :
    p.nextPage? = some q ↔ p.page < p.totalPages ∧ q = p.atPage (p.page + 1) := by
  unfold nextPage?
  by_cases h : p.page < p.totalPages <;> simp [h, atPage, eq_comm]

/-- A move that may have nowhere to go is a step, if going is. -/
theorem step_getD {next : Option Pager} (h : ∀ q, next = some q → Step p q) :
    Step p (next.getD p) := by
  cases hn : next with
  | none => exact .stay
  | some q => exact h q hn

theorem step_refresh (p : Pager) (jobs : Collection JobRecord) : Step p (p.refresh jobs) := by
  rcases p.refresh_cases jobs with ⟨user, hk, heq⟩ | heq
  · rw [heq]
    exact .keep jobs user _ (by omega) (by omega)
  · rw [heq]
    exact .load jobs

/-- Every operation is a step. -/
theorem step_apply (p : Pager) (operation : Operation) : Step p (p.apply operation) := by
  cases operation with
  | load jobs => exact .load jobs
  | refresh jobs => exact step_refresh p jobs
  | select user => exact .select user
  | nextUser =>
    refine step_getD fun q hq => ?_
    obtain ⟨user, -, rfl⟩ := Option.map_eq_some_iff.mp hq
    exact .select user
  | previousUser =>
    refine step_getD fun q hq => ?_
    obtain ⟨user, -, rfl⟩ := Option.map_eq_some_iff.mp hq
    exact .select user
  | nextPage =>
    refine step_getD fun q hq => ?_
    obtain ⟨hlt, rfl⟩ := nextPage?_eq_some.mp hq
    exact .turn _ (by omega) (by omega)
  | previousPage =>
    refine step_getD fun q hq => ?_
    obtain ⟨hlt, rfl⟩ := previousPage?_eq_some.mp hq
    exact .turn _ (by omega) (by omega)

end Steps

/-! ## What every step keeps -/

/-- The page exists; without pages it is the first one. -/
structure InRange (p : Pager) : Prop where
  pos : 1 ≤ p.page
  le : p.page ≤ max 1 p.totalPages

theorem derived_initial : initial.Derived where
  grouping_eq := rfl
  navigation_eq := congrArg Navigation.mk List.mergeSort_nil.symm

theorem inRange_initial : initial.InRange := ⟨le_rfl, le_max_left _ _⟩

theorem Derived.step {p q : Pager} (h : p.Derived) (hs : Step p q) : q.Derived := by
  cases hs with
  | stay => exact h
  | load jobs => exact derived_ofJobs jobs
  | keep jobs user page => exact ((derived_ofJobs jobs).select user).atPage page
  | select user => exact h.select user
  | turn page => exact h.atPage page

theorem InRange.step {p q : Pager} (h : p.InRange) (hs : Step p q) : q.InRange := by
  cases hs with
  | stay => exact h
  | load jobs => exact ⟨le_rfl, le_max_left _ _⟩
  | keep jobs user page hpos hle => exact ⟨hpos, hle⟩
  | select user => exact ⟨le_rfl, le_max_left _ _⟩
  | turn page hpos hle =>
    have hbound : max p.page p.totalPages ≤ max 1 p.totalPages :=
      max_le h.le (le_max_right _ _)
    exact ⟨hpos, hle.trans hbound⟩

/-- What every step keeps holds after every run. -/
theorem run_induction {P : Pager → Prop} (hinit : P initial)
    (hstep : ∀ p q, P p → Step p q → P q) (operations : List Operation) : P (run operations) := by
  induction operations using List.reverseRecOn with
  | nil => exact hinit
  | append_singleton operations operation ih =>
    unfold run at *
    rw [List.foldl_append]
    exact hstep _ _ ih (step_apply _ operation)

theorem run_derived (operations : List Operation) : (run operations).Derived :=
  run_induction derived_initial (fun _ _ => Derived.step) operations

theorem run_inRange (operations : List Operation) : (run operations).InRange :=
  run_induction inRange_initial (fun _ _ => InRange.step) operations

/-! ## What is shown -/

section View

variable {p : Pager} {group : UserGroup}

/-- A page in range starts inside the group. -/
theorem pageStart_lt (hd : p.Derived) (hr : p.InRange) (hg : p.group? = some group) :
    pageStart p.page < group.size := by
  have htotal := hd.totalPages_pos hg
  have hpos := hr.pos
  have hle := hr.le
  rw [totalPages_of_group hg] at htotal hle
  exact lt_pageCount_iff.mp (by omega)

theorem previousDisabled_iff (hd : p.Derived) (hr : p.InRange) :
    p.view.previousDisabled = false ↔ p.previousPage?.isSome := by
  have hprev : p.previousPage?.isSome ↔ 1 < p.page := by
    simp [Option.isSome_iff_exists, previousPage?_eq_some]
  have hpos := hr.pos
  rw [hprev]
  cases hg : p.group? with
  | none =>
    have hle := hr.le
    rw [totalPages_of_no_group hg] at hle
    rw [view_of_no_group hg]
    exact iff_of_false Bool.noConfusion (by omega)
  | some group =>
    rw [view_of_group (hd.mem_groups hg).2 hg, decide_eq_false_iff_not]
    omega

theorem nextDisabled_iff (hd : p.Derived) (hr : p.InRange) :
    p.view.nextDisabled = false ↔ p.nextPage?.isSome := by
  have hnext : p.nextPage?.isSome ↔ p.page < p.totalPages := by
    simp [Option.isSome_iff_exists, nextPage?_eq_some]
  rw [hnext]
  cases hg : p.group? with
  | none =>
    rw [view_of_no_group hg, totalPages_of_no_group hg]
    exact iff_of_false Bool.noConfusion (by omega)
  | some group =>
    have htotal := hd.totalPages_pos hg
    have hle := hr.le
    rw [totalPages_of_group hg] at htotal hle ⊢
    rw [view_of_group (hd.mem_groups hg).2 hg, decide_eq_false_iff_not]
    omega

theorem rows_ne_nil_iff (hd : p.Derived) (hr : p.InRange) :
    p.view.rows ≠ [] ↔ p.group?.isSome := by
  cases hg : p.group? with
  | none =>
    rw [view_of_no_group hg]
    exact iff_of_false (fun h => h rfl) Bool.false_ne_true
  | some group =>
    obtain ⟨n, hn⟩ := Nat.exists_eq_add_of_le' hr.pos
    have hstart := pageStart_lt hd hr hg
    have hrows := hd.length_rows hg n
    have hsame : p.atPage (n + 1) = p := by rw [← hn]; rfl
    rw [hsame] at hrows
    unfold pageStart at hstart
    rw [hn, Nat.add_sub_cancel] at hstart
    refine iff_of_true (fun hnil => ?_) rfl
    rw [hnil, List.length_nil] at hrows
    unfold pageSize at *
    omega

end View

/-! ## The theorem -/

/-- The parts of a pager agree, the page exists, and what is shown tells what can be done. -/
structure Sound (p : Pager) : Prop where
  grouping_eq : p.grouping = .ofJobs p.jobs
  navigation_eq : p.navigation = .ofGrouping p.grouping
  /-- The index leads to groups. -/
  slot_lt : ∀ user slot, p.grouping.index.lookup user = some slot →
    slot < p.grouping.groups.length
  /-- The page is cut out of the group, and the group's places are those of jobs. -/
  slice : ∀ group, p.group? = some group →
    pageStart p.page < pageEnd p.page group.size ∧ pageEnd p.page group.size ≤ group.size ∧
      ∀ place ∈ group.jobs, place < p.jobs.size
  page_pos : 1 ≤ p.page
  page_le : p.page ≤ max 1 p.totalPages
  previous_iff : p.view.previousDisabled = false ↔ p.previousPage?.isSome
  next_iff : p.view.nextDisabled = false ↔ p.nextPage?.isSome
  rows_iff : p.view.rows ≠ [] ↔ p.group?.isSome

/-- **Every run is sound.** After any operations in any order, on any jobs and users. -/
theorem run_sound (operations : List Operation) : (run operations).Sound := by
  have hd := run_derived operations
  have hr := run_inRange operations
  constructor
  case grouping_eq => exact hd.grouping_eq
  case navigation_eq => exact hd.navigation_eq
  case slot_lt =>
    intro user slot h
    rw [hd.grouping_eq] at h ⊢
    exact Grouping.slot_lt h
  case slice =>
    intro group hg
    have hstart := pageStart_lt hd hr hg
    refine ⟨?_, ?_, fun place hplace => hd.lt_size hg hplace⟩
    all_goals unfold pageEnd pageSize; omega
  case page_pos => exact hr.pos
  case page_le => exact hr.le
  case previous_iff => exact previousDisabled_iff hd hr
  case next_iff => exact nextDisabled_iff hd hr
  case rows_iff => exact rows_ne_nil_iff hd hr

end ClusterBoard.Pager
