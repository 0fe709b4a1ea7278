import Mathlib
import ClusterBoard.Proofs.Board.PagerRuns

/-!
# Refreshing a pager

Fresh jobs keep the user who is shown, if there are still jobs of that user, and bring the page into
range; otherwise they start over. Either way the pager is `Settled` afterwards, and the settled
pagers are those that their own jobs leave as they are (`refresh_self_iff`). So there is no drift,
however often the same jobs come in (`refresh_keeps_place`).
-/

namespace ClusterBoard.Pager

/-- Up to date, on a page that exists, and with the jobs of some user, if there are jobs. -/
structure Settled (p : Pager) : Prop where
  derived : p.Derived
  inRange : p.InRange
  known : ∀ user, p.user = some user → p.knows user
  nobody : p.user = none → p.jobs.records = []

/-- The user and the page that are shown. -/
def place (p : Pager) : Option String × Nat := (p.user, p.page)

section Refresh

variable {p : Pager} {jobs : Collection JobRecord} {user : String} {group : UserGroup}

theorem refresh_of_no_user (hu : p.user = none) : p.refresh jobs = ofJobs jobs := by
  unfold refresh
  rw [hu]

/-- Without a user there are no pages, and the first one is shown. -/
theorem InRange.page_of_no_user (hr : p.InRange) (hu : p.user = none) : p.page = 1 := by
  have hgroup : p.group? = none := by
    unfold group?
    rw [hu]
    rfl
  have hpos := hr.pos
  have hle := hr.le
  rw [totalPages_of_no_group hgroup] at hle
  omega

theorem knows_of_focusedUser (h : (Grouping.ofJobs jobs).focusedUser = some user) :
    (ofJobs jobs).knows user := by
  obtain ⟨group, hlargest, rfl⟩ := Grouping.focusedUser_eq_some h
  exact Option.isSome_of_eq_some (Grouping.group?_eq_some_iff.mpr ⟨hlargest.mem, rfl⟩)

theorem settled_ofJobs (jobs : Collection JobRecord) : (ofJobs jobs).Settled where
  derived := derived_ofJobs jobs
  inRange := ⟨le_rfl, le_max_left _ _⟩
  known := fun _ => knows_of_focusedUser
  nobody := Grouping.focusedUser_eq_none_iff.mp

theorem settled_refresh (p : Pager) (jobs : Collection JobRecord) : (p.refresh jobs).Settled := by
  rcases p.refresh_cases jobs with ⟨user, hk, heq⟩ | heq
  · rw [heq]
    constructor
    case derived => exact ((derived_ofJobs jobs).select user).atPage _
    case inRange => exact ⟨le_max_left _ _, max_le (le_max_left _ _) (min_le_right _ _)⟩
    case known =>
      intro other hother
      obtain rfl := Option.some.inj hother
      exact hk
    case nobody => nofun
  · rw [heq]
    exact settled_ofJobs jobs

/-- A pager that is up to date is made of its jobs, its user and its page. -/
theorem Derived.eq_ofJobs (hd : p.Derived) :
    p = { ofJobs p.jobs with user := p.user, page := p.page } := by
  obtain ⟨jobs, grouping, navigation, user, page⟩ := p
  obtain rfl : grouping = .ofJobs jobs := hd.grouping_eq
  obtain rfl : navigation = .ofGrouping (.ofJobs jobs) := hd.navigation_eq
  rfl

theorem Settled.eq_ofJobs (h : p.Settled) (hu : p.user = none) : p = ofJobs p.jobs := by
  have hfocus : p.user = (Grouping.ofJobs p.jobs).focusedUser :=
    hu.trans (Grouping.focusedUser_eq_none_iff.mpr (h.nobody hu)).symm
  calc p = { ofJobs p.jobs with user := p.user, page := p.page } := h.derived.eq_ofJobs
    _ = ofJobs p.jobs := by rw [hfocus, h.inRange.page_of_no_user hu]; rfl

theorem Settled.refresh_self (h : p.Settled) : p.refresh p.jobs = p := by
  cases hu : p.user with
  | none =>
    rw [refresh_of_no_user hu]
    exact (h.eq_ofJobs hu).symm
  | some user =>
    have heq : p = ((ofJobs p.jobs).select user).atPage p.page := by
      conv_lhs => rw [h.derived.eq_ofJobs, hu]
      rfl
    have hknown : (ofJobs p.jobs).knows user := by
      have hk := h.known user hu
      unfold knows at hk ⊢
      rwa [h.derived.grouping_eq] at hk
    have htotal : p.totalPages = ((ofJobs p.jobs).select user).totalPages :=
      (congrArg totalPages heq).trans rfl
    have hpos := h.inRange.pos
    have hle := h.inRange.le
    have hpage : max 1 (min p.page (max 1 ((ofJobs p.jobs).select user).totalPages)) = p.page := by
      rw [← htotal]
      omega
    rw [refresh_of_known hu hknown, hpage]
    exact heq.symm

/-- The settled pagers are those that their own jobs leave as they are. -/
theorem refresh_self_iff : p.refresh p.jobs = p ↔ p.Settled := by
  refine ⟨fun h => ?_, Settled.refresh_self⟩
  rw [← h]
  exact settled_refresh p p.jobs

theorem pageCount_pos (hg : (Grouping.ofJobs jobs).group? user = some group) :
    0 < pageCount group.size := by
  have hgroup : ((ofJobs jobs).select user).group? = some group := hg
  rw [← totalPages_of_group hgroup]
  exact ((derived_ofJobs jobs).select user).totalPages_pos hgroup

theorem refresh_of_group (hu : p.user = some user)
    (hg : (Grouping.ofJobs jobs).group? user = some group) :
    p.refresh jobs =
      ((ofJobs jobs).select user).atPage (max 1 (min p.page (pageCount group.size))) := by
  have hgroup : ((ofJobs jobs).select user).group? = some group := hg
  have hpages : max 1 (pageCount group.size) = pageCount group.size :=
    max_eq_right (pageCount_pos hg)
  rw [refresh_of_known hu (Option.isSome_of_eq_some hg), totalPages_of_group hgroup, hpages]

/-- Fresh jobs leave the user and the page alone where the user still has that page, or where there
is nobody to show, before and after. -/
theorem place_refresh_eq_iff (hr : p.InRange) : (p.refresh jobs).place = p.place ↔
    (∃ user group, p.user = some user ∧ (Grouping.ofJobs jobs).group? user = some group ∧
      p.page ≤ pageCount group.size) ∨ p.user = none ∧ jobs.records = [] := by
  unfold place
  cases hu : p.user with
  | none =>
    rw [refresh_of_no_user hu, hr.page_of_no_user hu]
    simp [ofJobs, Grouping.focusedUser_eq_none_iff]
  | some user =>
    cases hg : (Grouping.ofJobs jobs).group? user with
    | none =>
      -- Whoever is shown instead has jobs, so it is not the user who is gone.
      have hunknown : ¬ (ofJobs jobs).knows user := by
        unfold knows
        simp [ofJobs, hg]
      have hother : (ofJobs jobs).user ≠ some user := fun h => hunknown (knows_of_focusedUser h)
      rw [refresh_of_unknown fun other hsome => by
        obtain rfl := Option.some.inj (hu.symm.trans hsome)
        exact hunknown]
      simp [hother, hg]
    | some group =>
      have hcount := pageCount_pos hg
      have hpos := hr.pos
      rw [refresh_of_group hu hg]
      simp [select, atPage, hg]
      omega

end Refresh

/-- Where no user is shown there are no jobs. -/
theorem run_nobody (operations : List Operation) :
    (run operations).user = none → (run operations).jobs.records = [] := by
  refine run_induction (P := fun p => p.user = none → p.jobs.records = []) (fun _ => rfl) ?_ _
  intro p q h hs
  cases hs with
  | stay => exact h
  | load jobs => exact Grouping.focusedUser_eq_none_iff.mp
  | keep | select => nofun
  | turn page => exact h

theorem run_refresh_self_iff (operations : List Operation) :
    (run operations).refresh (run operations).jobs = run operations ↔
      ∀ user, (run operations).user = some user → (run operations).knows user := by
  rw [refresh_self_iff]
  exact ⟨Settled.known, fun h =>
    ⟨run_derived operations, run_inRange operations, h, run_nobody operations⟩⟩

/-- **Refreshing does not drift.** Whatever the pager, on whatever page: a user who still has jobs
stays, with the page clamped to the pages there are, and otherwise the jobs are loaded from the
start; to refresh more than once is to refresh once. After any operations the jobs already loaded
change nothing, unless a user without jobs was selected. -/
theorem refresh_keeps_place (p : Pager) (jobs : Collection JobRecord) :
    (∀ user group, p.user = some user → (Grouping.ofJobs jobs).group? user = some group →
      0 < pageCount group.size ∧ (p.refresh jobs).totalPages = pageCount group.size ∧
      p.refresh jobs =
        ((ofJobs jobs).select user).atPage (max 1 (min p.page (pageCount group.size)))) ∧
    ((∀ user, p.user = some user → (Grouping.ofJobs jobs).group? user = none) →
      p.refresh jobs = ofJobs jobs) ∧
    (∀ n, (fun q => q.refresh jobs)^[n + 1] p = p.refresh jobs) ∧
    ∀ operations, (run operations).refresh (run operations).jobs = run operations ↔
      ∀ user, (run operations).user = some user → (run operations).knows user := by
  refine ⟨fun user group hu hg => ?_, fun h => ?_, fun n => ?_, run_refresh_self_iff⟩
  · have heq := refresh_of_group hu hg
    have hgroup : (p.refresh jobs).group? = some group := by
      rw [heq]
      exact hg
    exact ⟨pageCount_pos hg, totalPages_of_group hgroup, heq⟩
  · refine refresh_of_unknown fun user hu hk => ?_
    unfold knows at hk
    rw [show (ofJobs jobs).grouping.group? user = none from h user hu] at hk
    cases hk
  · have hfixed : (p.refresh jobs).refresh jobs = p.refresh jobs := by
      have hself := (settled_refresh p jobs).refresh_self
      rwa [jobs_refresh] at hself
    rw [Function.iterate_succ_apply]
    exact Function.iterate_fixed hfixed n

/-- A single job of bob's. -/
def bobsJob : Collection JobRecord := ⟨[{ (default : JobRecord) with user := "bob" }]⟩

/-- From a page far beyond the end bob's first page is shown, again and again. -/
theorem refresh_keeps_place_beyond_end :
    (Pager.initial.select "bob").user = some "bob" ∧
    (Grouping.ofJobs bobsJob).group? "bob" = some ⟨"bob", [0], 0⟩ ∧
    ((Pager.initial.select "bob").atPage 7).refresh bobsJob = (ofJobs bobsJob).select "bob" ∧
    (fun q => q.refresh bobsJob)^[3] ((Pager.initial.select "bob").atPage 7) =
      (ofJobs bobsJob).select "bob" := by
  have hgroup : (Grouping.ofJobs bobsJob).group? "bob" = some ⟨"bob", [0], 0⟩ := by decide
  obtain ⟨hkeep, -, hagain, -⟩ :=
    refresh_keeps_place ((Pager.initial.select "bob").atPage 7) bobsJob
  obtain ⟨-, -, hrefresh⟩ := hkeep "bob" _ rfl hgroup
  exact ⟨rfl, hgroup, hrefresh, (hagain 2).trans hrefresh⟩

end ClusterBoard.Pager
