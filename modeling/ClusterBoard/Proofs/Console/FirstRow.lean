import Mathlib
import ClusterBoard.Proofs.Board.Refreshing
import ClusterBoard.Proofs.Console.Details
import ClusterBoard.Proofs.Console.Toggles

/-!
# The row after a move

A key that moves to another user or page selects the first row, and so do jobs that the operator
asked for. Jobs that come in the background keep the row as far as there are rows, even where they
move to another user or page (`App.moves_start_at_top`): then the row of the old user stays selected
among the jobs of the new one (`App.refresh_keeps_row`).
-/

namespace ClusterBoard.Console

/-- The jobs that come in the background. -/
def Event.refreshed? : Event → Option (Collection JobRecord)
  | .data (.jobsLoaded jobs _ true) => some jobs
  | _ => none

theorem Event.eq_of_refreshed? {event : Event} {jobs : Collection JobRecord}
    (h : event.refreshed? = some jobs) :
    ∃ fetchedAt, event = .data (.jobsLoaded jobs fetchedAt true) := by
  unfold refreshed? at h
  split at h
  · obtain rfl := Option.some.inj h
    exact ⟨_, rfl⟩
  · cases h

namespace Selection

theorem clamp_top (count : Nat) : clamp count top = top := Nat.zero_min _

theorem clamp_eq_top_iff {count selected : Nat} :
    clamp count selected = top ↔ selected = top ∨ count ≤ 1 := by
  unfold clamp top
  omega

end Selection

/-- An operation that moves selects the first row. -/
theorem JobsTab.Operates.selected_eq_top {tab : JobsTab} {result : JobsTab × Bool}
    (h : tab.Operates result) (hm : result.1.pager.place ≠ tab.pager.place) :
    result.1.selected = Selection.top := by
  cases h with
  | nothing => exact absurd rfl hm
  | moved pager hs hj => exact Selection.clamp_top _
  | changed change hc => exact absurd rfl hm

namespace App

variable {app : App} {now : Int} {event : Event}

theorem pager_select (app : App) (move : Nat → Nat → Nat) :
    (app.select move).jobs.pager = app.jobs.pager := by
  unfold select
  split <;> rfl

theorem jobs_jobsLoaded (app : App) (now : Int) (jobs : Collection JobRecord) (fetchedAt : Int)
    (background : Bool) : (app.handle now (.data (.jobsLoaded jobs fetchedAt background))).1.jobs =
      app.jobs.load jobs fetchedAt background := jobs_closeStaleDetail _ .jobs

/-- Whatever moves, but for jobs in the background, selects the first row. -/
theorem Step.selected_eq_top {result : App × Effect} (hs : app.Step now event result)
    (hr : event.refreshed? = none)
    (hm : result.1.jobs.pager.place ≠ app.jobs.pager.place) :
    result.1.jobs.selected = Selection.top := by
  -- Only operations on the tab and loads of jobs touch the pager.
  cases hs with
  | operate press ho ht jobs changed h => exact h.selected_eq_top hm
  | jobsLoaded jobs fetchedAt background =>
    cases background with
    | true => cases hr
    | false =>
      rw [jobs_closeStaleDetail]
      exact Selection.clamp_top _
  | select press ho move hk => exact absurd (congrArg Pager.place (app.pager_select move)) hm
  | refresh press ho hp =>
    exact absurd (congrArg (·.pager.place) (app.jobs_request now app.currentSource)) hm
  | nodesLoaded nodes fetchedAt =>
    rw [jobs_closeStaleDetail] at hm
    exact absurd rfl hm
  | resize | idle | close | quit | switch | openDetail | openHelp | fetchFailed =>
    exact absurd rfl hm

/-- What row is selected after an event that leads from `app` to `next`. -/
structure SelectsRow (app : App) (event : Event) (next : App) : Prop where
  top_of_moved : event.refreshed? = none → next.jobs.pager.place ≠ app.jobs.pager.place →
    next.jobs.selected = Selection.top
  /-- Jobs in the background keep the row as far as there are rows. -/
  row_of_refreshed : ∀ jobs, event.refreshed? = some jobs → next.jobs.selected =
    Selection.clamp next.jobs.page.rows.length app.jobs.selected
  /-- They move to another user or page, unless the user still has the page. -/
  stays_of_refreshed_iff : ∀ jobs, event.refreshed? = some jobs →
    (next.jobs.pager.place = app.jobs.pager.place ↔
      (∃ user group, app.jobs.pager.user = some user ∧
        (Grouping.ofJobs jobs).group? user = some group ∧
          app.jobs.pager.page ≤ pageCount group.size) ∨
      app.jobs.pager.user = none ∧ jobs.records = [])

theorem Consistent.selectsRow (h : app.Consistent) (now : Int) (event : Event) :
    app.SelectsRow event (app.handle now event).1 := by
  constructor
  case top_of_moved => exact (step_handle h.jobs.derived event).selected_eq_top
  case row_of_refreshed =>
    intro jobs hr
    obtain ⟨fetchedAt, rfl⟩ := Event.eq_of_refreshed? hr
    rw [jobs_jobsLoaded]
    exact JobsTab.load_selected _ _ _ true
  case stays_of_refreshed_iff =>
    intro jobs hr
    obtain ⟨fetchedAt, rfl⟩ := Event.eq_of_refreshed? hr
    rw [jobs_jobsLoaded]
    exact Pager.place_refresh_eq_iff h.jobs.inRange

/-- After a move the first row is selected, except by jobs in the background that find another row
selected and bring more than one. -/
theorem SelectsRow.selected_eq_top_iff {next : App} (h : app.SelectsRow event next)
    (hm : next.jobs.pager.place ≠ app.jobs.pager.place) : next.jobs.selected = Selection.top ↔
      (event.refreshed? = none ∨ app.jobs.selected = Selection.top ∨
        next.jobs.page.rows.length ≤ 1) := by
  cases hr : event.refreshed? with
  | none => exact iff_of_true (h.top_of_moved hr hm) (.inl rfl)
  | some jobs =>
    rw [h.row_of_refreshed jobs hr, Selection.clamp_eq_top_iff]
    simp

/-! ## The theorem -/

/-- **A move starts at the first row.** In every run, whatever happens: a move to another user or
page selects the first row, unless it comes about by jobs in the background. -/
theorem moves_start_at_top (settings : Settings) (warnings : List String) (client : Web.Client)
    (scope : Web.JobScope) (happenings : List Happening) (now : Int) (event : Event) :
    let app := (initial settings warnings client scope).after happenings
    let next := (app.handle now event).1
    app.SelectsRow event next ∧
      (next.jobs.pager.place ≠ app.jobs.pager.place → (next.jobs.selected = Selection.top ↔
        (event.refreshed? = none ∨ app.jobs.selected = Selection.top ∨
          next.jobs.page.rows.length ≤ 1))) := by
  intro app next
  have h := ((consistent_initial settings warnings client scope).after happenings).selectsRow now
    event
  exact ⟨h, h.selected_eq_top_iff⟩

/-- A job of a user. -/
def jobOf (user : String) : Json := .object [("spec", .object [("userName", .string user)])]

/-- Two jobs of bob's. -/
def bobsTwo : Json.Fields := [("2", jobOf "bob"), ("1", jobOf "bob")]

/-- Two jobs of alice's before bob's. -/
def alicesAndBobs : Json.Fields := [("4", jobOf "alice"), ("3", jobOf "alice")] ++ bobsTwo

/-- The jobs of an object are fetched. -/
def jobsFetched (fields : Json.Fields) (background : Bool) : Event :=
  .data (.jobsLoaded (.ofRecords (Collection.decoded JobRecord fields)) 0 background)

theorem records_bobsTwo : Collection.ofRecords (Collection.decoded JobRecord bobsTwo) =
    ⟨Collection.decoded JobRecord bobsTwo⟩ :=
  Collection.ofRecords_of_descending (by decide)

theorem records_alicesAndBobs :
    Collection.ofRecords (Collection.decoded JobRecord alicesAndBobs) =
      ⟨Collection.decoded JobRecord alicesAndBobs⟩ :=
  Collection.ofRecords_of_descending (by decide)

/-- When alice's jobs are gone in the background, bob's second job is selected, as hers was. -/
theorem refresh_keeps_row :
    let app := (initial .standard [] default .active).after
      [.event 0 (jobsFetched alicesAndBobs false),
        .event 0 (.input (.key ⟨.char 'j', false, false, false⟩))]
    let next := (app.handle 0 (jobsFetched bobsTwo true)).1
    app.jobs.pager.user = some "alice" ∧ next.jobs.pager.user = some "bob" ∧
      next.jobs.selected = 1 := by
  unfold jobsFetched
  rw [records_bobsTwo, records_alicesAndBobs]
  decide +kernel

end App

end ClusterBoard.Console
