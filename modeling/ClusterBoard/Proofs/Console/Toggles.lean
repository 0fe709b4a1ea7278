import Mathlib
import ClusterBoard.Proofs.Console.Runs

/-!
# Cells that the operator opens and closes

Until the page is rendered anew only its cells change. One press of a toggle key changes one cell of
the selected row (`App.page_apply`), so after a run every cell is in the state in which it was at
the start, but for one change a press (`App.page_after`). Presses in another tab or under an overlay
do not count, and nothing else touches a cell (`App.toggles_last`).
-/

namespace ClusterBoard

/-! ## Pages with cells toggled -/

namespace JobRow

/-- The row with its node list and its history toggled several times. -/
def flipped (nodes history : Nat) (row : JobRow) : JobRow :=
  { row with
    nodes := Collapsible.toggle^[nodes] row.nodes
    history := Collapsible.toggle^[history] row.history }

@[simp] theorem flipped_zero (row : JobRow) : row.flipped 0 0 = row := rfl

theorem flipped_flipped (row : JobRow) (n h m k : Nat) :
    (row.flipped n h).flipped m k = row.flipped (n + m) (h + k) := by
  simp only [flipped, Nat.add_comm n, Nat.add_comm h, Function.iterate_add_apply]

end JobRow

theorem Collapsible.isOpen_iterate_toggle {α : Type} (n : Nat) (cell : Collapsible α) :
    (toggle^[n] cell).isOpen = not^[n] cell.isOpen := by
  induction n generalizing cell with
  | zero => rfl
  | succ n ih =>
    rw [Function.iterate_succ_apply, Function.iterate_succ_apply, ih]
    exact congrArg _ (Disclosure.isOpen_toggled cell.state)

theorem Collapsible.content_iterate_toggle {α : Type} (n : Nat) (cell : Collapsible α) :
    (toggle^[n] cell).content = cell.content := by
  induction n generalizing cell with
  | zero => rfl
  | succ n ih => rw [Function.iterate_succ_apply, ih, content_toggle]

theorem JobRow.opensOrCloses_flipped (nodes history : Nat) :
    OpensOrCloses (flipped nodes history) := by
  intro row
  simp only [asRendered, flipped, Collapsible.content_iterate_toggle]

namespace PageView

/-- The page with the cells of each row toggled as often as is said for its place. -/
def flipped (nodes history : Nat → Nat) (page : PageView) : PageView :=
  { page with rows := page.rows.mapIdx fun place row => row.flipped (nodes place) (history place) }

theorem flipped_zero (page : PageView) : page.flipped (fun _ => 0) (fun _ => 0) = page := by
  have hrows : page.rows.mapIdx (fun _ row => row.flipped 0 0) = page.rows :=
    List.ext_getElem? fun place => by rw [List.getElem?_mapIdx]; simp
  unfold flipped
  rw [hrows]

theorem flipped_flipped (page : PageView) (n h m k : Nat → Nat) :
    (page.flipped n h).flipped m k =
      page.flipped (fun place => n place + m place) (fun place => h place + k place) := by
  simp [flipped, List.mapIdx_mapIdx, JobRow.flipped_flipped, Function.comp_def]

theorem getElem?_rows_flipped (page : PageView) (n h : Nat → Nat) (place : Nat) :
    (page.flipped n h).rows[place]? =
      page.rows[place]?.map (JobRow.flipped (n place) (h place)) :=
  List.getElem?_mapIdx

/-- Toggling keeps the rows. -/
theorem asRendered_flipped (page : PageView) (n h : Nat → Nat) :
    (page.flipped n h).asRendered = page.asRendered := by
  have hrows : (page.flipped n h).rows.map JobRow.asRendered =
      page.rows.map JobRow.asRendered := by
    refine List.ext_getElem? fun place => ?_
    rw [List.getElem?_map, List.getElem?_map, getElem?_rows_flipped, Option.map_map]
    exact congrArg (Option.map · _) (funext (JobRow.opensOrCloses_flipped _ _))
  unfold asRendered
  rw [hrows]
  rfl

end PageView

namespace Console

/-! ## What renders the page anew, and what toggles a cell -/

/-- Whether an action is one for another page or another user. -/
def Action.turnsPage : Action → Bool
  | .previousPage | .nextPage | .nextUser | .previousUser => true
  | _ => false

namespace App

/-- Whether the page is rendered anew: jobs come, or a key for another page or user reports a
change. -/
def rerenders (app : App) : Happening → Bool
  | .event _ (.data (.jobsLoaded _ _ _)) => true
  | .event now (.input (.key press)) =>
    (Action.ofKeyPress press).turnsPage && (app.handleInput now (.key press)).2 != .unchanged
  | _ => false

/-- The page is not rendered anew in a run. -/
def KeepsPage (app : App) : List Happening → Prop
  | [] => True
  | happening :: rest => app.rerenders happening = false ∧ (app.apply happening).KeepsPage rest

instance decidableKeepsPage : (app : App) → (run : List Happening) → Decidable (app.KeepsPage run)
  | _, [] => .isTrue trivial
  | app, happening :: rest =>
    have := decidableKeepsPage (app.apply happening) rest
    inferInstanceAs (Decidable (_ ∧ _))

/-- Whether the key of an action is pressed while the jobs tab is current, nothing lies over it, and
the row at a place is selected. -/
def hits (app : App) (action : Action) (place : Nat) : Happening → Bool
  | .event _ (.input (.key press)) =>
    Action.ofKeyPress press = action && app.tab = .jobs && app.overlay = .none &&
      app.jobs.selected = place
  | _ => false

/-- How often that is the case in a run. -/
def hitCount (app : App) (action : Action) (place : Nat) : List Happening → Nat
  | [] => 0
  | happening :: rest =>
    (app.hits action place happening).toNat + (app.apply happening).hitCount action place rest

end App

/-! ## One step -/

namespace JobsTab

/-- A change of the selected row touches no other row. -/
theorem page_changeRow (tab : JobsTab) (n h : Nat) :
    (tab.changeRow (JobRow.flipped n h)).1.page =
      tab.page.flipped (fun place => if tab.selected = place then n else 0)
        (fun place => if tab.selected = place then h else 0) := by
  have hrows : tab.page.rows.modify tab.selected (JobRow.flipped n h) =
      tab.page.rows.mapIdx fun place row => row.flipped (if tab.selected = place then n else 0)
        (if tab.selected = place then h else 0) := by
    refine List.ext_getElem? fun place => ?_
    rw [List.getElem?_modify, List.getElem?_mapIdx]
    by_cases hplace : tab.selected = place
    · simp only [if_pos hplace, Option.map_eq_map]
    · simp only [if_neg hplace, JobRow.flipped_zero, Option.map_eq_map]
  unfold changeRow PageView.flipped
  cases hrow : tab.selectedRow? with
  | some row => simp only [hrows]
  | none =>
    have hlength : tab.page.rows.length ≤ tab.selected := List.getElem?_eq_none_iff.mp hrow
    rw [← hrows, List.modify_eq_self hlength]

/-- A move that reports no change renders nothing anew. -/
theorem page_moved {tab : JobsTab} {changes : Pager → Bool} {next : Option Pager}
    (h : (tab.moved changes next).2 = false) : (tab.moved changes next).1.page = tab.page := by
  cases next with
  | none => rfl
  | some pager =>
    unfold moved at h ⊢
    dsimp only at h ⊢
    split_ifs at h ⊢
    rfl

end JobsTab

namespace App

variable (app : App) (now : Int)

theorem jobs_request (source : Source) : (app.request now source).jobs = app.jobs := by
  obtain ⟨requests, failure, heq⟩ := app.request_frame now source
  rw [heq]

theorem jobs_closeStaleDetail (tab : Tab) : (app.closeStaleDetail tab).jobs = app.jobs := by
  unfold closeStaleDetail
  split_ifs <;> rfl

theorem page_select (move : Nat → Nat → Nat) : (app.select move).jobs.page = app.jobs.page := by
  unfold select
  split <;> rfl

theorem jobs_switchTo (tab : Tab) : (app.switchTo tab).1.jobs = app.jobs := by
  unfold switchTo
  split_ifs <;> rfl

variable {app} {now}

theorem onJobs_of_current (ht : app.tab = .jobs) (operation : JobsTab → JobsTab × Bool) :
    app.onJobs operation = ({ app with jobs := (operation app.jobs).1 },
      if (operation app.jobs).2 then .redraw else .unchanged) := by
  unfold onJobs
  rw [ht]

theorem onJobs_of_other (ht : app.tab ≠ .jobs) (operation : JobsTab → JobsTab × Bool) :
    app.onJobs operation = (app, .unchanged) := by
  unfold onJobs
  cases h : app.tab with
  | jobs => exact absurd h ht
  | nodes => rfl

/-- An operation that renders nothing anew unless it reports a change keeps the page. -/
theorem page_onJobs {operation : JobsTab → JobsTab × Bool}
    (hop : (operation app.jobs).2 = false → (operation app.jobs).1.page = app.jobs.page)
    (h : (app.onJobs operation).2 = .unchanged) :
    (app.onJobs operation).1.jobs.page = app.jobs.page := by
  by_cases ht : app.tab = .jobs
  · rw [onJobs_of_current ht] at h ⊢
    cases hchanged : (operation app.jobs).2 with
    | false => exact hop hchanged
    | true => simp [hchanged] at h
  · rw [onJobs_of_other ht]

/-- Only toggles, and moves that report a change, touch the page. -/
theorem page_act {action : Action} (hn : action ≠ .toggleNodeList) (hh : action ≠ .toggleHistory)
    (h : action.turnsPage → (app.act now action).2 = .unchanged) :
    (app.act now action).1.jobs.page = app.jobs.page := by
  cases action with
  | toggleNodeList => exact absurd rfl hn
  | toggleHistory => exact absurd rfl hh
  | previousPage | nextPage | nextUser | previousUser =>
    exact page_onJobs JobsTab.page_moved (h rfl)
  | moveUp | moveDown | moveToTop | moveToBottom => exact app.page_select _
  | switchToJobs | switchToNodes => exact congrArg JobsTab.page (app.jobs_switchTo _)
  | refresh => exact congrArg JobsTab.page (app.jobs_request now _)
  | select =>
    unfold act
    split_ifs <;> rfl
  | quit | showHelp | escape | unknown => rfl

/-! ### What counts as a press -/

theorem hits_of_other_action {press : KeyPress} {action : Action}
    (h : Action.ofKeyPress press ≠ action) (place : Nat) :
    app.hits action place (.event now (.input (.key press))) = false := by
  simp [hits, h]

theorem hits_of_covered (ho : app.overlay ≠ .none) (action : Action) (place : Nat)
    (happening : Happening) : app.hits action place happening = false := by
  unfold hits
  split
  · simp [ho]
  · rfl

theorem hits_of_other_tab (ht : app.tab ≠ .jobs) (action : Action) (place : Nat)
    (happening : Happening) : app.hits action place happening = false := by
  unfold hits
  split
  · simp [ht]
  · rfl

theorem toNat_hits (ho : app.overlay = .none) (ht : app.tab = .jobs) (press : KeyPress)
    (action : Action) (place : Nat) :
    (app.hits action place (.event now (.input (.key press)))).toNat =
      if app.jobs.selected = place then if Action.ofKeyPress press = action then 1 else 0
      else 0 := by
  by_cases hplace : app.jobs.selected = place <;>
    by_cases ha : Action.ofKeyPress press = action <;> simp [hits, ho, ht, ha, hplace]

/-- The page with the cells toggled that a happening toggles. -/
def pageAfter (app : App) (happening : Happening) : PageView :=
  app.jobs.page.flipped (fun place => (app.hits .toggleNodeList place happening).toNat)
    (fun place => (app.hits .toggleHistory place happening).toNat)

theorem pageAfter_of_no_hit {happening : Happening}
    (hn : ∀ place, app.hits .toggleNodeList place happening = false)
    (hh : ∀ place, app.hits .toggleHistory place happening = false) :
    app.pageAfter happening = app.jobs.page := by
  unfold pageAfter
  simp only [hn, hh]
  exact app.jobs.page.flipped_zero

/-- What is no key toggles nothing. -/
theorem pageAfter_of_no_key {happening : Happening}
    (h : ∀ now press, happening ≠ .event now (.input (.key press))) :
    app.pageAfter happening = app.jobs.page := by
  have hhits : ∀ action place, app.hits action place happening = false := by
    intro action place
    unfold hits
    split
    · exact absurd rfl (h _ _)
    · rfl
  exact pageAfter_of_no_hit (hhits _) (hhits _)

/-- A toggle of the selected row, where the key is one for it. -/
theorem page_toggle (ho : app.overlay = .none) {press : KeyPress} {n h : Nat}
    (hn : (if Action.ofKeyPress press = .toggleNodeList then 1 else 0) = n)
    (hh : (if Action.ofKeyPress press = .toggleHistory then 1 else 0) = h) :
    (app.onJobs fun tab => tab.changeRow (JobRow.flipped n h)).1.jobs.page =
      app.pageAfter (.event now (.input (.key press))) := by
  by_cases ht : app.tab = .jobs
  · rw [onJobs_of_current ht]
    unfold pageAfter
    simp only [toNat_hits ho ht, hn, hh]
    exact app.jobs.page_changeRow n h
  · rw [onJobs_of_other ht, pageAfter_of_no_hit (hits_of_other_tab ht _ · _)
      (hits_of_other_tab ht _ · _)]

/-- One key press toggles the cells that it hits, and renders nothing anew unless it reports so. -/
theorem page_key {press : KeyPress}
    (h : app.rerenders (.event now (.input (.key press))) = false) :
    (app.handleAction now (.ofKeyPress press)).1.jobs.page =
      app.pageAfter (.event now (.input (.key press))) := by
  by_cases ho : app.overlay = .none
  case neg =>
    rw [handleAction_of_open ho, pageAfter_of_no_hit (hits_of_covered ho _ · _)
      (hits_of_covered ho _ · _)]
    split_ifs <;> rfl
  rw [handleAction_of_none ho]
  by_cases hn : Action.ofKeyPress press = .toggleNodeList
  · have hh : Action.ofKeyPress press ≠ .toggleHistory := by simp [hn]
    rw [hn]
    exact page_toggle ho (if_pos hn) (if_neg hh)
  by_cases hh : Action.ofKeyPress press = .toggleHistory
  · rw [hh]
    exact page_toggle ho (if_neg hn) (if_pos hh)
  · rw [pageAfter_of_no_hit (hits_of_other_action hn) (hits_of_other_action hh)]
    refine page_act hn hh fun hturns => ?_
    have heffect : (app.handleAction now (.ofKeyPress press)).2 = .unchanged := by
      simpa [rerenders, hturns, handleInput] using h
    rwa [handleAction_of_none ho] at heffect

/-- What happens toggles the cells that it hits and leaves the rest of the page alone, unless the
page is rendered anew. -/
theorem page_apply {happening : Happening} (h : app.rerenders happening = false) :
    (app.apply happening).jobs.page = app.pageAfter happening := by
  cases happening with
  | start now =>
    rw [pageAfter_of_no_key (by simp)]
    show ((app.request now .jobs).request now .nodes).jobs.page = _
    rw [jobs_request, jobs_request]
  | queue requests =>
    rw [pageAfter_of_no_key (by simp)]
    rfl
  | event now event =>
    cases event with
    | data event =>
      rw [pageAfter_of_no_key (by simp)]
      cases event with
      | jobsLoaded => exact Bool.noConfusion h
      | nodesLoaded => exact congrArg JobsTab.page (jobs_closeStaleDetail _ _)
      | fetchFailed => rfl
    | input event =>
      cases event with
      | resize =>
        rw [pageAfter_of_no_key (by simp)]
        rfl
      | key press => exact page_key h

/-! ## Runs -/

/-- After a run that renders nothing anew the cells were toggled as often as they were hit. -/
theorem page_after {run : List Happening} (h : app.KeepsPage run) :
    (app.after run).jobs.page =
      app.jobs.page.flipped (fun place => app.hitCount .toggleNodeList place run)
        (fun place => app.hitCount .toggleHistory place run) := by
  induction run generalizing app with
  | nil => exact app.jobs.page.flipped_zero.symm
  | cons happening run ih =>
    calc (app.after (happening :: run)).jobs.page
        = (app.apply happening).jobs.page.flipped
            (fun place => (app.apply happening).hitCount .toggleNodeList place run)
            (fun place => (app.apply happening).hitCount .toggleHistory place run) := ih h.2
      _ = app.jobs.page.flipped
            (fun place => app.hitCount .toggleNodeList place (happening :: run))
            (fun place => app.hitCount .toggleHistory place (happening :: run)) := by
          rw [page_apply h.1]
          exact PageView.flipped_flipped _ _ _ _ _

/-- **Toggles are local to their cells and last.** Until the page is rendered anew it keeps its
rows, and a cell is open exactly if its state at the start says so after one change for each press
of its key while its row was selected, the jobs tab current and no overlay open. A run without such
presses leaves the page as it is. -/
theorem toggles_last (app : App) (run : List Happening) (h : app.KeepsPage run) :
    let page := (app.after run).jobs.page
    page.asRendered = app.jobs.page.asRendered ∧
      (∀ place row, app.jobs.page.rows[place]? = some row → ∃ later,
        page.rows[place]? = some later ∧ later.asRendered = row.asRendered ∧
        later.nodes.isOpen = not^[app.hitCount .toggleNodeList place run] row.nodes.isOpen ∧
        later.history.isOpen = not^[app.hitCount .toggleHistory place run] row.history.isOpen) ∧
      ((∀ place, app.hitCount .toggleNodeList place run = 0 ∧
        app.hitCount .toggleHistory place run = 0) → page = app.jobs.page) := by
  intro page
  have hpage : page = _ := page_after h
  refine ⟨?_, fun place row hrow => ?_, fun hnone => ?_⟩
  · rw [hpage]
    exact app.jobs.page.asRendered_flipped _ _
  · refine ⟨_, ?_, JobRow.opensOrCloses_flipped _ _ row,
      Collapsible.isOpen_iterate_toggle _ row.nodes,
      Collapsible.isOpen_iterate_toggle _ row.history⟩
    rw [hpage, PageView.getElem?_rows_flipped, hrow]
    rfl
  · rw [hpage]
    simp only [(hnone _).1, (hnone _).2]
    exact app.jobs.page.flipped_zero

/-- Two jobs of one user are loaded. -/
def twoJobsLoaded : Happening :=
  .event 0 (.data (.jobsLoaded
    ⟨Collection.decoded JobRecord [("2", .object []), ("1", .object [])]⟩ 0 false))

/-- Both toggle keys are pressed, on different rows, and again in the other tab and under the help.
-/
def togglingBoth : List Happening :=
  [pressed (.char 'n'), pressed .down, pressed (.char 'h'), pressed (.char '2'),
    pressed (.char 'h'), pressed (.char '1'), pressed (.char '?'), pressed (.char 'h'),
    pressed .escape, pressed .right, .event 0 (.data (.nodesLoaded .empty 0)), pressed .up,
    pressed (.char 'n')]

/-- Of the three presses for a history one counts, and opens that of the second row. -/
theorem toggles_last_two_jobs :
    let app := (initial .standard [] default .active).after [twoJobsLoaded]
    app.KeepsPage togglingBoth ∧ ∃ row later,
      app.jobs.page.rows[1]? = some row ∧ row.history.isOpen = false ∧
      (app.after togglingBoth).jobs.page.rows[1]? = some later ∧ later.history.isOpen = true ∧
      later.asRendered = row.asRendered := by
  intro app
  have hkeeps : app.KeepsPage togglingBoth := by decide +kernel
  have hclosed : (app.jobs.page.rows[1]?.map fun row => row.history.isOpen) = some false := by
    decide +kernel
  have honce : app.hitCount .toggleHistory 1 togglingBoth = 1 := by decide +kernel
  obtain ⟨row, hrow, hopen⟩ := Option.map_eq_some_iff.mp hclosed
  obtain ⟨later, hlater, hsame, -, hhistory⟩ :=
    (toggles_last app togglingBoth hkeeps).2.1 1 row hrow
  rw [honce, hopen] at hhistory
  exact ⟨hkeeps, row, later, hrow, hopen, hlater, hhistory, hsame⟩

end App

end Console

end ClusterBoard
