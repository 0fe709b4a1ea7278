import Mathlib
import ClusterBoard.Console.EventLoop
import ClusterBoard.Console.View.Overlay
import ClusterBoard.Proofs.Console.Tabs
import ClusterBoard.Proofs.Web.Replies

/-!
# Runs of the console

`App.Step` says once what an event can make of the console. A run is a list of what happens: events,
and changes of the queue of requests from outside (`Happening`). By induction on it both tabs agree
with what they loaded last, and while the details are open there is a record to show
(`App.after_sound`). What the event loop draws is reached by such runs (`App.draws_sound`).
-/

namespace ClusterBoard

open Web

/-! ## What one event does -/

namespace Console

/-- A request is taken, finds no place, or finds nobody who serves the queue. -/
theorem RequestQueue.push_cases (queue : RequestQueue) (request : FetchRequest) :
    (∃ requests, queue.push request = (requests, .accepted)) ∨ queue.push request = (queue, .full) ∨
      queue = .closed ∧ queue.push request = (.closed, .closed) := by
  cases queue with
  | closed => exact .inr (.inr ⟨rfl, rfl⟩)
  | serving waiting =>
    unfold push
    by_cases hroom : waiting.length < capacity
    · exact .inl ⟨.serving (waiting ++ [request]), if_pos hroom⟩
    · exact .inr (.inl (if_neg hroom))

namespace App

/-- What an event can make of the console, and what it calls for. -/
inductive Step (app : App) (now : Int) : Event → App × Effect → Prop
  | resize : Step app now (.input .resize) (app, .redraw)
  /-- A key that has nothing to act on. -/
  | idle (press : KeyPress) : Step app now (.input (.key press)) (app, .unchanged)
  | close (press : KeyPress) (hc : closes app.overlay (.ofKeyPress press)) :
      Step app now (.input (.key press)) ({ app with overlay := .none }, .redraw)
  | quit (press : KeyPress) (ho : app.overlay = .none) :
      Step app now (.input (.key press)) ({ app with running := false }, .quit)
  | select (press : KeyPress) (ho : app.overlay = .none) (move : Nat → Nat → Nat)
      (hm : Selection.Keeps move) :
      Step app now (.input (.key press)) (app.select move, .redraw)
  | operate (press : KeyPress) (ho : app.overlay = .none) (ht : app.tab = .jobs) (jobs : JobsTab)
      (changed : Bool) (h : app.jobs.Operates (jobs, changed)) :
      Step app now (.input (.key press))
        ({ app with jobs }, if changed then .redraw else .unchanged)
  | switch (press : KeyPress) (ho : app.overlay = .none) (tab : Tab) :
      Step app now (.input (.key press)) ({ app with tab }, .redraw)
  | openDetail (press : KeyPress) (ho : app.overlay = .none) (hs : app.hasSelection = true) :
      Step app now (.input (.key press)) ({ app with overlay := .detail }, .redraw)
  | openHelp (press : KeyPress) (ho : app.overlay = .none) :
      Step app now (.input (.key press)) ({ app with overlay := .help }, .redraw)
  | refresh (press : KeyPress) (ho : app.overlay = .none)
      (hp : Action.ofKeyPress press = .refresh) :
      Step app now (.input (.key press)) (app.request now app.currentSource, .unchanged)
  | jobsLoaded (jobs : Collection JobRecord) (fetchedAt : Int) (background : Bool) :
      Step app now (.data (.jobsLoaded jobs fetchedAt background))
        (closeStaleDetail
          { app with jobs := app.jobs.load jobs fetchedAt background, failure := none } .jobs,
          .redraw)
  | nodesLoaded (nodes : Collection NodeRecord) (fetchedAt : Int) :
      Step app now (.data (.nodesLoaded nodes fetchedAt))
        (closeStaleDetail
          { app with nodes := app.nodes.load nodes fetchedAt, failure := none } .nodes, .redraw)
  | fetchFailed (source : Source) (error : FetchError) :
      Step app now (.data (.fetchFailed source error)) (app.withFailure now, .redraw)

variable {app : App} {now : Int}

theorem handleAction_of_none (ho : app.overlay = .none) (action : Action) :
    app.handleAction now action = app.act now action := by
  unfold handleAction
  rw [ho]

/-- An open overlay takes all keys. -/
theorem handleAction_of_open (ho : app.overlay ≠ .none) (action : Action) :
    app.handleAction now action =
      if closes app.overlay action then ({ app with overlay := .none }, .redraw)
      else (app, .unchanged) := by
  unfold handleAction
  cases h : app.overlay with
  | none => exact absurd h ho
  | help => rfl
  | detail => rfl

theorem step_onJobs (ho : app.overlay = .none) (press : KeyPress)
    {operation : JobsTab → JobsTab × Bool} (h : app.jobs.Operates (operation app.jobs)) :
    app.Step now (.input (.key press)) (app.onJobs operation) := by
  unfold onJobs
  split
  · rename_i ht
    exact .operate press ho ht _ _ h
  · exact .idle press

theorem step_switchTo (ho : app.overlay = .none) (press : KeyPress) (tab : Tab) :
    app.Step now (.input (.key press)) (app.switchTo tab) := by
  unfold switchTo
  split_ifs
  · exact .idle press
  · exact .switch press ho tab

theorem step_act (hd : app.jobs.pager.Derived) (ho : app.overlay = .none) (press : KeyPress) :
    app.Step now (.input (.key press)) (app.act now (.ofKeyPress press)) := by
  cases hp : Action.ofKeyPress press with
  | quit => exact .quit press ho
  | moveUp => exact .select press ho _ Selection.keeps_up
  | moveDown => exact .select press ho _ Selection.keeps_down
  | moveToTop => exact .select press ho _ Selection.keeps_top
  | moveToBottom => exact .select press ho _ Selection.keeps_bottom
  | previousPage => exact step_onJobs ho press (JobsTab.operates_previousPage _)
  | nextPage => exact step_onJobs ho press (JobsTab.operates_nextPage _)
  | nextUser => exact step_onJobs ho press (JobsTab.operates_nextUser hd)
  | previousUser => exact step_onJobs ho press (JobsTab.operates_previousUser hd)
  | toggleNodeList => exact step_onJobs ho press (JobsTab.operates_toggleNodes _)
  | toggleHistory => exact step_onJobs ho press (JobsTab.operates_toggleHistory _)
  | switchToJobs => exact step_switchTo ho press .jobs
  | switchToNodes => exact step_switchTo ho press .nodes
  | select =>
    unfold act
    split_ifs with hs
    · exact .openDetail press ho hs
    · exact .idle press
  | refresh => exact .refresh press ho hp
  | showHelp => exact .openHelp press ho
  | escape => exact .idle press
  | unknown => exact .idle press

/-- Every event is a step, where the navigation is that of the jobs. -/
theorem step_handle (hd : app.jobs.pager.Derived) (event : Event) :
    app.Step now event (app.handle now event) := by
  cases event with
  | data event => cases event <;> constructor
  | input event =>
    cases event with
    | resize => exact .resize
    | key press =>
      show app.Step now _ (app.handleAction now (.ofKeyPress press))
      by_cases ho : app.overlay = .none
      · rw [handleAction_of_none ho]
        exact step_act hd ho press
      · rw [handleAction_of_open ho]
        split_ifs with hc
        · exact .close press hc
        · exact .idle press

/-! ## What every step keeps -/

/-- Both tabs agree with what they loaded, and the details are those of a record. -/
structure Consistent (app : App) : Prop where
  jobs : app.jobs.Sound
  nodes : app.nodes.Sound
  detail : app.overlay = .detail → app.hasSelection = true

theorem consistent_initial (settings : Settings) (warnings : List String) (client : Client)
    (scope : JobScope) : (initial settings warnings client scope).Consistent where
  jobs := JobsTab.sound_initial
  nodes := NodesTab.sound_initial
  detail := nofun

/-- Asking for data changes the queue, or brings up a message where nobody serves the queue. -/
theorem request_cases (app : App) (now : Int) (source : Source) :
    (∃ requests, app.request now source = { app with requests }) ∨
      app.requests = .closed ∧ app.request now source = app.withFailure now := by
  unfold request
  rcases app.requests.push_cases ⟨source, false⟩ with ⟨requests, h⟩ | h | ⟨hclosed, h⟩
  · rw [h]
    exact .inl ⟨requests, rfl⟩
  · rw [h]
    exact .inl ⟨app.requests, rfl⟩
  · rw [h]
    exact .inr ⟨hclosed, rfl⟩

theorem request_of_closed (h : app.requests = .closed) (source : Source) :
    app.request now source = app.withFailure now := by
  unfold request
  rw [h]
  rfl

/-- Asking for data touches the queue and the message only. -/
theorem request_frame (app : App) (now : Int) (source : Source) :
    ∃ requests failure, app.request now source = { app with requests, failure } := by
  rcases app.request_cases now source with ⟨requests, heq⟩ | ⟨-, heq⟩
  · exact ⟨requests, app.failure, heq⟩
  · exact ⟨app.requests, _, heq⟩

/-- Other jobs do not touch what is selected in another tab. -/
theorem hasSelection_of_tab_ne_jobs (app : App) {jobs : JobsTab} {failure : Option Notice}
    (ht : app.tab ≠ .jobs) : hasSelection { app with jobs, failure } = app.hasSelection := by
  unfold hasSelection
  cases htab : app.tab with
  | jobs => exact absurd htab ht
  | nodes => rfl

/-- Other nodes do not touch what is selected in another tab. -/
theorem hasSelection_of_tab_ne_nodes (app : App) {nodes : NodesTab} {failure : Option Notice}
    (ht : app.tab ≠ .nodes) : hasSelection { app with nodes, failure } = app.hasSelection := by
  unfold hasSelection
  cases htab : app.tab with
  | jobs => rfl
  | nodes => exact absurd htab ht

namespace Consistent

theorem select (h : app.Consistent) (ho : app.overlay = .none) {move : Nat → Nat → Nat}
    (hm : Selection.Keeps move) : (app.select move).Consistent := by
  unfold App.select
  split
  · exact ⟨h.jobs.select hm, h.nodes, fun hd => by simp [ho] at hd⟩
  · exact ⟨h.jobs, h.nodes.select hm, fun hd => by simp [ho] at hd⟩

theorem request (h : app.Consistent) (now : Int) (source : Source) :
    (app.request now source).Consistent := by
  obtain ⟨requests, failure, heq⟩ := app.request_frame now source
  rw [heq]
  exact ⟨h.jobs, h.nodes, h.detail⟩

/-- Details without a record do not outlive a load of their tab. -/
theorem closeStaleDetail {tab : Tab} (hj : app.jobs.Sound) (hn : app.nodes.Sound)
    (h : app.overlay = .detail → app.tab ≠ tab → app.hasSelection = true) :
    (app.closeStaleDetail tab).Consistent := by
  unfold App.closeStaleDetail
  split_ifs with hstale
  · exact ⟨hj, hn, nofun⟩
  · refine ⟨hj, hn, fun hd => ?_⟩
    by_cases ht : app.tab = tab
    · exact Bool.of_not_eq_false fun hs => hstale ⟨hd, ht, hs⟩
    · exact h hd ht

theorem step (h : app.Consistent) {event : Event} {result : App × Effect}
    (hs : app.Step now event result) : result.1.Consistent := by
  -- Keys that change a tab find no overlay, so only loads can take the record from open details.
  cases hs with
  | resize => exact h
  | idle press => exact h
  | close press hc => exact ⟨h.jobs, h.nodes, nofun⟩
  | quit press ho => exact ⟨h.jobs, h.nodes, h.detail⟩
  | select press ho move hm => exact h.select ho hm
  | operate press ho ht jobs changed hop =>
    exact ⟨h.jobs.operates hop, h.nodes, fun hd => by simp [ho] at hd⟩
  | switch press ho tab => exact ⟨h.jobs, h.nodes, fun hd => by simp [ho] at hd⟩
  | openDetail press ho hsel => exact ⟨h.jobs, h.nodes, fun _ => hsel⟩
  | openHelp press ho => exact ⟨h.jobs, h.nodes, nofun⟩
  | refresh press ho hp => exact h.request now _
  | jobsLoaded jobs fetchedAt background =>
    exact closeStaleDetail (h.jobs.load jobs fetchedAt background) h.nodes fun hd ht =>
      (app.hasSelection_of_tab_ne_jobs ht).trans (h.detail hd)
  | nodesLoaded nodes fetchedAt =>
    exact closeStaleDetail h.jobs (NodesTab.sound_load app.nodes nodes fetchedAt) fun hd ht =>
      (app.hasSelection_of_tab_ne_nodes ht).trans (h.detail hd)
  | fetchFailed source error => exact ⟨h.jobs, h.nodes, h.detail⟩

end Consistent

end App

/-! ## Runs -/

/-- What happens to the console. -/
inductive Happening where
  /-- The first data of both tabs is asked for. -/
  | start (now : Int)
  | event (now : Int) (event : Event)
  /-- Requests are added to the queue or taken from it, or nobody serves it any more. -/
  | queue (requests : RequestQueue)

namespace Happening

/-- The jobs that are loaded. -/
def jobs? : Happening → Option (Collection JobRecord)
  | .event _ (.data (.jobsLoaded jobs _ _)) => some jobs
  | _ => none

/-- The nodes that are loaded. -/
def nodes? : Happening → Option (Collection NodeRecord)
  | .event _ (.data (.nodesLoaded nodes _)) => some nodes
  | _ => none

/-- The jobs that are loaded last; none before any are. -/
def lastJobs (happenings : List Happening) : Collection JobRecord :=
  (happenings.filterMap jobs?).getLast?.getD .empty

/-- The nodes that are loaded last; none before any are. -/
def lastNodes (happenings : List Happening) : Collection NodeRecord :=
  (happenings.filterMap nodes?).getLast?.getD .empty

end Happening

namespace App

/-- The console after something happened. -/
def apply (app : App) : Happening → App
  | .start now => app.start now
  | .event now event => (app.handle now event).1
  | .queue requests => { app with requests }

/-- The console after a run. -/
def after (app : App) (happenings : List Happening) : App := happenings.foldl apply app

theorem after_concat (app : App) (happenings : List Happening) (happening : Happening) :
    app.after (happenings ++ [happening]) = (app.after happenings).apply happening :=
  List.foldl_append

variable {app : App}

theorem Consistent.apply (h : app.Consistent) (happening : Happening) :
    (app.apply happening).Consistent := by
  cases happening with
  | start now => exact (h.request now .jobs).request now .nodes
  | event now event => exact h.step (step_handle h.jobs.derived event)
  | queue requests => exact ⟨h.jobs, h.nodes, h.detail⟩

/-- After every run the tabs agree with what they loaded. -/
theorem Consistent.after (h : app.Consistent) (happenings : List Happening) :
    (app.after happenings).Consistent := by
  induction happenings using List.reverseRecOn with
  | nil => exact h
  | append_singleton happenings happening ih =>
    rw [after_concat]
    exact ih.apply happening

/-! ### What is loaded -/

/-- What is loaded in both tabs. -/
def loaded (app : App) : Collection JobRecord × Collection NodeRecord :=
  (app.jobs.pager.jobs, app.nodes.nodes)

theorem loaded_request (app : App) (now : Int) (source : Source) :
    (app.request now source).loaded = app.loaded := by
  obtain ⟨requests, failure, heq⟩ := app.request_frame now source
  rw [heq]
  rfl

theorem loaded_closeStaleDetail (app : App) (tab : Tab) :
    (app.closeStaleDetail tab).loaded = app.loaded := by
  unfold closeStaleDetail
  split_ifs <;> rfl

theorem loaded_select (app : App) (move : Nat → Nat → Nat) :
    (app.select move).loaded = app.loaded := by
  unfold select
  split <;> rfl

theorem Step.loaded_eq {now : Int} {event : Event} {result : App × Effect}
    (hs : app.Step now event result) :
    result.1.loaded = ((Happening.event now event).jobs?.getD app.jobs.pager.jobs,
      (Happening.event now event).nodes?.getD app.nodes.nodes) := by
  cases hs with
  | select press ho move hm => exact app.loaded_select move
  | operate press ho ht jobs changed hop => exact congrArg (·, app.nodes.nodes) hop.jobs_eq
  | refresh press ho hp => exact app.loaded_request now _
  | jobsLoaded jobs fetchedAt background =>
    rw [loaded_closeStaleDetail]
    exact congrArg (·, app.nodes.nodes) (app.jobs.jobs_load jobs fetchedAt background)
  | nodesLoaded nodes fetchedAt => exact loaded_closeStaleDetail _ _
  | _ => rfl

theorem loaded_apply (h : app.Consistent) (happening : Happening) :
    (app.apply happening).loaded =
      (happening.jobs?.getD app.jobs.pager.jobs, happening.nodes?.getD app.nodes.nodes) := by
  cases happening with
  | start now => exact (loaded_request _ now .nodes).trans (app.loaded_request now .jobs)
  | event now event => exact (step_handle h.jobs.derived event).loaded_eq
  | queue requests => rfl

/-- What changes only with certain happenings is what the last of them brought. -/
theorem after_last {β : Type} (part : App → β) {brings : Happening → Option β}
    (hpart : ∀ {app : App}, app.Consistent → ∀ happening,
      part (app.apply happening) = (brings happening).getD (part app))
    (h : app.Consistent) (happenings : List Happening) :
    part (app.after happenings) = (happenings.filterMap brings).getLast?.getD (part app) := by
  induction happenings using List.reverseRecOn with
  | nil => rfl
  | append_singleton happenings happening ih =>
    rw [after_concat, hpart (h.after happenings), ih, List.filterMap_append,
      List.getLast?_append]
    cases hb : brings happening <;> simp [hb]

end App

/-! ## What the event loop draws -/

/-- What is drawn is the state at hand or drawn later. -/
theorem mem_draws_showing {fails : Nat → Option String} {drawn : Nat} {needsDraw : Bool}
    {app shown : App} {rest : Screening}
    (h : shown ∈ (Screening.showing fails drawn needsDraw app rest).draws) :
    shown = app ∨ shown ∈ rest.draws := by
  unfold Screening.showing at h
  split_ifs at h
  · split at h
    · exact .inl (List.mem_singleton.mp h)
    · exact List.mem_cons.mp h
  · exact .inr h

/-- Every state that is drawn is reached by the events that were taken before. -/
theorem exists_after_of_mem_draws {fails : Nat → Option String} {now : Int} {shown : App}
    (events : List Event) : ∀ {drawn : Nat} {needsDraw : Bool} {app : App},
    shown ∈ (runFrom fails now drawn needsDraw app events).draws →
      ∃ happenings, shown = app.after happenings := by
  -- A drawn state is the one at hand, or it is drawn in the rest of the run.
  induction events with
  | nil =>
    intro drawn needsDraw app h
    rcases mem_draws_showing h with rfl | h
    · exact ⟨[], rfl⟩
    · exact absurd h List.not_mem_nil
  | cons event events ih =>
    intro drawn needsDraw app h
    rcases mem_draws_showing h with rfl | h
    · exact ⟨[], rfl⟩
    · by_cases hr : app.running = true
      · rw [if_pos hr] at h
        split at h
        · exact absurd h List.not_mem_nil
        · rename_i next effect hquit hstep
          obtain ⟨happenings, rfl⟩ := ih h
          refine ⟨.event now event :: happenings, ?_⟩
          show next.after happenings = (app.handle now event).1.after happenings
          rw [hstep]
      · rw [if_neg hr] at h
        exact absurd h List.not_mem_nil

/-! ## Records that are fetched -/

/-- The records that an event brings have distinct IDs. -/
def DataEvent.Distinct : DataEvent → Prop
  | .jobsLoaded jobs _ _ => jobs.Distinct
  | .nodesLoaded nodes _ => nodes.Distinct
  | .fetchFailed _ _ => True

/-- Whatever the server replies, the records that come have distinct IDs. -/
theorem DataEvent.ofReply_distinct (client : Client) (scope : JobScope) (now : Int)
    (request : FetchRequest) (reply : Reply) :
    (DataEvent.ofReply client scope now request reply).Distinct := by
  unfold DataEvent.ofReply
  cases hf : reply.fields? with
  | none =>
    have hjobs : ∃ e, client.fetchJobs scope reply = .error e :=
      Client.readCollection_of_no_fields hf
    have hnodes : ∃ e, client.fetchNodes reply = .error e := Client.readCollection_of_no_fields hf
    obtain ⟨⟨e, he⟩, ⟨e', he'⟩⟩ := And.intro hjobs hnodes
    rw [he, he']
    cases request.source <;> trivial
  | some fields =>
    have hjobs : client.fetchJobs scope reply = .ok (.ofRecords (Collection.decoded _ fields)) :=
      Client.readCollection_of_fields hf
    have hnodes : client.fetchNodes reply = .ok (.ofRecords (Collection.decoded _ fields)) :=
      Client.readCollection_of_fields hf
    rw [hjobs, hnodes]
    cases request.source with
    | jobs => exact Collection.distinct_ofRecords (fields?_distinct hf)
    | nodes => exact Collection.distinct_ofRecords (fields?_distinct hf)

namespace Happening

/-- What is loaded, if anything is, has distinct IDs. -/
def Distinct : Happening → Prop
  | .event _ (.data fetched) => fetched.Distinct
  | _ => True

theorem Distinct.jobs {happening : Happening} {jobs : Collection JobRecord}
    (h : happening.Distinct) (hj : happening.jobs? = some jobs) : jobs.Distinct := by
  unfold jobs? at hj
  split at hj
  · obtain rfl := Option.some.inj hj
    exact h
  · cases hj

theorem Distinct.nodes {happening : Happening} {nodes : Collection NodeRecord}
    (h : happening.Distinct) (hn : happening.nodes? = some nodes) : nodes.Distinct := by
  unfold nodes? at hn
  split at hn
  · obtain rfl := Option.some.inj hn
    exact h
  · cases hn

/-- The last of certain collections has distinct IDs, if each of them has. -/
theorem distinct_last {α : Type} [Record α] {brings : Happening → Option (Collection α)}
    {happenings : List Happening}
    (h : ∀ happening ∈ happenings, ∀ c, brings happening = some c → c.Distinct) :
    ((happenings.filterMap brings).getLast?.getD .empty).Distinct := by
  cases hl : (happenings.filterMap brings).getLast? with
  | none => exact Collection.distinct_empty
  | some c =>
    obtain ⟨happening, hmem, hc⟩ := List.mem_filterMap.mp (List.mem_of_getLast? hl)
    exact h happening hmem c hc

end Happening

/-- The details have content where a record is selected. -/
theorem View.detail?_isSome (app : App) (theme : Theme) :
    (View.detail? app theme).isSome = app.hasSelection := by
  unfold View.detail? App.hasSelection
  cases app.tab with
  | jobs => exact Option.isSome_map
  | nodes => exact Option.isSome_map

/-! ## The theorem -/

namespace App

/-- What is on screen agrees with what was loaded last. -/
structure Sound (app : App) (jobs : Collection JobRecord) (nodes : Collection NodeRecord) :
    Prop where
  derived : app.jobs.pager.Derived
  /-- The page that is shown exists. -/
  inRange : app.jobs.pager.InRange
  /-- The page is the pager's but for open and closed cells. -/
  page_eq : app.jobs.page.asRendered = app.jobs.pager.view
  table_eq : app.nodes.table = .ofNodes app.nodes.nodes
  job_lt : app.jobs.selected < max 1 app.jobs.page.rows.length
  node_lt : app.nodes.selected < max 1 app.nodes.table.rows.length
  jobs_eq : app.jobs.pager.jobs = jobs
  nodes_eq : app.nodes.nodes = nodes
  /-- Where there are rows one is selected. -/
  jobRow_iff : app.jobs.selectedRow?.isSome ↔ app.jobs.page.rows ≠ []
  nodeRow_iff : app.nodes.selectedRow?.isSome ↔ app.nodes.table.rows ≠ []
  /-- Each row was rendered from the job shown at its place. -/
  rows_eq : app.jobs.page.rows.map JobRow.asRendered = app.jobs.pager.shownJobs.map JobRow.ofJob
  /-- The selected record is the one that the selected row was rendered from. -/
  job_eq : jobs.Distinct → app.jobs.selectedJob? = app.jobs.pager.shownJobs[app.jobs.selected]?
  node_eq : nodes.Distinct → app.nodes.selectedNode? = nodes.records[app.nodes.selected]?
  /-- While the details are open there is a record to show. -/
  detail : app.overlay = .detail →
    app.hasSelection = true ∧ ∀ theme, (View.detail? app theme).isSome = true

theorem Consistent.sound {app : App} (h : app.Consistent) :
    app.Sound app.jobs.pager.jobs app.nodes.nodes where
  derived := h.jobs.derived
  inRange := h.jobs.inRange
  page_eq := h.jobs.page_eq
  table_eq := h.nodes.table_eq
  job_lt := h.jobs.selected_lt
  node_lt := h.nodes.selected_lt
  jobs_eq := rfl
  nodes_eq := rfl
  jobRow_iff := h.jobs.selectedRow?_isSome_iff
  nodeRow_iff := h.nodes.selectedRow?_isSome_iff
  rows_eq := h.jobs.rows_eq
  job_eq := h.jobs.selectedJob?_eq
  node_eq := h.nodes.selectedNode?_eq
  detail hd := ⟨h.detail hd, fun theme => (View.detail?_isSome app theme).trans (h.detail hd)⟩

/-- Whatever the event loop draws is sound, for some jobs and nodes. -/
theorem draws_sound {settings : Settings} {warnings : List String} {client : Client}
    {scope : JobScope} {fails : Nat → Option String} {now : Int} {schedule : List Inbox}
    {shown : App} (h : shown ∈
      (run fails now ((initial settings warnings client scope).start now) schedule).draws) :
    ∃ jobs nodes, shown.Sound jobs nodes := by
  obtain ⟨happenings, rfl⟩ := exists_after_of_mem_draws _ h
  have hstart := (consistent_initial settings warnings client scope).apply (.start now)
  exact ⟨_, _, (hstart.after happenings).sound⟩

/-- **What is on screen is what was loaded.** After every run, whatever the operator pressed and
whatever came; and fetches bring records with distinct IDs. -/
theorem after_sound (settings : Settings) (warnings : List String) (client : Client)
    (scope : JobScope) :
    (∀ happenings, ((initial settings warnings client scope).after happenings).Sound
      (Happening.lastJobs happenings) (Happening.lastNodes happenings)) ∧
    (∀ happenings : List Happening, (∀ happening ∈ happenings, happening.Distinct) →
      (Happening.lastJobs happenings).Distinct ∧ (Happening.lastNodes happenings).Distinct) ∧
    ∀ now request reply, (DataEvent.ofReply client scope now request reply).Distinct := by
  refine ⟨fun happenings => ?_, fun happenings hd => ⟨?_, ?_⟩,
    DataEvent.ofReply_distinct client scope⟩
  · have h := consistent_initial settings warnings client scope
    have hjobs : ((initial settings warnings client scope).after happenings).jobs.pager.jobs =
        Happening.lastJobs happenings :=
      after_last (fun app => app.jobs.pager.jobs)
        (fun h happening => congrArg Prod.fst (loaded_apply h happening)) h happenings
    have hnodes : ((initial settings warnings client scope).after happenings).nodes.nodes =
        Happening.lastNodes happenings :=
      after_last (fun app => app.nodes.nodes)
        (fun h happening => congrArg Prod.snd (loaded_apply h happening)) h happenings
    rw [← hjobs, ← hnodes]
    exact (h.after happenings).sound
  · exact Happening.distinct_last fun happening hmem _ => (hd happening hmem).jobs
  · exact Happening.distinct_last fun happening hmem _ => (hd happening hmem).nodes

/-! ### Two records are fetched -/

/-- A key is pressed alone. -/
def pressed (key : Key) : Happening := .event 0 (.input (.key ⟨key, false, false, false⟩))

/-- Two records, of jobs or of nodes. -/
def twoRecords : Json.Fields := [("12", .object []), ("7", .object [])]

/-- The answer of a server with these records. -/
def twoAnswered : Reply := .answer 200 "\x7b\"12\": \x7b\x7d, \"7\": \x7b\x7d\x7d".toUTF8

/-- What is fetched with this answer. -/
def fetched (source : Source) : DataEvent := .ofReply default .active 0 ⟨source, false⟩ twoAnswered

theorem fields?_twoAnswered : twoAnswered.fields? = some twoRecords := fields?_of_text rfl

theorem fetched_jobs :
    fetched .jobs = .jobsLoaded ⟨Collection.decoded JobRecord twoRecords⟩ 0 false := by
  have hjobs : (default : Client).fetchJobs .active twoAnswered =
      .ok (.ofRecords (Collection.decoded JobRecord twoRecords)) :=
    Client.readCollection_of_fields fields?_twoAnswered
  rw [Collection.ofRecords_of_descending (by decide)] at hjobs
  unfold fetched DataEvent.ofReply
  rw [hjobs]

theorem fetched_nodes :
    fetched .nodes = .nodesLoaded ⟨Collection.decoded NodeRecord twoRecords⟩ 0 := by
  have hnodes : (default : Client).fetchNodes twoAnswered =
      .ok (.ofRecords (Collection.decoded NodeRecord twoRecords)) :=
    Client.readCollection_of_fields fields?_twoAnswered
  rw [Collection.ofRecords_of_descending (by decide)] at hnodes
  unfold fetched DataEvent.ofReply
  rw [hnodes]

/-- Jobs and nodes are fetched, and in both tabs the lower row is selected. -/
def selectingLower : List Happening :=
  [.event 0 (.data (fetched .jobs)), .event 0 (.data (fetched .nodes)), pressed .down,
    pressed (.char '2'), pressed .down]

/-- The record of the lower row is that of the lower ID. -/
theorem after_sound_lower_rows :
    let app := (initial .standard [] default .active).after selectingLower
    (∀ happening ∈ selectingLower, happening.Distinct) ∧
      app.jobs.selectedJob?.map JobRecord.id = some ⟨"7"⟩ ∧
      app.nodes.selectedNode?.map NodeRecord.id = some ⟨"7"⟩ := by
  intro app
  obtain ⟨hsound, hdistinct, hreplies⟩ := after_sound .standard [] default .active
  have hrun : ∀ happening ∈ selectingLower, happening.Distinct := by
    simp [selectingLower, Happening.Distinct, pressed, fetched, hreplies]
  obtain ⟨hjobs, hnodes⟩ := hdistinct selectingLower hrun
  refine ⟨hrun, ?_, ?_⟩
  · rw [(hsound selectingLower).job_eq hjobs]
    unfold selectingLower
    rw [fetched_jobs, fetched_nodes]
    decide +kernel
  · rw [(hsound selectingLower).node_eq hnodes]
    unfold selectingLower
    rw [fetched_jobs, fetched_nodes]
    decide +kernel

end App

end Console

end ClusterBoard
