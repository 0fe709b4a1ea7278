import ClusterBoard.Console.Event
import ClusterBoard.Console.Tabs
import ClusterBoard.Settings.Basic

/-!
# The console

`App` is all that the console knows. `App.handleInput` and `App.handleData` are its steps: each
gives the new state and what the event calls for. An open overlay takes all keys; otherwise keys act
on the current tab.
-/

namespace ClusterBoard.Console

open Web

/-- What lies over the tab. -/
inductive Overlay where
  | none
  | help
  /-- The details of the selected row. -/
  | detail
  deriving DecidableEq, Repr

/-- Whether anything lies over the tab. -/
def Overlay.isActive (overlay : Overlay) : Bool := overlay != .none

/-- A message and when it came up, in seconds. -/
structure Notice where
  text : String
  since : Int
  deriving DecidableEq, Repr

/-- How long a message is shown, in seconds. -/
def noticeSeconds : Int := 5

/-- The state of the console. -/
structure App where
  running : Bool
  tab : Tab
  overlay : Overlay
  jobs : JobsTab
  nodes : NodesTab
  failure : Option Notice
  warnings : List String
  settings : Settings
  scope : JobScope
  client : Client
  requests : RequestQueue
  deriving Repr

namespace App

/-- The console before anything is loaded. -/
def initial (settings : Settings) (warnings : List String) (client : Client) (scope : JobScope) :
    App :=
  { running := true
    tab := .ofName settings.defaultView
    overlay := .none
    jobs := .initial
    nodes := .initial
    failure := none
    warnings
    settings
    scope
    client
    requests := .empty }

/-- The message of a failed fetch comes up. -/
def withFailure (app : App) (now : Int) : App :=
  { app with failure := some ⟨fetchFailedMessage, now⟩ }

/-- The message of a failed fetch, while it is shown. -/
def shownFailure? (app : App) (now : Int) : Option String :=
  (app.failure.filter fun notice => now - notice.since < noticeSeconds).map Notice.text

/-- Asks for data. A queue without a place drops the request; one that nobody serves is a
failure. -/
def request (app : App) (now : Int) (source : Source) : App :=
  match app.requests.push ⟨source, false⟩ with
  | (requests, .accepted) => { app with requests }
  | (_, .full) => app
  | (_, .closed) => app.withFailure now

/-- Asks for the first data of both tabs. -/
def start (app : App) (now : Int) : App := (app.request now .jobs).request now .nodes

/-- Whether the current tab has a selected record. -/
def hasSelection (app : App) : Bool :=
  match app.tab with
  | .jobs => app.jobs.selectedJob?.isSome
  | .nodes => app.nodes.selectedNode?.isSome

/-- Another row of the current tab. -/
def select (app : App) (move : Nat → Nat → Nat) : App :=
  match app.tab with
  | .jobs => { app with jobs := app.jobs.select move }
  | .nodes => { app with nodes := app.nodes.select move }

/-- An operation on the jobs tab, if it is the current one; it tells whether it changed what is on
screen. -/
def onJobs (app : App) (operation : JobsTab → JobsTab × Bool) : App × Effect :=
  match app.tab with
  | .jobs =>
    let (jobs, changed) := operation app.jobs
    ({ app with jobs }, if changed then .redraw else .unchanged)
  | .nodes => (app, .unchanged)

/-- Another tab. -/
def switchTo (app : App) (tab : Tab) : App × Effect :=
  if app.tab = tab then (app, .unchanged) else ({ app with tab }, .redraw)

/-- What is fetched for the current tab. -/
def currentSource (app : App) : Source :=
  match app.tab with
  | .jobs => .jobs
  | .nodes => .nodes

/-- Whether an action closes an overlay. -/
def closes : Overlay → Action → Bool
  | .none, _ => false
  | .help, action => [Action.escape, .showHelp, .quit].contains action
  | .detail, action => [Action.escape, .select, .quit].contains action

/-- The step of an action where no overlay is open. -/
def act (app : App) (now : Int) : Action → App × Effect
  | .quit => ({ app with running := false }, .quit)
  | .moveUp => (app.select fun _ selected => Selection.up selected, .redraw)
  | .moveDown => (app.select Selection.down, .redraw)
  | .moveToTop => (app.select fun _ _ => Selection.top, .redraw)
  | .moveToBottom => (app.select fun count _ => Selection.bottom count, .redraw)
  | .previousPage => app.onJobs JobsTab.previousPage
  | .nextPage => app.onJobs JobsTab.nextPage
  | .nextUser => app.onJobs JobsTab.nextUser
  | .previousUser => app.onJobs JobsTab.previousUser
  | .toggleNodeList => app.onJobs JobsTab.toggleNodes
  | .toggleHistory => app.onJobs JobsTab.toggleHistory
  | .switchToJobs => app.switchTo .jobs
  | .switchToNodes => app.switchTo .nodes
  | .select =>
    if app.hasSelection then ({ app with overlay := .detail }, .redraw) else (app, .unchanged)
  | .refresh => (app.request now app.currentSource, .unchanged)
  | .showHelp => ({ app with overlay := .help }, .redraw)
  | .escape | .unknown => (app, .unchanged)

/-- The step of an action. -/
def handleAction (app : App) (now : Int) (action : Action) : App × Effect :=
  match app.overlay with
  | .none => app.act now action
  | overlay =>
    if closes overlay action then ({ app with overlay := .none }, .redraw) else (app, .unchanged)

/-- The step of what the operator does. -/
def handleInput (app : App) (now : Int) : InputEvent → App × Effect
  | .key press => app.handleAction now (.ofKeyPress press)
  | .resize => (app, .redraw)

/-- The details of a record that is gone are closed. -/
def closeStaleDetail (app : App) (tab : Tab) : App :=
  if app.overlay = .detail ∧ app.tab = tab ∧ app.hasSelection = false then
    { app with overlay := .none }
  else app

/-- The step of what a fetch brings. -/
def handleData (app : App) (now : Int) : DataEvent → App × Effect
  | .jobsLoaded jobs fetchedAt background =>
    let app := { app with jobs := app.jobs.load jobs fetchedAt background, failure := none }
    (app.closeStaleDetail .jobs, .redraw)
  | .nodesLoaded nodes fetchedAt =>
    let app := { app with nodes := app.nodes.load nodes fetchedAt, failure := none }
    (app.closeStaleDetail .nodes, .redraw)
  | .fetchFailed _ _ => (app.withFailure now, .redraw)

end App

end ClusterBoard.Console
