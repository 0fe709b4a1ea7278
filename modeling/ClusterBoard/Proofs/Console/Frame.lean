import Mathlib
import ClusterBoard.Console.EventLoop

/-!
# What events leave alone

Most of what happens to the console changes what is on its tabs. Only a key that asks for data
touches the queue of requests, and only one that quits stops the console.
-/

namespace ClusterBoard.Console.App

/-- Whether the console runs, and its requests. -/
def core (app : App) : Bool × RequestQueue := (app.running, app.requests)

variable (app : App) (now : Int)

theorem core_select (move : Nat → Nat → Nat) : (app.select move).core = app.core := by
  unfold select
  split <;> rfl

theorem core_onJobs (operation : JobsTab → JobsTab × Bool) :
    (app.onJobs operation).1.core = app.core := by
  unfold onJobs
  split <;> rfl

theorem core_switchTo (tab : Tab) : (app.switchTo tab).1.core = app.core := by
  unfold switchTo
  split_ifs <;> rfl

theorem core_closeStaleDetail (tab : Tab) : (app.closeStaleDetail tab).core = app.core := by
  unfold closeStaleDetail
  split_ifs <;> rfl

theorem core_act {action : Action} (hr : action ≠ .refresh) (hq : action ≠ .quit) :
    (app.act now action).1.core = app.core := by
  cases action with
  | refresh => exact absurd rfl hr
  | quit => exact absurd rfl hq
  | moveUp | moveDown | moveToTop | moveToBottom => exact app.core_select _
  | previousPage | nextPage | nextUser | previousUser | toggleNodeList | toggleHistory =>
    exact app.core_onJobs _
  | switchToJobs | switchToNodes => exact app.core_switchTo _
  | select =>
    unfold act
    split_ifs <;> rfl
  | showHelp | escape | unknown => rfl

theorem core_handleData (event : DataEvent) : (app.handleData now event).1.core = app.core := by
  cases event with
  | jobsLoaded => exact core_closeStaleDetail _ _
  | nodesLoaded => exact core_closeStaleDetail _ _
  | fetchFailed => rfl

theorem running_request (source : Source) : (app.request now source).running = app.running := by
  unfold request
  split <;> rfl

theorem running_act (action : Action) :
    (app.act now action).1.running = app.running ∨ (app.act now action).2 = .quit := by
  by_cases hq : action = .quit
  · rw [hq]
    exact .inr rfl
  by_cases hr : action = .refresh
  · rw [hr]
    exact .inl (app.running_request now _)
  · exact .inl (congrArg Prod.fst (app.core_act now hr hq))

/-- Only an event that calls for the end stops the console. -/
theorem running_handle (event : Event) :
    (app.handle now event).1.running = app.running ∨ (app.handle now event).2 = .quit := by
  cases event with
  | data event => exact .inl (congrArg Prod.fst (app.core_handleData now event))
  | input event =>
    cases event with
    | resize => exact .inl rfl
    | key press =>
      show (app.handleAction now _).1.running = _ ∨ (app.handleAction now _).2 = _
      unfold handleAction
      split
      · exact app.running_act now _
      · split_ifs
        · exact .inl rfl
        · exact .inl rfl

theorem requests_act {action : Action} (hr : action ≠ .refresh) :
    (app.act now action).1.requests = app.requests := by
  by_cases hq : action = .quit
  · rw [hq]
    rfl
  · exact congrArg Prod.snd (app.core_act now hr hq)

theorem requests_handleData (event : DataEvent) :
    (app.handleData now event).1.requests = app.requests :=
  congrArg Prod.snd (app.core_handleData now event)

end ClusterBoard.Console.App
