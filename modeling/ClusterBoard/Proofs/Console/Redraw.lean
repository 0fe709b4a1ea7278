import Mathlib
import ClusterBoard.Console.View.Screen
import ClusterBoard.Proofs.Console.Runs

/-!
# What is not drawn again

The event loop draws only after events that call for it. An event that calls for nothing leaves all
that is drawn alone, and at most adds to the queue of requests. There is one exception: a request
that nobody serves brings up a message, and the message is not drawn
(`App.unchanged_same_screen`).
-/

namespace ClusterBoard.Console

/-- Nothing but the queue of requests differs, so every drawing is the same. -/
structure App.SameScreen (app next : App) : Prop where
  eq : next = { app with requests := next.requests }
  draw_eq : ∀ now width height,
    View.draw next now width height = View.draw app now width height

/-- A key that asks for data nobody fetches. -/
structure App.AsksInVain (app : App) (event : Event) : Prop where
  closed : app.requests = .closed
  uncovered : app.overlay = .none
  refresh : ∃ press, event = .input (.key press) ∧ Action.ofKeyPress press = .refresh

namespace App

variable {app : App} {now : Int} {event : Event}

/-- The queue of requests is not drawn. -/
theorem draw_requests (app : App) (requests : RequestQueue) (now : Int) (width height : Nat) :
    View.draw { app with requests } now width height = View.draw app now width height := rfl

theorem sameScreen_refl (app : App) : app.SameScreen app := ⟨rfl, fun _ _ _ => rfl⟩

theorem sameScreen_requests (app : App) (requests : RequestQueue) :
    app.SameScreen { app with requests } :=
  ⟨rfl, app.draw_requests requests⟩

/-- Where nobody serves the queue a message comes up, and the event calls for nothing. -/
theorem AsksInVain.handle_eq (h : app.AsksInVain event) (now : Int) :
    app.handle now event = (app.withFailure now, .unchanged) := by
  obtain ⟨press, rfl, hp⟩ := h.refresh
  show app.handleAction now (.ofKeyPress press) = _
  rw [handleAction_of_none h.uncovered, hp]
  show (app.request now app.currentSource, Effect.unchanged) = _
  rw [request_of_closed h.closed]

/-- Any other event that calls for nothing leaves the screen alone. -/
theorem Step.of_unchanged {result : App × Effect} (hs : app.Step now event result)
    (hr : result.2 = .unchanged) : app.SameScreen result.1 ∨ app.AsksInVain event := by
  cases hs with
  | idle press => exact .inl app.sameScreen_refl
  | operate press ho ht jobs changed hop =>
    cases changed with
    | true => exact Effect.noConfusion hr
    | false =>
      rw [hop.eq_of_not_changed]
      exact .inl app.sameScreen_refl
  | refresh press ho hp =>
    rcases app.request_cases now app.currentSource with ⟨requests, heq⟩ | ⟨hclosed, -⟩
    · rw [heq]
      exact .inl (app.sameScreen_requests requests)
    · exact .inr ⟨hclosed, ho, press, rfl, hp⟩
  | _ => exact Effect.noConfusion hr

/-- The message that comes up is no change only if it is up already. -/
theorem sameScreen_withFailure_iff : app.SameScreen (app.withFailure now) ↔
    app.failure = some ⟨Web.fetchFailedMessage, now⟩ := by
  constructor
  · intro h
    exact (congrArg App.failure h.eq).symm
  · intro h
    refine ⟨?_, fun moment width height => ?_⟩
    all_goals
      unfold withFailure
      rw [← h]

/-- **What is not drawn again has not changed.** In every run, for every event that calls for
nothing; but for a key that asks for data nobody fetches, whose message comes up undrawn. -/
theorem unchanged_same_screen (settings : Settings) (warnings : List String)
    (client : Web.Client) (scope : Web.JobScope) (happenings : List Happening) (now : Int)
    (event : Event)
    (hr : (((initial settings warnings client scope).after happenings).handle now event).2 =
      .unchanged) :
    let app := (initial settings warnings client scope).after happenings
    let next := (app.handle now event).1
    (app.AsksInVain event → next = app.withFailure now) ∧
      (app.SameScreen next ↔
        (app.AsksInVain event → app.failure = some ⟨Web.fetchFailedMessage, now⟩)) := by
  intro app next
  have h := (consistent_initial settings warnings client scope).after happenings
  have hvain : app.AsksInVain event → next = app.withFailure now := fun hv =>
    congrArg Prod.fst (hv.handle_eq now)
  refine ⟨hvain, fun hsame hv => ?_, fun hv => ?_⟩
  · rw [hvain hv] at hsame
    exact sameScreen_withFailure_iff.mp hsame
  · rcases (step_handle h.jobs.derived event).of_unchanged hr with hsame | hasks
    · exact hsame
    · rw [hvain hasks]
      exact sameScreen_withFailure_iff.mpr (hv hasks)

/-- The key that asks for data. -/
def refreshKey : Event := .input (.key ⟨.char 'r', false, false, false⟩)

/-- Two jobs are fetched, and the history of the upper one is opened. -/
def openingHistory : List Happening := [.event 0 (.data (fetched .jobs)), pressed (.char 'h')]

/-- With a place in the queue the request is added to it, and the open history stays on screen. -/
theorem unchanged_same_screen_served :
    let app := (initial .standard [] default .active).after openingHistory
    let result := app.handle 0 refreshKey
    (app.jobs.page.rows.map fun row => row.history.isOpen) = [true, false] ∧
      result.1.requests = .serving [⟨.jobs, false⟩] ∧ result.2 = .unchanged ∧
      app.SameScreen result.1 := by
  intro app result
  have hrun : (app.jobs.page.rows.map fun row => row.history.isOpen) = [true, false] ∧
      app.requests ≠ .closed ∧ result.1.requests = .serving [⟨.jobs, false⟩] ∧
      result.2 = .unchanged := by
    unfold result app openingHistory
    rw [fetched_jobs]
    decide +kernel
  obtain ⟨hopen, hserved, hadded, hr⟩ := hrun
  have hsame :=
    (unchanged_same_screen .standard [] default .active openingHistory 0 refreshKey hr).2
  exact ⟨hopen, hadded, hr, hsame.mpr fun hvain => absurd hvain.closed hserved⟩

/-- Where nobody serves the queue a message is up that no drawing was asked for. -/
theorem unserved_request_not_drawn :
    let app := (initial .standard [] default .active).after [.queue .closed]
    let result := app.handle 0 refreshKey
    result.2 = .unchanged ∧ app.shownFailure? 0 = none ∧
      result.1.shownFailure? 0 = some Web.fetchFailedMessage := by
  decide

end App

end ClusterBoard.Console
