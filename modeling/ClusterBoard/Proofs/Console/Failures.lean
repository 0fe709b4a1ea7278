import Mathlib
import ClusterBoard.Proofs.Console.Fetching

/-!
# Failed fetches

A failed fetch brings up a message, and nothing that the console does depends on the message. So
failed fetches may be put into a run anywhere: everything else in it happens as it would without
them (`App.failures_touch_message_only`). There is one message for both sources. It stays until
anything is loaded, of either source (`App.failure_stays_until_load`), so a load of one source takes
away the message of the other (`App.load_hides_other_failure`).
-/

namespace ClusterBoard.Console

open Web

/-! ## What depends on the message -/

namespace App

/-- The console with another message, or none. -/
def withMessage (app : App) (message : Option Notice) : App := { app with failure := message }

section Message

variable (app : App) (message : Option Notice)

theorem select_withMessage (move : Nat → Nat → Nat) :
    (app.withMessage message).select move = (app.select move).withMessage message := by
  unfold select withMessage
  cases app.tab <;> rfl

theorem onJobs_withMessage (operation : JobsTab → JobsTab × Bool) :
    (app.withMessage message).onJobs operation =
      ((app.onJobs operation).1.withMessage message, (app.onJobs operation).2) := by
  unfold onJobs withMessage
  cases h : app.tab with
  | jobs => rfl
  | nodes => simp only [h]

theorem switchTo_withMessage (tab : Tab) :
    (app.withMessage message).switchTo tab =
      ((app.switchTo tab).1.withMessage message, (app.switchTo tab).2) := by
  unfold switchTo withMessage
  by_cases h : app.tab = tab
  · rw [if_pos h, if_pos h]
  · rw [if_neg h, if_neg h]

/-- A request finds the same queue whatever the message. -/
theorem request_withMessage (now : Int) (source : Source) : ∃ later,
    (app.withMessage message).request now source =
      (app.request now source).withMessage later := by
  unfold request withMessage
  dsimp only
  rcases app.requests.push ⟨source, false⟩ with ⟨requests, admission⟩
  cases admission with
  | accepted => exact ⟨message, rfl⟩
  | full => exact ⟨message, rfl⟩
  | closed => exact ⟨_, rfl⟩

theorem act_withMessage (now : Int) {action : Action} (hr : action ≠ .refresh) :
    (app.withMessage message).act now action =
      ((app.act now action).1.withMessage message, (app.act now action).2) := by
  cases action with
  | refresh => exact absurd rfl hr
  | moveUp | moveDown | moveToTop | moveToBottom =>
    exact congrArg (·, Effect.redraw) (app.select_withMessage message _)
  | previousPage | nextPage | nextUser | previousUser | toggleNodeList | toggleHistory =>
    simp only [act, onJobs_withMessage]
  | switchToJobs | switchToNodes => exact app.switchTo_withMessage message _
  | select =>
    unfold act
    by_cases h : app.hasSelection
    · rw [if_pos h]
      exact if_pos h
    · rw [if_neg h]
      exact if_neg h
  | quit | showHelp | escape | unknown => rfl

variable {app} {event : InputEvent}

/-- Where the operator asks for data, a request is all that happens. -/
theorem handleInput_of_asked {request : FetchRequest} (h : app.asked? event = some request)
    (now : Int) : app.handleInput now event = (app.request now request.source, .unchanged) := by
  cases event with
  | resize => cases h
  | key press =>
    simp only [asked?] at h
    split_ifs at h with hasked
    obtain rfl := Option.some.inj h
    show app.handleAction now (.ofKeyPress press) = _
    rw [handleAction_of_none hasked.1, hasked.2]
    rfl

/-- Where the operator asks for nothing, the message stays. -/
theorem handleInput_withMessage (h : app.asked? event = none) (now : Int) :
    (app.withMessage message).handleInput now event =
      ((app.handleInput now event).1.withMessage message, (app.handleInput now event).2) := by
  cases event with
  | resize => rfl
  | key press =>
    show (app.withMessage message).handleAction now (.ofKeyPress press) =
      ((app.handleAction now (.ofKeyPress press)).1.withMessage message,
        (app.handleAction now (.ofKeyPress press)).2)
    by_cases ho : app.overlay = .none
    · have ho' : (app.withMessage message).overlay = .none := ho
      have hr : Action.ofKeyPress press ≠ .refresh := fun hr => by simp [asked?, ho, hr] at h
      rw [handleAction_of_none ho, handleAction_of_none ho']
      exact app.act_withMessage message now hr
    · have ho' : (app.withMessage message).overlay ≠ .none := ho
      rw [handleAction_of_open ho, handleAction_of_open ho']
      by_cases hc : closes app.overlay (.ofKeyPress press)
      · rw [if_pos hc]
        exact if_pos hc
      · rw [if_neg hc]
        exact if_neg hc

variable (app)

/-- What an event does depends on the message in nothing but the message. -/
theorem handle_withMessage (now : Int) (event : Event) : ∃ later,
    (app.withMessage message).handle now event =
      ((app.handle now event).1.withMessage later, (app.handle now event).2) := by
  cases event with
  | data event => cases event <;> exact ⟨_, rfl⟩
  | input event =>
    show ∃ later, (app.withMessage message).handleInput now event =
      ((app.handleInput now event).1.withMessage later, (app.handleInput now event).2)
    cases hasked : app.asked? event with
    | none => exact ⟨message, handleInput_withMessage message hasked now⟩
    | some request =>
      have hasked' : (app.withMessage message).asked? event = some request := hasked
      obtain ⟨later, heq⟩ := app.request_withMessage message now request.source
      refine ⟨later, ?_⟩
      rw [handleInput_of_asked hasked, handleInput_of_asked hasked', heq]

theorem apply_withMessage (happening : Happening) : ∃ later,
    (app.withMessage message).apply happening = (app.apply happening).withMessage later := by
  cases happening with
  | start now =>
    obtain ⟨first, hfirst⟩ := app.request_withMessage message now .jobs
    obtain ⟨later, hlater⟩ := (app.request now .jobs).request_withMessage first now .nodes
    refine ⟨later, ?_⟩
    show ((app.withMessage message).request now .jobs).request now .nodes = _
    rw [hfirst, hlater]
    rfl
  | event now event =>
    obtain ⟨later, heq⟩ := app.handle_withMessage message now event
    exact ⟨later, congrArg Prod.fst heq⟩
  | queue requests => exact ⟨message, rfl⟩

end Message

end App

/-! ## Failed fetches in a run -/

/-- What happens in a run into which failed fetches were put. -/
inductive Occurrence where
  /-- What happens in the run anyway. -/
  | given (happening : Happening)
  /-- A failed fetch that was put in. -/
  | inserted (now : Int) (source : Source) (error : FetchError)

namespace Occurrence

/-- What happens. -/
def happening : Occurrence → Happening
  | .given happening => happening
  | .inserted now source error => .event now (.data (.fetchFailed source error))

/-- What happens, unless it was put in. -/
def given? : Occurrence → Option Happening
  | .given happening => some happening
  | .inserted _ _ _ => none

end Occurrence

/-- What an event calls for, and the requests that wait after it. -/
structure Outcome where
  /-- What is called for, if what happens is an event. -/
  effect? : Option Effect
  requests : RequestQueue

namespace App

/-- The outcome of what happens to the console. -/
def outcome (app : App) (happening : Happening) : Outcome where
  effect? :=
    match happening with
    | .event now event => some (app.handle now event).2
    | _ => none
  requests := (app.apply happening).requests

/-- The outcomes of all that happens in a run. -/
def outcomes (app : App) : List Happening → List Outcome
  | [] => []
  | happening :: rest => app.outcome happening :: (app.apply happening).outcomes rest

/-- The outcomes of what happens anyway, in a run into which failed fetches were put. -/
def givenOutcomes (app : App) (run : List Occurrence) : List Outcome :=
  ((run.zip (app.outcomes (run.map Occurrence.happening))).filter (·.1.given?.isSome)).map Prod.snd

theorem outcome_withMessage (app : App) (message : Option Notice) (happening : Happening) :
    (app.withMessage message).outcome happening = app.outcome happening := by
  obtain ⟨later, happly⟩ := app.apply_withMessage message happening
  cases happening with
  | start now => exact congrArg (fun next => Outcome.mk none next.requests) happly
  | queue requests => rfl
  | event now event =>
    obtain ⟨later, hhandle⟩ := app.handle_withMessage message now event
    exact congrArg (fun result => Outcome.mk (some result.2) result.1.requests) hhandle

/-- Two consoles that differ in the message, one of which also hears of failed fetches, have the
same outcomes and go on to differ in the message. -/
theorem run_withMessage (run : List Occurrence) : ∀ (app : App) (message : Option Notice),
    (app.withMessage message).givenOutcomes run =
      app.outcomes (run.filterMap Occurrence.given?) ∧
    ∃ later, (app.withMessage message).after (run.map Occurrence.happening) =
      (app.after (run.filterMap Occurrence.given?)).withMessage later := by
  -- A failed fetch changes the message of the one console, anything else is done by both.
  induction run with
  | nil => exact fun app message => ⟨rfl, message, rfl⟩
  | cons occurrence run ih =>
    intro app message
    cases occurrence with
    | inserted now source error => exact ih app (some ⟨fetchFailedMessage, now⟩)
    | given happening =>
      obtain ⟨later, happly⟩ := app.apply_withMessage message happening
      obtain ⟨houtcomes, hafter⟩ := ih (app.apply happening) later
      rw [← happly] at houtcomes hafter
      refine ⟨?_, hafter⟩
      show (app.withMessage message).outcome happening ::
          ((app.withMessage message).apply happening).givenOutcomes run =
        app.outcome happening :: (app.apply happening).outcomes (run.filterMap Occurrence.given?)
      rw [outcome_withMessage, houtcomes]

/-- **Failed fetches touch the message only.** Wherever they are put into a run, each other event
calls for the same and leaves the same requests waiting, and in the end the console differs in
nothing but the message. -/
theorem failures_touch_message_only (app : App) (run : List Occurrence) :
    app.givenOutcomes run = app.outcomes (run.filterMap Occurrence.given?) ∧
      ∃ message, app.after (run.map Occurrence.happening) =
        { app.after (run.filterMap Occurrence.given?) with failure := message } :=
  run_withMessage run app app.failure

end App

/-! ## How long the message stays -/

namespace Happening

/-- Whether records are loaded, of either source. -/
def loads (happening : Happening) : Bool := happening.jobs?.isSome || happening.nodes?.isSome

/-- What a fetch brings. -/
def data? : Happening → Option DataEvent
  | .event _ (.data fetched) => some fetched
  | _ => none

/-- What the last fetch of a source brings in a run. -/
def lastOf? (source : Source) (run : List Happening) : Option DataEvent :=
  ((run.filterMap data?).filter (·.source = source)).getLast?

end Happening

namespace App

/-- The message that is stored, whether it is still shown or not. -/
def stored? (app : App) : Option String := app.failure.map Notice.text

/-- Whether what happens brings up the message: a fetch failed, or nobody serves the request that is
made. -/
def reports (app : App) : Happening → Bool
  | .start _ => app.requests = .closed
  | .event _ (.data (.fetchFailed _ _)) => true
  | .event _ (.input event) => (app.asked? event).isSome && app.requests = .closed
  | _ => false

variable {app : App} {happening : Happening}

theorem reports_of_loads (h : happening.loads) : app.reports happening = false := by
  cases happening with
  | start now => cases h
  | queue requests => cases h
  | event now event =>
    cases event with
    | input event => cases h
    | data event =>
      cases event with
      | jobsLoaded | nodesLoaded => rfl
      | fetchFailed => cases h

/-- A request that nobody serves brings up the message, any other leaves it. -/
theorem stored?_request (app : App) (now : Int) (source : Source) :
    (app.request now source).stored? =
      if app.requests = .closed then some fetchFailedMessage else app.stored? := by
  rcases app.request_cases now source with ⟨requests, heq⟩ | ⟨hclosed, heq⟩
  · by_cases hclosed : app.requests = .closed
    · rw [if_pos hclosed, request_of_closed hclosed]
      rfl
    · rw [if_neg hclosed, heq]
      rfl
  · rw [if_pos hclosed, heq]
    rfl

/-- Records that are loaded take the message away, and failures bring it up. -/
theorem stored?_apply (app : App) (happening : Happening) :
    (app.apply happening).stored? =
      if happening.loads then none
      else if app.reports happening then some fetchFailedMessage else app.stored? := by
  cases happening with
  | queue requests => rfl
  | start now =>
    show ((app.request now .jobs).request now .nodes).stored? =
      if decide (app.requests = .closed) then some fetchFailedMessage else app.stored?
    simp only [stored?_request, requests_request, RequestQueue.offered_eq_closed_iff,
      decide_eq_true_eq]
    split_ifs <;> rfl
  | event now event =>
    cases event with
    | data event =>
      cases event with
      | jobsLoaded | nodesLoaded =>
        show (closeStaleDetail _ _).stored? = none
        unfold closeStaleDetail
        split_ifs <;> rfl
      | fetchFailed => rfl
    | input event =>
      show (app.handleInput now event).1.stored? =
        if (app.asked? event).isSome && decide (app.requests = .closed) then
          some fetchFailedMessage
        else app.stored?
      cases hasked : app.asked? event with
      | none =>
        have heq : app.handleInput now event = _ := handleInput_withMessage app.failure hasked now
        rw [heq]
        rfl
      | some request =>
        rw [handleInput_of_asked hasked]
        simp [stored?_request]

/-- A message was brought up in a run, and nothing was loaded since. -/
def Reported (app : App) (run : List Happening) : Prop :=
  ∃ before happening later, run = before ++ happening :: later ∧
    (app.after before).reports happening ∧ ∀ since ∈ later, since.loads = false

theorem not_reported_nil (app : App) : ¬ app.Reported [] := by
  rintro ⟨before, happening, later, heq, -⟩
  exact List.append_ne_nil_of_right_ne_nil before (List.cons_ne_nil happening later) heq.symm

theorem reported_concat_iff {run : List Happening} : app.Reported (run ++ [happening]) ↔
    (app.after run).reports happening ∨ happening.loads = false ∧ app.Reported run := by
  constructor
  · rintro ⟨before, reported, later, heq, hreports, hlater⟩
    rcases List.eq_nil_or_concat later with rfl | ⟨later, last, rfl⟩
    · obtain ⟨rfl, hlast⟩ := List.append_inj' heq rfl
      obtain rfl := List.singleton_inj.mp hlast
      exact .inl hreports
    · rw [List.concat_eq_append] at heq hlater
      rw [← List.cons_append, ← List.append_assoc] at heq
      obtain ⟨rfl, hlast⟩ := List.append_inj' heq rfl
      obtain rfl := List.singleton_inj.mp hlast
      refine .inr ⟨hlater happening (by simp), before, reported, later, rfl, hreports, ?_⟩
      exact fun since hsince => hlater since (List.mem_append_left _ hsince)
  · rintro (hreports | ⟨hloads, before, reported, later, rfl, hreports, hlater⟩)
    · exact ⟨run, happening, [], rfl, hreports, nofun⟩
    · refine ⟨before, reported, later ++ [happening], by simp, hreports, ?_⟩
      intro since hsince
      rcases List.mem_append.mp hsince with hsince | hsince
      · exact hlater since hsince
      · exact List.mem_singleton.mp hsince ▸ hloads

/-- A message is stored after a run exactly if one was brought up and nothing was loaded since. -/
theorem stored?_after (app : App) (h : app.stored? = none) (run : List Happening) :
    (app.Reported run → (app.after run).stored? = some fetchFailedMessage) ∧
      (¬ app.Reported run → (app.after run).stored? = none) := by
  induction run using List.reverseRecOn with
  | nil => exact ⟨fun hr => absurd hr app.not_reported_nil, fun _ => h⟩
  | append_singleton run happening ih =>
    rw [after_concat, stored?_apply, reported_concat_iff]
    by_cases hl : happening.loads
    · simp [hl, reports_of_loads hl]
    · by_cases hr : (app.after run).reports happening
      · simp [hl, hr]
      · simpa [hl, hr] using ih

/-- **A failed fetch stays reported until anything is loaded.** After a failed fetch the message is
stored until the next load, of whatever source; and in every run it is stored exactly if a failure
came after the last load. -/
theorem failure_stays_until_load (settings : Settings) (warnings : List String) (client : Client)
    (scope : JobScope) (before later : List Happening) (now : Int) (source : Source)
    (error : FetchError) (h : ∀ since ∈ later, since.loads = false) :
    ((initial settings warnings client scope).after
      (before ++ .event now (.data (.fetchFailed source error)) :: later)).stored? =
        some fetchFailedMessage ∧
    ∀ run, ((initial settings warnings client scope).after run).stored? =
        some fetchFailedMessage ∧ (initial settings warnings client scope).Reported run ∨
      ((initial settings warnings client scope).after run).stored? = none ∧
        ¬ (initial settings warnings client scope).Reported run := by
  have hrun := (initial settings warnings client scope).stored?_after rfl
  refine ⟨(hrun _).1 ⟨before, _, later, rfl, rfl, h⟩, fun run => ?_⟩
  by_cases hr : (initial settings warnings client scope).Reported run
  · exact .inl ⟨(hrun run).1 hr, hr⟩
  · exact .inr ⟨(hrun run).2 hr, hr⟩

/-- The fetch of a source fails. -/
def fetchFails (source : Source) : Happening :=
  .event 0 (.data (.fetchFailed source (.request "http://localhost:8080/")))

/-- A failed fetch of the jobs stays reported while the operator goes to the nodes and their fetch
fails, too. -/
theorem failure_stays_other_tab :
    let later := [.event 0 (.input (.key ⟨.char '2', false, false, false⟩)), fetchFails .nodes]
    (∀ since ∈ later, Happening.loads since = false) ∧
      ((initial .standard [] default .active).after ([] ++ fetchFails .jobs :: later)).stored? =
        some fetchFailedMessage := by
  intro later
  have hlater : ∀ since ∈ later, Happening.loads since = false := by decide
  exact ⟨hlater, (failure_stays_until_load .standard [] default .active [] later 0 .jobs
    (.request "http://localhost:8080/") hlater).1⟩

/-- The last fetch of the jobs failed, and no message is stored once the nodes are loaded. -/
theorem load_hides_other_failure :
    let run := [fetchFails .jobs, .event 0 (.data (.nodesLoaded .empty 0))]
    Happening.lastOf? .jobs run =
        some (.fetchFailed .jobs (.request "http://localhost:8080/")) ∧
      ((initial .standard [] default .active).after run).stored? = none :=
  ⟨rfl, rfl⟩

end App

end ClusterBoard.Console
