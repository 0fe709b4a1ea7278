import Mathlib
import ClusterBoard.Console.Session
import ClusterBoard.Proofs.Console.Frame
import ClusterBoard.Proofs.Console.Runs

/-!
# Fetching in order

Requests go through one queue and one fetcher, so their answers come in the order in which the
requests were accepted, one for each. This is carried by `Session.Consistent`: what was accepted is
what was answered, what the fetcher is about, and what waits. Every act of a party keeps it
(`Session.Consistent.apply`), and the fetcher and the event loop alone can always bring a session to
where nothing is pending (`Session.Consistent.exists_settled`). So the console shows the last
response of each source (`Session.after_orderly`).
-/

namespace ClusterBoard.Console

open Web

/-! ## The queue of requests -/

namespace RequestQueue

/-- A request is accepted where there is a place, and else the queue stays as it is. -/
theorem push_outcomes (queue : RequestQueue) (request : FetchRequest) :
    (queue.waiting.length < capacity ∧ queue ≠ .closed ∧
      queue.push request = (.serving (queue.waiting ++ [request]), .accepted)) ∨
    (capacity ≤ queue.waiting.length ∧ queue ≠ .closed ∧ queue.push request = (queue, .full)) ∨
    queue = .closed ∧ queue.push request = (queue, .closed) := by
  cases queue with
  | closed => exact .inr (.inr ⟨rfl, rfl⟩)
  | serving waiting =>
    by_cases hroom : waiting.length < capacity
    · exact .inl ⟨hroom, RequestQueue.noConfusion, if_pos hroom⟩
    · exact .inr (.inl ⟨Nat.le_of_not_lt hroom, RequestQueue.noConfusion, if_neg hroom⟩)

variable {queue : RequestQueue} (request? : Option FetchRequest)

/-- A request that is admitted waits behind the others. -/
theorem waiting_offered :
    (queue.offered request?).waiting = queue.waiting ++ queue.admitted request? := by
  cases request? with
  | none => exact (List.append_nil _).symm
  | some request =>
    rcases queue.push_outcomes request with ⟨-, -, h⟩ | ⟨-, -, h⟩ | ⟨-, h⟩ <;>
      simp [offered, admitted, h, waiting]

theorem length_waiting_offered (hle : queue.waiting.length ≤ capacity) :
    (queue.offered request?).waiting.length ≤ capacity := by
  cases request? with
  | none => exact hle
  | some request =>
    rcases queue.push_outcomes request with ⟨hroom, -, h⟩ | ⟨-, -, h⟩ | ⟨-, h⟩
    · simpa [offered, h, waiting] using hroom
    · simpa [offered, h] using hle
    · simpa [offered, h] using hle

/-- No request closes or opens the queue. -/
theorem offered_eq_closed_iff : queue.offered request? = .closed ↔ queue = .closed := by
  cases request? with
  | none => rfl
  | some request =>
    rcases queue.push_outcomes request with ⟨-, hopen, h⟩ | ⟨-, hopen, h⟩ | ⟨hclosed, h⟩
    · simp [offered, h, hopen]
    · simp [offered, h]
    · simp [offered, h]

/-- A request that is rejected leaves the queue alone. -/
theorem push_of_rejected {request : FetchRequest} (hrej : (queue.push request).2 ≠ .accepted) :
    (queue.push request).1 = queue := by
  rcases queue.push_outcomes request with ⟨-, -, h⟩ | ⟨-, -, h⟩ | ⟨-, h⟩ <;> rw [h] at hrej ⊢
  exact absurd rfl hrej

theorem waiting_of_pop? {request : FetchRequest} {rest : RequestQueue}
    (h : queue.pop? = some (request, rest)) :
    queue.waiting = request :: rest.waiting ∧ rest ≠ .closed := by
  unfold pop? at h
  split at h
  · cases h
    exact ⟨rfl, RequestQueue.noConfusion⟩
  · cases h

theorem exists_pop? {request : FetchRequest} {requests : List FetchRequest}
    (h : queue.waiting = request :: requests) : ∃ rest, queue.pop? = some (request, rest) := by
  cases queue with
  | closed => cases h
  | serving waiting =>
    obtain rfl : waiting = request :: requests := h
    exact ⟨_, rfl⟩

end RequestQueue

/-! ## What the console asks for -/

namespace App

variable (app : App) (now : Int)

theorem requests_request (source : Source) :
    (app.request now source).requests = app.requests.offered (some ⟨source, false⟩) := by
  rcases app.requests.push_outcomes ⟨source, false⟩ with ⟨-, -, h⟩ | ⟨-, -, h⟩ | ⟨-, h⟩ <;>
    simp [request, RequestQueue.offered, h, withFailure]

/-- What the operator does makes one request at most. -/
theorem requests_handleInput (event : InputEvent) :
    (app.handleInput now event).1.requests = app.requests.offered (app.asked? event) := by
  cases event with
  | resize => rfl
  | key press =>
    show (app.handleAction now (.ofKeyPress press)).1.requests = _
    by_cases ho : app.overlay = .none
    · rw [handleAction_of_none ho]
      by_cases hr : Action.ofKeyPress press = .refresh
      · have hasked : app.asked? (.key press) = some ⟨app.currentSource, false⟩ := if_pos ⟨ho, hr⟩
        rw [hr, hasked]
        exact app.requests_request now app.currentSource
      · have hasked : app.asked? (.key press) = none := if_neg fun h => hr h.2
        rw [hasked]
        exact app.requests_act now hr
    · have hasked : app.asked? (.key press) = none := if_neg fun h => ho h.1
      rw [handleAction_of_open ho, hasked]
      split_ifs <;> rfl

end App

/-! ## What answers bring -/

namespace DataEvent

/-- What was fetched. -/
def source : DataEvent → Source
  | .jobsLoaded _ _ _ => .jobs
  | .nodesLoaded _ _ => .nodes
  | .fetchFailed source _ => source

/-- The jobs that are brought. -/
def jobs? : DataEvent → Option (Collection JobRecord)
  | .jobsLoaded jobs _ _ => some jobs
  | _ => none

/-- The nodes that are brought. -/
def nodes? : DataEvent → Option (Collection NodeRecord)
  | .nodesLoaded nodes _ => some nodes
  | _ => none

/-- The jobs that are brought last; none before any are. -/
def lastJobs (events : List DataEvent) : Collection JobRecord :=
  (events.filterMap jobs?).getLast?.getD .empty

/-- The nodes that are brought last; none before any are. -/
def lastNodes (events : List DataEvent) : Collection NodeRecord :=
  (events.filterMap nodes?).getLast?.getD .empty

end DataEvent

namespace Answer

variable (client : Client) (scope : JobScope) (answer : Answer)

/-- The jobs of a response to a request for jobs. -/
def jobs? : Option (Collection JobRecord) :=
  if answer.request.source = .jobs then (client.fetchJobs scope answer.reply).toOption else none

/-- The nodes of a response to a request for nodes. -/
def nodes? : Option (Collection NodeRecord) :=
  if answer.request.source = .nodes then (client.fetchNodes answer.reply).toOption else none

/-- What happened to a request, as the event loop hears of it. -/
theorem event_cases :
    answer.request.source = .jobs ∧ (
      (∃ jobs, client.fetchJobs scope answer.reply = .ok jobs ∧ answer.event client scope =
        .jobsLoaded jobs answer.arrived answer.request.background) ∨
      ∃ e, client.fetchJobs scope answer.reply = .error e ∧ answer.event client scope =
        .fetchFailed .jobs e) ∨
    answer.request.source = .nodes ∧ (
      (∃ nodes, client.fetchNodes answer.reply = .ok nodes ∧ answer.event client scope =
        .nodesLoaded nodes answer.arrived) ∨
      ∃ e, client.fetchNodes answer.reply = .error e ∧ answer.event client scope =
        .fetchFailed .nodes e) := by
  unfold event DataEvent.ofReply
  cases answer.request.source with
  | jobs =>
    refine .inl ⟨rfl, ?_⟩
    cases client.fetchJobs scope answer.reply with
    | ok jobs => exact .inl ⟨jobs, rfl, rfl⟩
    | error e => exact .inr ⟨e, rfl, rfl⟩
  | nodes =>
    refine .inr ⟨rfl, ?_⟩
    cases client.fetchNodes answer.reply with
    | ok nodes => exact .inl ⟨nodes, rfl, rfl⟩
    | error e => exact .inr ⟨e, rfl, rfl⟩

/-- An answer is about what was asked for, also if the fetch failed. -/
theorem source_event : (answer.event client scope).source = answer.request.source := by
  rcases answer.event_cases client scope with
    ⟨hs, ⟨_, -, he⟩ | ⟨_, -, he⟩⟩ | ⟨hs, ⟨_, -, he⟩ | ⟨_, -, he⟩⟩ <;> rw [he, hs] <;> rfl

theorem jobs?_event : (answer.event client scope).jobs? = answer.jobs? client scope := by
  unfold jobs?
  rcases answer.event_cases client scope with
    ⟨hs, ⟨_, hf, he⟩ | ⟨_, hf, he⟩⟩ | ⟨hs, ⟨_, hf, he⟩ | ⟨_, hf, he⟩⟩ <;> rw [he, hs]
  · rw [hf]
    rfl
  · rw [hf]
    rfl
  · rfl
  · rfl

theorem nodes?_event : (answer.event client scope).nodes? = answer.nodes? client := by
  unfold nodes?
  rcases answer.event_cases client scope with
    ⟨hs, ⟨_, hf, he⟩ | ⟨_, hf, he⟩⟩ | ⟨hs, ⟨_, hf, he⟩ | ⟨_, hf, he⟩⟩ <;> rw [he, hs]
  · rfl
  · rfl
  · rw [hf]
    rfl
  · rw [hf]
    rfl

/-- Jobs that come keep the user and the page exactly if they were asked for in the background. -/
theorem background_event {jobs : Collection JobRecord} {fetchedAt : Int} {background : Bool}
    (h : answer.event client scope = .jobsLoaded jobs fetchedAt background) :
    background = answer.request.background := by
  rcases answer.event_cases client scope with
    ⟨-, ⟨_, -, he⟩ | ⟨_, -, he⟩⟩ | ⟨-, ⟨_, -, he⟩ | ⟨_, -, he⟩⟩ <;> rw [he] at h
  · exact (DataEvent.jobsLoaded.inj h).2.2.symm
  · cases h
  · cases h
  · cases h

end Answer

/-! ## What every act keeps -/

/-- What the last of some items brings is what the new one brings, or what was there before. -/
theorem getLast?_filterMap_concat {α β : Type} (brings : α → Option β) (items : List α) (item : α)
    (initial : β) :
    ((items ++ [item]).filterMap brings).getLast?.getD initial =
      (brings item).getD ((items.filterMap brings).getLast?.getD initial) := by
  rw [List.filterMap_append, List.getLast?_append]
  cases h : brings item <;> simp [h]

namespace Session

/-- What was accepted is answered, served or waiting, in this order; what was sent is handled or
waiting; and the console has loaded what was handled. -/
structure Consistent (s : Session) : Prop where
  app : s.app.Consistent
  loaded_eq : s.app.loaded = (DataEvent.lastJobs s.handled, DataEvent.lastNodes s.handled)
  answered : s.sent.map Answer.request <+: s.accepted
  accepted_eq : s.fetcher.isServing → s.accepted = s.sent.map Answer.request ++ s.pending
  events_eq : s.sent.map (Answer.event s.client s.scope) = s.handled ++ s.data
  waiting_le : s.app.requests.waiting.length ≤ RequestQueue.capacity
  data_le : s.data.length ≤ Inbox.dataCapacity
  closed_iff : s.app.requests = .closed ↔ s.fetcher.isServing = false

theorem consistent_initial (settings : Settings) (warnings : List String) (client : Client)
    (scope : JobScope) : (initial settings warnings client scope).Consistent where
  app := App.consistent_initial settings warnings client scope
  loaded_eq := rfl
  answered := List.nil_prefix
  accepted_eq _ := rfl
  events_eq := rfl
  waiting_le := Nat.zero_le _
  data_le := Nat.zero_le _
  closed_iff := iff_of_false RequestQueue.noConfusion Bool.noConfusion

namespace Consistent

variable {s : Session}

/-- Asking for data only adds the request to those that wait, if it is accepted. -/
theorem asking (h : s.Consistent) (request? : Option FetchRequest) {app : App} (looping : Bool)
    (happ : app.Consistent) (hloaded : app.loaded = s.app.loaded)
    (hrequests : app.requests = s.app.requests.offered request?) :
    Consistent { s with app, looping, accepted := s.recorded request? } where
  app := happ
  loaded_eq := hloaded.trans h.loaded_eq
  answered := h.answered.trans (List.prefix_append _ _)
  accepted_eq hserving := by
    show s.accepted ++ _ = _ ++ (_ ++ app.requests.waiting)
    rw [hrequests, RequestQueue.waiting_offered, h.accepted_eq hserving, pending]
    simp only [List.append_assoc]
  events_eq := h.events_eq
  waiting_le := by
    show app.requests.waiting.length ≤ _
    rw [hrequests]
    exact RequestQueue.length_waiting_offered request? h.waiting_le
  data_le := h.data_le
  closed_iff := by
    show app.requests = _ ↔ _
    rw [hrequests, RequestQueue.offered_eq_closed_iff]
    exact h.closed_iff

theorem ask (h : s.Consistent) (now : Int) (source : Source) : (s.ask now source).Consistent := by
  unfold Session.ask
  split_ifs
  · exact h.asking (some ⟨source, false⟩) s.looping (h.app.request now source)
      (s.app.loaded_request now source) (s.app.requests_request now source)
  · exact h

theorem input (h : s.Consistent) (now : Int) (event : InputEvent) :
    (s.input now event).Consistent := by
  unfold Session.input
  split_ifs
  · exact h.asking (s.app.asked? event) _ (h.app.apply (.event now (.input event)))
      (App.loaded_apply h.app (.event now (.input event))) (s.app.requests_handleInput now event)
  · exact h

theorem tick (h : s.Consistent) (source : Source) : (s.tick source).Consistent :=
  h.asking (some ⟨source, true⟩) s.looping ⟨h.app.jobs, h.app.nodes, h.app.detail⟩ rfl rfl

theorem take (h : s.Consistent) : s.take.Consistent := by
  unfold Session.take
  split
  · rename_i request rest hidle hpop
    obtain ⟨hwaiting, hopen⟩ := RequestQueue.waiting_of_pop? hpop
    have haccepted := h.accepted_eq (by rw [hidle]; rfl)
    have hle := h.waiting_le
    rw [pending, hidle, hwaiting] at haccepted
    rw [hwaiting, List.length_cons] at hle
    exact ⟨⟨h.app.jobs, h.app.nodes, h.app.detail⟩, h.loaded_eq, h.answered, fun _ => haccepted,
      h.events_eq, Nat.le_of_succ_le hle, h.data_le, iff_of_false hopen Bool.noConfusion⟩
  · exact h

theorem reply (h : s.Consistent) (now : Int) (reply : Reply) : (s.reply now reply).Consistent := by
  unfold Session.reply
  split
  · rename_i request hfetching
    have hserving : s.fetcher.isServing = true := by rw [hfetching]; rfl
    have haccepted := h.accepted_eq hserving
    rw [pending, hfetching] at haccepted
    exact ⟨h.app, h.loaded_eq, h.answered, fun _ => haccepted, h.events_eq, h.waiting_le, h.data_le,
      h.closed_iff.trans (by rw [hfetching]; rfl)⟩
  · exact h

theorem stop (h : s.Consistent) : s.stop.Consistent where
  app := ⟨h.app.jobs, h.app.nodes, h.app.detail⟩
  loaded_eq := h.loaded_eq
  answered := h.answered
  accepted_eq hserving := by cases hserving
  events_eq := h.events_eq
  waiting_le := Nat.zero_le _
  data_le := h.data_le
  closed_iff := iff_of_true rfl rfl

theorem send (h : s.Consistent) : s.send.Consistent := by
  unfold Session.send
  split
  · rename_i answer hsending
    split_ifs with hloop hroom
    · have hserving : s.fetcher.isServing = true := by rw [hsending]; rfl
      have haccepted : s.accepted =
          (s.sent ++ [answer]).map Answer.request ++ s.app.requests.waiting := by
        rw [h.accepted_eq hserving, pending, hsending, List.map_append, List.append_assoc]
        rfl
      exact {
        app := h.app
        loaded_eq := h.loaded_eq
        answered := by
          rw [haccepted]
          exact List.prefix_append _ _
        accepted_eq := fun _ => haccepted
        events_eq := by
          rw [List.map_append, h.events_eq, List.append_assoc]
          rfl
        waiting_le := h.waiting_le
        data_le := by
          rw [List.length_append]
          exact hroom
        closed_iff := h.closed_iff.trans (by rw [hsending]; rfl) }
    · exact h
    · exact h.stop
  · exact h

theorem handle (h : s.Consistent) (now : Int) : (s.handle now).Consistent := by
  unfold Session.handle
  split
  · rename_i event data hloop hdata
    have hrequests := s.app.requests_handleData now event
    have hle := h.data_le
    rw [hdata, List.length_cons] at hle
    exact {
      app := h.app.apply (.event now (.data event))
      loaded_eq := by
        have hloaded := App.loaded_apply h.app (.event now (.data event))
        rw [(Prod.mk.inj h.loaded_eq).1, (Prod.mk.inj h.loaded_eq).2] at hloaded
        refine hloaded.trans ?_
        unfold DataEvent.lastJobs DataEvent.lastNodes
        rw [getLast?_filterMap_concat, getLast?_filterMap_concat]
        cases event <;> rfl
      answered := h.answered
      accepted_eq := fun hserving => by
        rw [pending, hrequests]
        exact h.accepted_eq hserving
      events_eq := by
        rw [h.events_eq, hdata, List.append_assoc]
        rfl
      waiting_le := by
        rw [hrequests]
        exact h.waiting_le
      data_le := Nat.le_of_succ_le hle
      closed_iff := by
        rw [hrequests]
        exact h.closed_iff }
  · exact h

theorem cancel (h : s.Consistent) : s.cancel.Consistent := by
  unfold Session.cancel
  split
  · exact h
  · exact h.stop

theorem leave (h : s.Consistent) : s.leave.Consistent :=
  ⟨h.app, h.loaded_eq, h.answered, h.accepted_eq, h.events_eq, h.waiting_le, h.data_le,
    h.closed_iff⟩

theorem apply (h : s.Consistent) (act : Act) : (s.apply act).Consistent := by
  cases act with
  | ask now source => exact h.ask now source
  | input now event => exact h.input now event
  | tick source => exact h.tick source
  | take => exact h.take
  | reply now reply => exact h.reply now reply
  | send => exact h.send
  | handle now => exact h.handle now
  | cancel => exact h.cancel
  | leave => exact h.leave

/-- Every schedule keeps a session consistent. -/
theorem after (h : s.Consistent) (acts : List Act) : (s.after acts).Consistent := by
  induction acts using List.reverseRecOn with
  | nil => exact h
  | append_singleton acts act ih =>
    rw [Session.after, List.foldl_append]
    exact ih.apply act

end Consistent

/-! ## What an act changes -/

variable (s : Session) (act : Act)

/-- The history grows, and the fetcher asks the same server for the same jobs. -/
structure Extends (s t : Session) : Prop where
  sent : s.sent <+: t.sent
  handled : s.handled <+: t.handled
  client_eq : t.client = s.client
  scope_eq : t.scope = s.scope

theorem extends_refl : s.Extends s := ⟨List.prefix_rfl, List.prefix_rfl, rfl, rfl⟩

theorem Extends.trans {s t u : Session} (h : s.Extends t) (h' : t.Extends u) : s.Extends u :=
  ⟨h.sent.trans h'.sent, h.handled.trans h'.handled, h'.client_eq.trans h.client_eq,
    h'.scope_eq.trans h.scope_eq⟩

theorem extends_apply : s.Extends (s.apply act) := by
  cases act with
  | ask now source =>
    show s.Extends (s.ask now source)
    unfold ask
    split_ifs <;> exact ⟨List.prefix_rfl, List.prefix_rfl, rfl, rfl⟩
  | input now event =>
    show s.Extends (s.input now event)
    unfold input
    split_ifs <;> exact ⟨List.prefix_rfl, List.prefix_rfl, rfl, rfl⟩
  | tick source => exact ⟨List.prefix_rfl, List.prefix_rfl, rfl, rfl⟩
  | take =>
    show s.Extends s.take
    unfold take
    split <;> exact ⟨List.prefix_rfl, List.prefix_rfl, rfl, rfl⟩
  | reply now reply =>
    show s.Extends (s.reply now reply)
    unfold Session.reply
    split <;> exact ⟨List.prefix_rfl, List.prefix_rfl, rfl, rfl⟩
  | send =>
    show s.Extends s.send
    unfold send
    split
    · split_ifs
      · exact ⟨List.prefix_append _ _, List.prefix_rfl, rfl, rfl⟩
      · exact s.extends_refl
      · exact ⟨List.prefix_rfl, List.prefix_rfl, rfl, rfl⟩
    · exact s.extends_refl
  | handle now =>
    show s.Extends (s.handle now)
    unfold handle
    split
    · exact ⟨List.prefix_rfl, List.prefix_append _ _, rfl, rfl⟩
    · exact s.extends_refl
  | cancel =>
    show s.Extends s.cancel
    unfold cancel
    split <;> exact ⟨List.prefix_rfl, List.prefix_rfl, rfl, rfl⟩
  | leave => exact ⟨List.prefix_rfl, List.prefix_rfl, rfl, rfl⟩

/-- An act that makes a request leaves the queue as the request leaves it. -/
theorem requests_apply {s : Session} {act : Act} {request : FetchRequest}
    (h : s.offer? act = some request) :
    (s.apply act).app.requests = (s.app.requests.push request).1 := by
  cases act with
  | ask now source =>
    show (s.ask now source).app.requests = _
    unfold offer? at h
    unfold ask
    split_ifs at h ⊢ with hloop
    obtain rfl := Option.some.inj h
    exact s.app.requests_request now source
  | input now event =>
    show (s.input now event).app.requests = _
    unfold offer? at h
    unfold input
    split_ifs at h ⊢ with hloop
    have hasked : s.app.asked? event = some request := h
    have hrequests := s.app.requests_handleInput now event
    rwa [hasked] at hrequests
  | tick source =>
    obtain rfl := Option.some.inj h
    rfl
  | _ => cases h

/-- What is accepted is the request that an act makes, if it finds a place. -/
theorem accepted_apply : (s.apply act).accepted = s.recorded (s.offer? act) := by
  have hnone : s.accepted = s.recorded none := (List.append_nil _).symm
  cases act with
  | ask now source =>
    show (s.ask now source).accepted = _
    unfold ask offer?
    split_ifs
    · rfl
    · exact hnone
  | input now event =>
    show (s.input now event).accepted = _
    unfold input offer?
    split_ifs
    · rfl
    · exact hnone
  | tick source => rfl
  | take =>
    show s.take.accepted = _
    unfold take
    split <;> exact hnone
  | reply now reply =>
    show (s.reply now reply).accepted = _
    unfold Session.reply
    split <;> exact hnone
  | send =>
    show s.send.accepted = _
    unfold send
    split
    · split_ifs <;> exact hnone
    · exact hnone
  | handle now =>
    show (s.handle now).accepted = _
    unfold handle
    split <;> exact hnone
  | cancel =>
    show s.cancel.accepted = _
    unfold cancel
    split <;> exact hnone
  | leave => exact hnone

/-! ## Nothing stays pending -/

/-- The acts that remain before the fetcher and then the event loop have nothing left to do. -/
def Fetcher.remaining : Fetcher → Nat
  | .fetching _ => 3
  | .sending _ => 2
  | _ => 0

/-- A bound on the acts that remain. -/
def remaining (s : Session) : Nat :=
  4 * s.app.requests.waiting.length + Fetcher.remaining s.fetcher + s.data.length

/-- The acts of the fetcher, the server and the event loop. -/
def services (now : Int) (reply : Reply) : List Act :=
  [.take, .reply now reply, .send, .handle now]

/-- Fetcher and event loop are at work. -/
structure AtWork (s : Session) : Prop where
  serving : s.fetcher.isServing = true
  looping : s.looping = true

/-- While anything remains, one of the parties gets on with it. -/
theorem exists_progress {s : Session} (h : s.AtWork) (hremaining : s.remaining ≠ 0) (now : Int)
    (reply : Reply) : ∃ act ∈ services now reply,
      (s.apply act).AtWork ∧ (s.apply act).remaining < s.remaining := by
  cases hdata : s.data with
  | cons event data =>
    refine ⟨.handle now, by simp [services], ?_⟩
    have heq : s.handle now = { s with
        app := (s.app.handleData now event).1
        data
        handled := s.handled ++ [event] } := by
      unfold handle
      rw [h.looping, hdata]
    show (s.handle now).AtWork ∧ (s.handle now).remaining < s.remaining
    rw [heq]
    refine ⟨⟨h.serving, h.looping⟩, ?_⟩
    simp only [remaining, App.requests_handleData, hdata, List.length_cons]
    omega
  | nil =>
    cases hfetcher : s.fetcher with
    | idle =>
      cases hwaiting : s.app.requests.waiting with
      | nil => simp [remaining, hdata, hfetcher, hwaiting, Fetcher.remaining] at hremaining
      | cons request requests =>
        obtain ⟨rest, hpop⟩ := RequestQueue.exists_pop? hwaiting
        obtain ⟨hrest, -⟩ := RequestQueue.waiting_of_pop? hpop
        refine ⟨.take, by simp [services], ?_⟩
        show s.take.AtWork ∧ s.take.remaining < s.remaining
        have heq : s.take = { s with
            app := { s.app with requests := rest }, fetcher := .fetching request } := by
          unfold take
          rw [hfetcher, hpop]
        rw [heq]
        refine ⟨⟨rfl, h.looping⟩, ?_⟩
        simp only [remaining, hrest, hfetcher, Fetcher.remaining, List.length_cons]
        omega
    | fetching request =>
      refine ⟨.reply now reply, by simp [services], ?_⟩
      show (s.reply now reply).AtWork ∧ (s.reply now reply).remaining < s.remaining
      have heq : s.reply now reply = { s with fetcher := .sending ⟨request, reply, now⟩ } := by
        unfold Session.reply
        rw [hfetcher]
      rw [heq]
      refine ⟨⟨rfl, h.looping⟩, ?_⟩
      simp only [remaining, hfetcher, Fetcher.remaining]
      omega
    | sending answer =>
      refine ⟨.send, by simp [services], ?_⟩
      show s.send.AtWork ∧ s.send.remaining < s.remaining
      have heq : s.send = { s with
          fetcher := .idle
          data := s.data ++ [answer.event s.client s.scope]
          sent := s.sent ++ [answer] } := by
        unfold send
        rw [hfetcher]
        show (if s.looping = true then _ else _) = _
        rw [if_pos h.looping, if_pos (by rw [hdata]; decide)]
      rw [heq]
      refine ⟨⟨rfl, h.looping⟩, ?_⟩
      simp only [remaining, hfetcher, hdata, Fetcher.remaining, List.length_append,
        List.length_cons, List.length_nil]
      omega
    | stopped =>
      have hserving := h.serving
      rw [hfetcher] at hserving
      cases hserving

/-- Fetcher and event loop alone bring a session to where nothing remains. -/
theorem exists_settled (now : Int) (reply : Reply) (n : Nat) :
    ∀ {s : Session}, s.AtWork → s.remaining ≤ n → ∃ acts, (∀ act ∈ acts, act ∈ services now reply) ∧
      (s.after acts).AtWork ∧ (s.after acts).remaining = 0 := by
  induction n with
  | zero => exact fun h hle => ⟨[], nofun, h, Nat.le_zero.mp hle⟩
  | succ n ih =>
    intro s h hle
    by_cases hzero : s.remaining = 0
    · exact ⟨[], nofun, h, hzero⟩
    · obtain ⟨act, hact, hwork, hlt⟩ := exists_progress h hzero now reply
      obtain ⟨acts, hacts, hresult⟩ := ih hwork (Nat.le_of_lt_succ (hlt.trans_le hle))
      exact ⟨act :: acts, List.forall_mem_cons.mpr ⟨hact, hacts⟩, hresult⟩

theorem offer?_eq_none_of_mem_services {s : Session} {act : Act} {now : Int} {reply : Reply}
    (h : act ∈ services now reply) : s.offer? act = none := by
  unfold services at h
  fin_cases h <;> rfl

theorem accepted_after_services {acts : List Act} {now : Int} {reply : Reply} :
    ∀ {s : Session}, (∀ act ∈ acts, act ∈ services now reply) →
      (s.after acts).accepted = s.accepted := by
  induction acts with
  | nil => exact fun _ => rfl
  | cons act acts ih =>
    intro s h
    obtain ⟨hact, hacts⟩ := List.forall_mem_cons.mp h
    show ((s.apply act).after acts).accepted = s.accepted
    rw [ih hacts, accepted_apply, offer?_eq_none_of_mem_services hact]
    exact List.append_nil _

/-- Where nothing remains, all that was accepted is answered and handled. -/
theorem Consistent.of_remaining_eq_zero {s : Session} (h : s.Consistent) (hwork : s.AtWork)
    (hzero : s.remaining = 0) : s.data = [] ∧ s.sent.map Answer.request = s.accepted := by
  unfold remaining at hzero
  have hwaiting : s.app.requests.waiting = [] := List.length_eq_zero_iff.mp (by omega)
  have hdata : s.data = [] := List.length_eq_zero_iff.mp (by omega)
  have hidle : s.fetcher.request? = none := by
    cases hfetcher : s.fetcher with
    | fetching request => simp [hfetcher, Fetcher.remaining] at hzero
    | sending answer => simp [hfetcher, Fetcher.remaining] at hzero
    | _ => rfl
  refine ⟨hdata, ?_⟩
  rw [h.accepted_eq hwork.serving, pending, hwaiting, hidle]
  exact (List.append_nil _).symm

end Session

/-! ## The theorem -/

namespace Answer

/-- The jobs of the last response that brought any. -/
def lastJobs (client : Client) (scope : JobScope) (answers : List Answer) : Collection JobRecord :=
  (answers.filterMap (jobs? client scope)).getLast?.getD .empty

/-- The nodes of the last response that brought any. -/
def lastNodes (client : Client) (answers : List Answer) : Collection NodeRecord :=
  (answers.filterMap (nodes? client)).getLast?.getD .empty

theorem lastJobs_events (client : Client) (scope : JobScope) (answers : List Answer) :
    DataEvent.lastJobs (answers.map (event client scope)) = lastJobs client scope answers := by
  unfold DataEvent.lastJobs lastJobs
  rw [List.filterMap_map]
  congr 3
  exact funext (jobs?_event client scope)

theorem lastNodes_events (client : Client) (scope : JobScope) (answers : List Answer) :
    DataEvent.lastNodes (answers.map (event client scope)) = lastNodes client answers := by
  unfold DataEvent.lastNodes lastNodes
  rw [List.filterMap_map]
  congr 3
  exact funext (nodes?_event client scope)

end Answer

namespace Session

/-- Fetching goes in order: the data that are sent answer the accepted requests, and the console
shows the last response of each source. -/
structure Orderly (client : Client) (scope : JobScope) (s : Session) : Prop where
  /-- While the fetcher serves, what was accepted is answered, once each, or pending, in order. -/
  accepted_eq : s.fetcher.isServing → s.accepted = s.sent.map Answer.request ++ s.pending
  /-- Also after it stopped, what was answered was accepted first. -/
  answered : s.sent.map Answer.request <+: s.accepted
  /-- The data that were sent are handled or wait, in order. -/
  events_eq : s.sent.map (Answer.event client scope) = s.handled ++ s.data
  source_eq : ∀ answer ∈ s.sent, (answer.event client scope).source = answer.request.source
  background_eq : ∀ answer ∈ s.sent, ∀ jobs fetchedAt background,
    answer.event client scope = .jobsLoaded jobs fetchedAt background →
      background = answer.request.background
  waiting_le : s.app.requests.waiting.length ≤ 4
  /-- A request is accepted behind the others or leaves the queue alone. -/
  offered : ∀ act request, s.offer? act = some request →
    ((s.app.requests.push request).2 = .accepted ∧
      (s.apply act).app.requests.waiting = s.app.requests.waiting ++ [request] ∧
      (s.apply act).accepted = s.accepted ++ [request]) ∨
    ((s.app.requests.push request).2 ≠ .accepted ∧
      (s.apply act).app.requests = s.app.requests ∧ (s.apply act).accepted = s.accepted)
  /-- What was sent and handled stays so. -/
  extends_apply : ∀ act, s.Extends (s.apply act)
  /-- The console shows what the answers brought whose data it handled, which are the first. -/
  shown : s.app.Sound (Answer.lastJobs client scope (s.sent.take s.handled.length))
    (Answer.lastNodes client (s.sent.take s.handled.length))
  /-- When all data are handled it shows the last response of each source. -/
  shown_last : s.data = [] →
    s.app.Sound (Answer.lastJobs client scope s.sent) (Answer.lastNodes client s.sent)
  /-- Whatever the server replies, fetcher and event loop can get through all that was accepted. -/
  settles : s.AtWork → ∀ now reply, ∃ acts, (∀ act ∈ acts, act ∈ services now reply) ∧
    (s.after acts).data = [] ∧ (s.after acts).sent.map Answer.request = s.accepted

theorem offered {s : Session} {act : Act} {request : FetchRequest}
    (hoffer : s.offer? act = some request) :
    ((s.app.requests.push request).2 = .accepted ∧
      (s.apply act).app.requests.waiting = s.app.requests.waiting ++ [request] ∧
      (s.apply act).accepted = s.accepted ++ [request]) ∨
    ((s.app.requests.push request).2 ≠ .accepted ∧
      (s.apply act).app.requests = s.app.requests ∧ (s.apply act).accepted = s.accepted) := by
  have hrequests := requests_apply hoffer
  have haccepted := s.accepted_apply act
  rw [hoffer] at haccepted
  unfold recorded RequestQueue.admitted at haccepted
  have hwaiting := s.app.requests.waiting_offered (some request)
  unfold RequestQueue.offered RequestQueue.admitted at hwaiting
  by_cases hacc : (s.app.requests.push request).2 = .accepted
  · simp only [hacc, if_true] at haccepted hwaiting
    exact .inl ⟨hacc, by rw [hrequests, hwaiting], haccepted⟩
  · simp only [hacc, if_false, List.append_nil] at haccepted
    exact .inr ⟨hacc, hrequests.trans (RequestQueue.push_of_rejected hacc), haccepted⟩

/-- The answers whose data were handled are the first that were sent. -/
theorem Consistent.handled_eq {s : Session} (h : s.Consistent) :
    s.handled = (s.sent.take s.handled.length).map (Answer.event s.client s.scope) := by
  rw [List.map_take, h.events_eq, List.take_left]

theorem Consistent.shown {s : Session} (h : s.Consistent) :
    s.app.Sound (Answer.lastJobs s.client s.scope (s.sent.take s.handled.length))
      (Answer.lastNodes s.client (s.sent.take s.handled.length)) := by
  obtain ⟨hjobs, hnodes⟩ := Prod.mk.inj h.loaded_eq
  rw [← Answer.lastJobs_events, ← Answer.lastNodes_events s.client s.scope, ← h.handled_eq,
    ← hjobs, ← hnodes]
  exact h.app.sound

theorem Consistent.orderly {s : Session} (h : s.Consistent) : s.Orderly s.client s.scope where
  accepted_eq := h.accepted_eq
  answered := h.answered
  events_eq := h.events_eq
  source_eq answer _ := answer.source_event s.client s.scope
  background_eq answer _ _ _ _ he := answer.background_event s.client s.scope he
  waiting_le := h.waiting_le
  offered _ _ hoffer := offered hoffer
  extends_apply := s.extends_apply
  shown := h.shown
  shown_last hdata := by
    have hlength : s.handled.length = s.sent.length := by
      have hevents := congrArg List.length h.events_eq
      rw [hdata, List.append_nil, List.length_map] at hevents
      exact hevents.symm
    have hshown := h.shown
    rwa [hlength, List.take_length] at hshown
  settles hwork now reply := by
    obtain ⟨acts, hacts, hwork', hzero⟩ := exists_settled now reply s.remaining hwork le_rfl
    obtain ⟨hdata, hanswered⟩ := (h.after acts).of_remaining_eq_zero hwork' hzero
    exact ⟨acts, hacts, hdata, hanswered.trans (accepted_after_services hacts)⟩

theorem extends_after (s : Session) (acts : List Act) : s.Extends (s.after acts) := by
  induction acts using List.reverseRecOn with
  | nil => exact s.extends_refl
  | append_singleton acts act ih =>
    rw [after, List.foldl_append]
    exact ih.trans (extends_apply _ act)

/-- **Data come in the order in which they were asked for.** Whatever the operator, the timers, the
fetcher and the server do, and in whatever order. -/
theorem after_orderly (settings : Settings) (warnings : List String) (client : Client)
    (scope : JobScope) (acts : List Act) :
    ((initial settings warnings client scope).after acts).Orderly client scope := by
  have h := ((consistent_initial settings warnings client scope).after acts).orderly
  have hextends := (initial settings warnings client scope).extends_after acts
  rwa [hextends.client_eq, hextends.scope_eq] at h

end Session

end ClusterBoard.Console
