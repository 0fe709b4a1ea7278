import Mathlib
import ClusterBoard.Proofs.Console.Fetching

/-!
# Requests that find no place

A request is dropped while four others wait. They are the last four that were accepted, so data of
the same source are asked for already exactly if one of the four was for it
(`Session.dropped_pending_iff`). Four requests for the jobs may leave none for the nodes
(`Session.dropped_not_pending`).
-/

namespace ClusterBoard.Console.Session

open Web

/-- The last requests that were accepted, as many as the queue has places. -/
def latest (s : Session) : List FetchRequest :=
  s.accepted.drop (s.accepted.length - RequestQueue.capacity)

variable {s : Session}

/-- What waits was accepted last. -/
theorem Consistent.waiting_suffix (h : s.Consistent) : s.app.requests.waiting <:+ s.accepted := by
  cases hserving : s.fetcher.isServing with
  | true =>
    rw [h.accepted_eq hserving, pending, ← List.append_assoc]
    exact List.suffix_append _ _
  | false =>
    rw [h.closed_iff.mpr hserving]
    exact List.nil_suffix

/-- A request finds no place exactly while four wait. -/
theorem Consistent.length_of_full (h : s.Consistent) {request : FetchRequest}
    (hfull : (s.app.requests.push request).2 = .full) :
    s.app.requests.waiting.length = RequestQueue.capacity := by
  rcases s.app.requests.push_outcomes request with ⟨-, -, heq⟩ | ⟨hle, -, -⟩ | ⟨-, heq⟩
  · rw [heq] at hfull
    cases hfull
  · exact Nat.le_antisymm h.waiting_le hle
  · rw [heq] at hfull
    cases hfull

/-- A full queue holds the last requests that were accepted. -/
theorem Consistent.waiting_eq_latest (h : s.Consistent)
    (hlength : s.app.requests.waiting.length = RequestQueue.capacity) :
    s.app.requests.waiting = s.latest := by
  have hdrop := List.suffix_iff_eq_drop.mp h.waiting_suffix
  rwa [hlength] at hdrop

/-- **What a full queue drops.** Data for a request that finds no place are asked for already
exactly if one of the last four accepted requests was for the same source. -/
theorem dropped_pending_iff (settings : Settings) (warnings : List String) (client : Client)
    (scope : JobScope) (acts : List Act) (act : Act) (request : FetchRequest)
    (hoffer : ((initial settings warnings client scope).after acts).offer? act = some request)
    (hfull : (((initial settings warnings client scope).after acts).app.requests.push request).2 =
      .full) :
    let s := (initial settings warnings client scope).after acts
    s.app.requests.waiting = s.latest ∧ s.latest.length = 4 ∧
      (s.apply act).app.requests = s.app.requests ∧
      ((∃ pending ∈ s.app.requests.waiting, pending.source = request.source) ↔
        ∃ accepted ∈ s.latest, accepted.source = request.source) := by
  intro s
  have h : s.Consistent := (consistent_initial settings warnings client scope).after acts
  have hlength := h.length_of_full hfull
  have hlatest := h.waiting_eq_latest hlength
  have hrejected : (s.app.requests.push request).2 ≠ .accepted := by
    rw [hfull]
    exact Admission.noConfusion
  refine ⟨hlatest, hlatest ▸ hlength, ?_, by rw [hlatest]⟩
  rw [requests_apply hoffer, RequestQueue.push_of_rejected hrejected]

/-- A session in which nobody serves the queue yet. -/
def waiting : Session := initial .standard [] default .active

/-- A key without modifiers. -/
def press (c : Char) : Act := .input 0 (.key ⟨.char c, false, false, false⟩)

/-- Where both timers went off in turns, a further tick is asked for already. -/
theorem dropped_pending_iff_turns :
    let acts := [.tick .jobs, .tick .nodes, .tick .jobs, .tick .nodes]
    (waiting.after acts).offer? (.tick .nodes) = some ⟨.nodes, true⟩ ∧
      ((waiting.after acts).app.requests.push ⟨.nodes, true⟩).2 = .full ∧
      ∃ pending ∈ (waiting.after acts).app.requests.waiting, pending.source = .nodes := by
  intro acts
  have hoffer : (waiting.after acts).offer? (.tick .nodes) = some ⟨.nodes, true⟩ := rfl
  have hfull : ((waiting.after acts).app.requests.push ⟨.nodes, true⟩).2 = .full := rfl
  refine ⟨hoffer, hfull, ?_⟩
  obtain ⟨-, -, -, hiff⟩ := dropped_pending_iff .standard [] default .active acts (.tick .nodes)
    ⟨.nodes, true⟩ hoffer hfull
  exact hiff.mpr ⟨⟨.nodes, true⟩, by decide, rfl⟩

/-- Four requests for the jobs, by key or by timer, leave no place for one for the nodes, and none
for the nodes is pending. -/
theorem dropped_not_pending :
    let keys := waiting.after [press 'r', press 'r', press 'r', press 'r', press '2']
    let ticks := waiting.after (List.replicate 4 (.tick .jobs))
    (keys.offer? (press 'r') = some ⟨.nodes, false⟩ ∧
      (keys.app.requests.push ⟨.nodes, false⟩).2 = .full ∧
      ∀ pending ∈ keys.pending, pending.source ≠ .nodes) ∧
    ticks.offer? (.tick .nodes) = some ⟨.nodes, true⟩ ∧
      (ticks.app.requests.push ⟨.nodes, true⟩).2 = .full ∧
      ∀ pending ∈ ticks.pending, pending.source ≠ .nodes := by
  decide +kernel

end ClusterBoard.Console.Session
