import Mathlib
import ClusterBoard.Console.Turns
import ClusterBoard.Proofs.Console.Frame

/-!
# Invariants of the event loop

`Loop.Step` says once what a move can make of the event loop. From it four invariants follow, each
carried along a run by `Loop.invariant`: no event is lost, doubled or overtaken in its queue
(`Loop.Queued`); what the loop does is told by the events that it takes (`Loop.Scripted`); only the
last drawing can have failed (`Loop.Counted`); and a console that runs goes on until an event calls
for the end or nothing is left to do (`Loop.Ended`).
-/

namespace ClusterBoard.Console

/-- The state after some events. -/
def App.afterEvents (app : App) (events : List (Int × Event)) : App :=
  events.foldl (fun app event => (app.handle event.1 event.2).1) app

/-! ## Queues -/

namespace Inbox

theorem append_empty (inbox : Inbox) : inbox.append empty = inbox := by
  simp [append, empty]

theorem append_assoc (a b c : Inbox) : (a.append b).append c = a.append (b.append c) := by
  simp [append]

theorem join_concat (batches : List Inbox) (batch : Inbox) :
    join (batches ++ [batch]) = (join batches).append batch := by
  induction batches with
  | nil => exact batch.append_empty
  | cons head batches ih =>
    show head.append (join (batches ++ [batch])) = _
    rw [ih, ← append_assoc]
    rfl

/-- All that waits, in the order in which it is taken if nothing else arrives. -/
theorem order_nil (inbox : Inbox) :
    inbox.order [] = inbox.input.map .input ++ inbox.data.map .data := by
  unfold order
  rfl

variable {inbox rest : Inbox} {event : Event}

theorem eq_empty_of_next? (h : inbox.next? = none) : inbox = empty := by
  unfold next? at h
  split at h
  · cases h
  · cases h
  · rfl

theorem eq_append_of_next? (h : inbox.next? = some (event, rest)) :
    inbox = (ofEvent event).append rest := by
  unfold next? at h
  split at h
  · cases h
    rfl
  · cases h
    rfl
  · cases h

/-- Data go first only where no input waits. -/
theorem input_of_next? {fetched : DataEvent} (h : inbox.next? = some (.data fetched, rest)) :
    inbox.input = [] := by
  unfold next? at h
  split at h
  · cases h
  · rfl
  · cases h

theorem order_nil_of_next? (h : inbox.next? = some (event, rest)) :
    inbox.order [] = event :: rest.order [] := by
  unfold next? at h
  split at h
  · cases h
    rfl
  · cases h
    rfl
  · cases h

theorem length_append (a b : Inbox) : (a.append b).length = a.length + b.length := by
  simp only [length, append, List.length_append]
  omega

theorem length_of_next? (h : inbox.next? = some (event, rest)) :
    inbox.length = rest.length + 1 := by
  rw [eq_append_of_next? h, length_append, Nat.add_comm]
  cases event <;> rfl

/-- The order in which events are taken from a look on, if batches arrive before the later looks. -/
def upcoming (inbox : Inbox) (schedule : List Inbox) : List Event :=
  match inbox.next? with
  | some (event, rest) => event :: rest.order schedule
  | none => empty.order schedule

theorem upcoming_nil (inbox : Inbox) : inbox.upcoming [] = inbox.order [] := by
  unfold upcoming
  cases hnext : inbox.next? with
  | none => rw [eq_empty_of_next? hnext]
  | some found => exact (order_nil_of_next? hnext).symm

end Inbox

/-! ## Journals -/

variable {journal : List Entry} {entry : Entry}

theorem arrivals_concat (journal : List Entry) (entry : Entry) :
    arrivals (journal ++ [entry]) = (arrivals journal).append entry.arrival := by
  unfold arrivals
  rw [List.map_append]
  exact Inbox.join_concat _ _

theorem takings_concat (journal : List Entry) (entry : Entry) :
    takings (journal ++ [entry]) = (takings journal).append entry.taking := by
  unfold takings
  rw [List.map_append]
  exact Inbox.join_concat _ _

theorem Entry.isQuit_iff : entry.isQuit = true ↔ ∃ now event, entry = .took now event .quit := by
  constructor
  · intro h
    unfold isQuit at h
    split at h
    · exact ⟨_, _, rfl⟩
    · cases h
  · rintro ⟨now, event, rfl⟩
    rfl

/-- Each entry is in a relation to those before it. -/
def Everywhere (holds : List Entry → Entry → Prop) (journal : List Entry) : Prop :=
  ∀ before entry after, journal = before ++ entry :: after → holds before entry

theorem everywhere_nil (holds : List Entry → Entry → Prop) : Everywhere holds [] :=
  fun before _ _ h => by cases before <;> cases h

theorem Everywhere.concat {holds : List Entry → Entry → Prop} (h : Everywhere holds journal)
    (hlast : holds journal entry) : Everywhere holds (journal ++ [entry]) := by
  intro before found after heq
  -- The cut is at the new entry or inside the old journal.
  rcases List.eq_nil_or_concat after with rfl | ⟨after, last, rfl⟩
  · obtain ⟨rfl, hfound⟩ := List.append_inj' heq rfl
    cases hfound
    exact hlast
  · rw [List.concat_eq_append, ← List.cons_append, ← List.append_assoc] at heq
    obtain ⟨hjournal, -⟩ := List.append_inj' heq rfl
    exact h before found after hjournal

/-- What the loop does about events: it handles each one on the state that the others left, and
draws right after those that call for it. -/
def script : App → List (Int × Event) → List Entry
  | _, [] => []
  | app, (now, event) :: events =>
    let (next, effect) := app.handle now event
    .took now event effect :: (if effect = .redraw then [.drew next] else []) ++ script next events

theorem script_concat (events : List (Int × Event)) (now : Int) (event : Event) : ∀ app : App,
    script app (events ++ [(now, event)]) =
      script app events ++ script (app.afterEvents events) [(now, event)] := by
  induction events with
  | nil => exact fun _ => rfl
  | cons head events ih =>
    intro app
    simp only [List.cons_append, script, ih, List.append_assoc]
    rfl

namespace Loop

variable {fails : Nat → Option String} {first : App} {l next : Loop}

/-! ## What one move does -/

/-- Which queues are open. -/
def doors (l : Loop) : Bool × Bool := (l.inputOpen, l.dataOpen)

/-- A look takes the event that goes first, or waits, or ends the loop. -/
theorem look_cases (hn : l.needsDraw = false) (hr : l.app.running = true) (now : Int) :
    (∃ event rest, l.inbox.next? = some (event, rest) ∧ l.look now = l.take now event rest) ∨
    (l.inbox = .empty ∧ l.doors ≠ (false, false) ∧ l.look now = l) ∨
    l.inbox = .empty ∧ l.doors = (false, false) ∧
      l.look now = { l with ending := some .drained } := by
  unfold look
  rw [hn, if_neg Bool.false_ne_true, if_pos hr]
  cases hnext : l.inbox.next? with
  | some found => exact .inl ⟨found.1, found.2, rfl, rfl⟩
  | none =>
    have hempty := Inbox.eq_empty_of_next? hnext
    dsimp only
    by_cases hopen : (l.inputOpen || l.dataOpen) = true
    · refine .inr (.inl ⟨hempty, fun hdoors => ?_, if_pos hopen⟩)
      obtain ⟨hi, hd⟩ := Prod.mk.inj hdoors
      rw [hi, hd] at hopen
      cases hopen
    · obtain ⟨hi, hd⟩ := Bool.or_eq_false_iff.mp (Bool.eq_false_of_not_eq_true hopen)
      exact .inr (.inr ⟨hempty, Prod.ext hi hd, if_neg hopen⟩)

/-! What a move adds to the journal. -/

section Journal

variable (batch rest : Inbox) (now : Int) (event : Event)

@[simp] theorem taken_arrive : (l.arrive batch).taken = l.taken := by
  simp [taken, arrive, Entry.event?]

@[simp] theorem taken_drawNow : (l.drawNow fails).taken = l.taken := by
  simp [taken, drawNow, Entry.event?]

@[simp] theorem taken_take : (l.take now event rest).taken = l.taken ++ [(now, event)] := by
  simp [taken, take, Entry.event?]

@[simp] theorem draws_arrive : (l.arrive batch).draws = l.draws := by
  simp [draws, arrive, Entry.drawing?]

@[simp] theorem draws_drawNow : (l.drawNow fails).draws = l.draws ++ [l.app] := by
  simp [draws, drawNow, Entry.drawing?]

@[simp] theorem draws_take : (l.take now event rest).draws = l.draws := by
  simp [draws, take, Entry.drawing?]

@[simp] theorem deeds_arrive : (l.arrive batch).deeds = l.deeds := by
  simp [deeds, arrive, Entry.isDeed]

@[simp] theorem deeds_drawNow : (l.drawNow fails).deeds = l.deeds ++ [.drew l.app] := by
  simp [deeds, drawNow, Entry.isDeed]

@[simp] theorem deeds_take : (l.take now event rest).deeds =
    l.deeds ++ [.took now event (l.app.handle now event).2] := by
  simp [deeds, take, Entry.isDeed]

end Journal

/-- What a move can make of a loop that has not ended. -/
inductive Step (fails : Nat → Option String) (l : Loop) : Loop → Prop
  | idle : Step fails l l
  | arrive (batch : Inbox) : Step fails l (l.arrive batch)
  | close (inputOpen dataOpen : Bool) (hi : l.inputOpen = false → inputOpen = false)
      (hd : l.dataOpen = false → dataOpen = false) :
      Step fails l { l with inputOpen, dataOpen }
  | draw (h : l.needsDraw = true) : Step fails l (l.drawNow fails)
  | take (hn : l.needsDraw = false) (now : Int) (event : Event) (rest : Inbox)
      (h : l.inbox.next? = some (event, rest)) : Step fails l (l.take now event rest)
  | stop (hn : l.needsDraw = false) (h : l.app.running = false) :
      Step fails l { l with ending := some .stopped }
  | drain (hn : l.needsDraw = false) (h : l.inbox = .empty) (hi : l.inputOpen = false)
      (hd : l.dataOpen = false) : Step fails l { l with ending := some .drained }

theorem step_look (now : Int) : Step fails l (l.look now) := by
  by_cases hn : l.needsDraw = true
  · rw [show l.look now = l from if_pos hn]
    exact .idle
  have hn := Bool.eq_false_of_not_eq_true hn
  by_cases hr : l.app.running = true
  · rcases look_cases hn hr now with
      ⟨event, rest, hnext, heq⟩ | ⟨-, -, heq⟩ | ⟨hempty, hdoors, heq⟩
    · rw [heq]
      exact .take hn now event rest hnext
    · rw [heq]
      exact .idle
    · rw [heq]
      obtain ⟨hi, hd⟩ := Prod.mk.inj hdoors
      exact .drain hn hempty hi hd
  · have hr := Bool.eq_false_of_not_eq_true hr
    have heq : l.look now = { l with ending := some .stopped } := by
      unfold look
      rw [hn, hr]
      rfl
    rw [heq]
    exact .stop hn hr

theorem apply_of_unended (h : l.ending = none) (move : Move) :
    l.apply fails move = l.perform fails move := if_pos h

theorem apply_of_ended (h : l.ending ≠ none) (move : Move) : l.apply fails move = l := if_neg h

/-- Every move is a step. -/
theorem step_apply (h : l.ending = none) (move : Move) : Step fails l (l.apply fails move) := by
  rw [apply_of_unended h]
  cases move with
  | arrive batch => exact .arrive batch
  | closeInput => exact .close false l.dataOpen (fun _ => rfl) id
  | closeData => exact .close l.inputOpen false id fun _ => rfl
  | draw =>
    show Step fails l (l.draw fails)
    unfold Loop.draw
    split_ifs with hn
    · exact .draw hn
    · exact .idle
  | look now => exact step_look now

theorem after_append (l : Loop) (moves more : List Move) :
    l.after fails (moves ++ more) = (l.after fails moves).after fails more :=
  List.foldl_append

/-- After its end nothing happens. -/
theorem after_of_ended (h : l.ending ≠ none) (moves : List Move) : l.after fails moves = l := by
  induction moves with
  | nil => rfl
  | cons move moves ih =>
    show (l.apply fails move).after fails moves = l
    rw [apply_of_ended h, ih]

/-- What every step keeps holds along a run. -/
theorem invariant (holds : Loop → Prop)
    (hstep : ∀ {l next : Loop}, l.ending = none → holds l → Step fails l next → holds next)
    (h : holds l) (moves : List Move) : holds (l.after fails moves) := by
  induction moves using List.reverseRecOn with
  | nil => exact h
  | append_singleton moves move ih =>
    rw [after_append]
    by_cases he : (l.after fails moves).ending = none
    · exact hstep he ih (step_apply he move)
    · rw [after_of_ended he]
      exact ih

/-! ## Events are taken in order -/

/-- In each queue the events that were handled, and then those that wait, are those that arrived;
and data were handled only where all input was. -/
structure Queued (l : Loop) : Prop where
  queues_eq : arrivals l.journal = (takings l.journal).append l.inbox
  input_first : Everywhere (fun before entry => ∀ now fetched effect,
    entry = .took now (.data fetched) effect →
      (arrivals before).input = (takings before).input) l.journal

theorem queued_start (app : App) : (start app).Queued := ⟨rfl, everywhere_nil _⟩

theorem Queued.step (h : l.Queued) (hs : Step fails l next) : next.Queued := by
  cases hs with
  | idle => exact h
  | close | stop | drain => exact ⟨h.queues_eq, h.input_first⟩
  | arrive batch =>
    refine ⟨?_, h.input_first.concat nofun⟩
    show arrivals (l.journal ++ [.arrived (l.admitted batch)]) =
      (takings (l.journal ++ [.arrived (l.admitted batch)])).append
        (l.inbox.append (l.admitted batch))
    rw [arrivals_concat, takings_concat, h.queues_eq, Inbox.append_assoc]
    show _ = ((takings l.journal).append .empty).append _
    rw [Inbox.append_empty]
    rfl
  | draw =>
    refine ⟨?_, h.input_first.concat nofun⟩
    show arrivals (l.journal ++ [.drew l.app]) =
      (takings (l.journal ++ [.drew l.app])).append l.inbox
    rw [arrivals_concat, takings_concat, h.queues_eq]
    show Inbox.append _ .empty = Inbox.append (Inbox.append _ .empty) _
    rw [Inbox.append_empty, Inbox.append_empty]
  | take hn now event rest hnext =>
    refine ⟨?_, h.input_first.concat fun _ fetched _ heq => ?_⟩
    · show arrivals (l.journal ++ [.took now event (l.app.handle now event).2]) =
        (takings (l.journal ++ [.took now event (l.app.handle now event).2])).append rest
      rw [arrivals_concat, takings_concat, h.queues_eq, Inbox.eq_append_of_next? hnext]
      show Inbox.append _ .empty = Inbox.append (Inbox.append _ (.ofEvent event)) rest
      rw [Inbox.append_empty, Inbox.append_assoc]
    · obtain ⟨-, rfl, -⟩ := Entry.took.inj heq
      rw [h.queues_eq]
      show (takings l.journal).input ++ l.inbox.input = (takings l.journal).input
      rw [Inbox.input_of_next? hnext, List.append_nil]

/-! ## What the loop does -/

/-- The drawing that is owed. -/
def owed (l : Loop) : List Entry := if l.needsDraw then [.drew l.app] else []

/-- The loop does what the events that it took tell. -/
structure Scripted (first : App) (l : Loop) : Prop where
  app_eq : l.app = first.afterEvents l.taken
  deeds_eq : l.deeds ++ l.owed = .drew first :: script first l.taken

theorem scripted_start (app : App) : (start app).Scripted app := ⟨rfl, rfl⟩

theorem owed_take (now : Int) (event : Event) (rest : Inbox) :
    Entry.took now event (l.app.handle now event).2 :: (l.take now event rest).owed =
      script l.app [(now, event)] := by
  unfold owed script
  simp [Loop.take, script]

theorem Scripted.step (h : l.Scripted first) (hs : Step fails l next) : next.Scripted first := by
  cases hs with
  | idle => exact h
  | close | stop | drain => exact ⟨h.app_eq, h.deeds_eq⟩
  | arrive batch =>
    refine ⟨?_, ?_⟩
    · rw [taken_arrive]
      exact h.app_eq
    · rw [taken_arrive, deeds_arrive]
      exact h.deeds_eq
  | draw hn =>
    have hbefore := h.deeds_eq
    rw [owed, if_pos hn] at hbefore
    refine ⟨?_, ?_⟩
    · rw [taken_drawNow]
      exact h.app_eq
    · rw [taken_drawNow, deeds_drawNow]
      exact (List.append_nil _).trans hbefore
  | take hn now event rest hnext =>
    -- Nothing is owed before a look, so what the earlier events tell is done.
    have hbefore := h.deeds_eq
    rw [owed, hn, if_neg Bool.false_ne_true, List.append_nil] at hbefore
    refine ⟨?_, ?_⟩
    · rw [taken_take]
      unfold App.afterEvents
      rw [List.foldl_append]
      show (l.app.handle now event).1 = ((first.afterEvents l.taken).handle now event).1
      rw [← h.app_eq]
    · rw [taken_take, deeds_take, script_concat, ← h.app_eq, hbefore, List.append_assoc]
      exact congrArg _ (owed_take now event rest)

/-! ## Drawings -/

/-- Only the last drawing can have failed, and then the loop has ended with its reason. -/
structure Counted (fails : Nat → Option String) (l : Loop) : Prop where
  drawn_eq : l.draws.length = l.drawn
  succeeded : ∀ n, n + 1 < l.drawn → fails n = none
  failed_iff : ∀ reason,
    l.ending = some (.failed reason) ↔ ∃ n, l.drawn = n + 1 ∧ fails n = some reason

theorem counted_start (app : App) : (start app).Counted fails where
  drawn_eq := rfl
  succeeded := nofun
  failed_iff _ := ⟨nofun, nofun⟩

/-- Before the end all drawings succeeded. -/
theorem Counted.all_succeeded (h : l.Counted fails) (he : l.ending = none) {n : Nat}
    (hn : n < l.drawn) : fails n = none := by
  rcases Nat.lt_or_eq_of_le hn with hlt | heq
  · exact h.succeeded n hlt
  · refine Option.eq_none_iff_forall_ne_some.mpr fun reason hreason => ?_
    have hfailed := (h.failed_iff reason).mpr ⟨n, heq.symm, hreason⟩
    rw [he] at hfailed
    cases hfailed

/-- Where the drawings stay the same, no step fails. -/
theorem Counted.of_ending (h : l.Counted fails) (he : l.ending = none)
    (hdraws : next.draws = l.draws) (hdrawn : next.drawn = l.drawn)
    (hending : ∀ reason, next.ending ≠ some (.failed reason)) : next.Counted fails where
  drawn_eq := by rw [hdraws, hdrawn, h.drawn_eq]
  succeeded := by
    rw [hdrawn]
    exact h.succeeded
  failed_iff reason := by
    refine ⟨fun hfailed => absurd hfailed (hending reason), ?_⟩
    rintro ⟨n, hn, hreason⟩
    rw [hdrawn] at hn
    rw [h.all_succeeded he (by omega)] at hreason
    cases hreason

theorem Counted.step (h : l.Counted fails) (he : l.ending = none) (hs : Step fails l next) :
    next.Counted fails := by
  cases hs with
  | idle => exact h
  | close => exact h.of_ending he rfl rfl (by simp [he])
  | stop | drain => exact h.of_ending he rfl rfl (by simp)
  | arrive batch => exact h.of_ending he (l.draws_arrive batch) rfl (by simp [Loop.arrive, he])
  | take hn now event rest hnext =>
    refine h.of_ending he (l.draws_take rest now event) rfl fun reason => ?_
    show (if (l.app.handle now event).2 = .quit then some Ending.quit else none) ≠ _
    split_ifs <;> simp
  | draw hn =>
    refine ⟨?_, fun n hlt => h.all_succeeded he (Nat.lt_of_succ_lt_succ hlt), fun reason => ?_⟩
    · rw [draws_drawNow, List.length_append, h.drawn_eq]
      rfl
    · simp [drawNow]

/-! ## Why the loop ends -/

/-- The loop ends with an event that calls for it or where all is done, if its drawings succeed. -/
structure Ended (l : Loop) : Prop where
  running : l.ending = none → l.app.running = true
  settled : l.ending ≠ none → l.needsDraw = false
  quit_iff : l.ending = some .quit ↔ ∃ entry ∈ l.journal, entry.isQuit = true
  quit_last : Everywhere (fun before _ => ∀ entry ∈ before, entry.isQuit = false) l.journal
  drained : l.ending = some .drained →
    l.inputOpen = false ∧ l.dataOpen = false ∧ l.inbox = .empty
  not_stopped : l.ending ≠ some .stopped

theorem ended_start (hrunning : first.running = true) : (start first).Ended where
  running _ := hrunning
  settled h := absurd rfl h
  quit_iff := ⟨nofun, fun ⟨_, h, _⟩ => absurd h List.not_mem_nil⟩
  quit_last := everywhere_nil _
  drained := nofun
  not_stopped := nofun

namespace Ended

/-- Before the end no event called for it. -/
theorem no_quit (h : l.Ended) (he : l.ending = none) :
    ∀ entry ∈ l.journal, entry.isQuit = false := by
  intro entry hentry
  refine Bool.eq_false_of_not_eq_true fun hquit => ?_
  have hending := h.quit_iff.mpr ⟨entry, hentry, hquit⟩
  rw [he] at hending
  cases hending

theorem quit_concat_iff (h : l.Ended) (he : l.ending = none) (entry : Entry) :
    (∃ found ∈ l.journal ++ [entry], found.isQuit = true) ↔ entry.isQuit = true := by
  constructor
  · rintro ⟨found, hfound, hquit⟩
    rcases List.mem_append.mp hfound with hmem | hmem
    · rw [h.no_quit he found hmem] at hquit
      cases hquit
    · rwa [List.mem_singleton.mp hmem] at hquit
  · exact fun hquit => ⟨entry, List.mem_append_right _ (List.mem_singleton_self entry), hquit⟩

theorem step (h : l.Ended) (he : l.ending = none) (hs : Step fails l next) : next.Ended := by
  cases hs with
  | idle => exact h
  | close =>
    exact ⟨h.running, h.settled, h.quit_iff, h.quit_last, by simp [he], h.not_stopped⟩
  | arrive batch =>
    exact {
      running := h.running
      settled := h.settled
      quit_iff := iff_of_false (by simp [Loop.arrive, he])
        (mt (h.quit_concat_iff he _).mp Bool.false_ne_true)
      quit_last := h.quit_last.concat (h.no_quit he)
      drained := by simp [Loop.arrive, he]
      not_stopped := h.not_stopped }
  | draw hn =>
    exact {
      running := fun _ => h.running he
      settled := fun _ => rfl
      quit_iff := iff_of_false (by simp [drawNow])
        (mt (h.quit_concat_iff he _).mp Bool.false_ne_true)
      quit_last := h.quit_last.concat (h.no_quit he)
      drained := by simp [drawNow]
      not_stopped := by simp [drawNow] }
  | stop hn hr =>
    rw [h.running he] at hr
    cases hr
  | drain hn hempty hi hd =>
    refine ⟨nofun, fun _ => hn, iff_of_false nofun ?_, h.quit_last, fun _ => ⟨hi, hd, hempty⟩,
      nofun⟩
    rintro ⟨entry, hentry, hquit⟩
    rw [h.no_quit he entry hentry] at hquit
    cases hquit
  | take hn now event rest hnext =>
    have hlast : Everywhere (fun before _ => ∀ entry ∈ before, entry.isQuit = false)
        (l.take now event rest).journal := h.quit_last.concat (h.no_quit he)
    have hconcat := h.quit_concat_iff he (.took now event (l.app.handle now event).2)
    -- Either the loop ends with the event, or the console goes on running.
    by_cases hquit : (l.app.handle now event).2 = .quit
    · have hending : (l.take now event rest).ending = some .quit := if_pos hquit
      exact {
        running := fun hnone => by rw [hending] at hnone; cases hnone
        settled := fun _ => by simp [Loop.take, hquit]
        quit_iff := iff_of_true hending (hconcat.mpr (by rw [hquit]; rfl))
        quit_last := hlast
        drained := fun hdrained => by rw [hending] at hdrained; cases hdrained
        not_stopped := by rw [hending]; simp }
    · have hending : (l.take now event rest).ending = none := if_neg hquit
      have hrunning := (l.app.running_handle now event).resolve_right hquit
      refine {
        running := fun _ => hrunning.trans (h.running he)
        settled := fun hne => absurd hending hne
        quit_iff := iff_of_false (by rw [hending]; nofun) (mt hconcat.mp ?_)
        quit_last := hlast
        drained := fun hdrained => by rw [hending] at hdrained; cases hdrained
        not_stopped := by rw [hending]; nofun }
      cases heffect : (l.app.handle now event).2 with
      | quit => exact absurd heffect hquit
      | redraw => exact Bool.false_ne_true
      | unchanged => exact Bool.false_ne_true

theorem after (h : l.Ended) (moves : List Move) : (l.after fails moves).Ended :=
  invariant Ended (fun he h hs => h.step he hs) h moves

end Ended

end Loop

end ClusterBoard.Console
