import Mathlib
import ClusterBoard.Proofs.Console.LoopInvariants

/-!
# Turns of the event loop

Whatever arrives and whenever the queues are closed, the event loop takes its events in order, draws
when it should, and ends when it should (`Loop.Orderly`). Once both queues are closed each round
takes an event or ends the loop, so it ends. On a schedule it shows what `run` shows, since no move
changes what the loop will have shown in the end (`Loop.outlook`).
-/

namespace ClusterBoard.Console.Loop

variable {fails : Nat → Option String} {first : App} {l next : Loop}

/-! ## Closed queues -/

/-- What was handled and what waits, in the order in which it is taken if nothing else arrives. -/
def agenda (l : Loop) : List Event := l.taken.map Prod.snd ++ l.inbox.order []

/-- Where both queues are closed nothing is added to what waits. -/
theorem agenda_step (h : l.doors = (false, false)) (hs : Step fails l next) :
    next.doors = (false, false) ∧ next.agenda = l.agenda := by
  obtain ⟨hinput, hdata⟩ := Prod.mk.inj h
  cases hs with
  | idle | stop | drain => exact ⟨h, rfl⟩
  | close inputOpen dataOpen hi hd => exact ⟨Prod.ext (hi hinput) (hd hdata), rfl⟩
  | draw hn =>
    refine ⟨h, ?_⟩
    unfold agenda
    rw [taken_drawNow]
    rfl
  | arrive batch =>
    refine ⟨h, ?_⟩
    have hadmitted : l.admitted batch = .empty := by
      simp [admitted, hinput, hdata, Inbox.empty]
    unfold agenda
    rw [taken_arrive, Loop.arrive, hadmitted, Inbox.append_empty]
  | take hn now event rest hnext =>
    refine ⟨h, ?_⟩
    unfold agenda
    rw [taken_take, Inbox.order_nil_of_next? hnext]
    simp [Loop.take]

theorem agenda_after (h : l.doors = (false, false)) (moves : List Move) :
    (l.after fails moves).doors = (false, false) ∧ (l.after fails moves).agenda = l.agenda := by
  refine invariant (fun next => next.doors = (false, false) ∧ next.agenda = l.agenda)
    (fun _ hkept hs => ?_) ⟨h, rfl⟩ moves
  obtain ⟨hdoors, hagenda⟩ := agenda_step hkept.1 hs
  exact ⟨hdoors, hagenda.trans hkept.2⟩

/-- If all events arrive first and both queues are closed then, what was handled, and then what
waits, is all input and then all data. -/
theorem taken_of_closed (fails : Nat → Option String) (first : App) (inbox : Inbox)
    (moves : List Move) :
    let l := (start first).after fails (.arrive inbox :: .closeInput :: .closeData :: moves)
    l.taken.map Prod.snd ++ (l.inbox.input.map .input ++ l.inbox.data.map .data) =
      inbox.input.map .input ++ inbox.data.map .data := by
  intro l
  have hagenda : l.agenda = inbox.order [] :=
    (agenda_after (l := (start first).after fails [.arrive inbox, .closeInput, .closeData]) rfl
      moves).2
  rwa [agenda, Inbox.order_nil, Inbox.order_nil] at hagenda

/-! ## Going round -/

theorem needsDraw_draw (l : Loop) : (l.draw fails).needsDraw = false := by
  unfold Loop.draw
  split_ifs with hn
  · rfl
  · exact Bool.eq_false_of_not_eq_true hn

theorem draw_frame (fails : Nat → Option String) (l : Loop) :
    (l.draw fails).app = l.app ∧ (l.draw fails).inbox = l.inbox ∧
      (l.draw fails).doors = l.doors := by
  unfold Loop.draw
  split_ifs <;> exact ⟨rfl, rfl, rfl⟩

/-- What a round can make of a loop that has not ended. -/
inductive Round (fails : Nat → Option String) (now : Int) (l : Loop) : Loop → Prop
  | failed (hd : (l.draw fails).ending ≠ none) : Round fails now l (l.draw fails)
  | took (hd : (l.draw fails).ending = none) (event : Event) (rest : Inbox)
      (h : l.inbox.next? = some (event, rest)) :
      Round fails now l ((l.draw fails).take now event rest)
  | waited (hd : (l.draw fails).ending = none) (h : l.inbox = .empty)
      (hopen : l.doors ≠ (false, false)) : Round fails now l (l.draw fails)
  | drained (hd : (l.draw fails).ending = none) (h : l.inbox = .empty)
      (hclosed : l.doors = (false, false)) :
      Round fails now l { l.draw fails with ending := some .drained }

theorem Ended.round (h : l.Ended) (he : l.ending = none) (now : Int) :
    Round fails now l (l.after fails [.draw, .look now]) := by
  show Round fails now l ((l.apply fails .draw).apply fails (.look now))
  rw [apply_of_unended he]
  show Round fails now l ((l.draw fails).apply fails (.look now))
  by_cases hd : (l.draw fails).ending = none
  · rw [apply_of_unended hd]
    show Round fails now l ((l.draw fails).look now)
    obtain ⟨happ, hinbox, hdoors⟩ := draw_frame fails l
    rcases look_cases l.needsDraw_draw (by rw [happ, h.running he]) now with
      ⟨event, rest, hnext, heq⟩ | ⟨hempty, hopen, heq⟩ | ⟨hempty, hclosed, heq⟩
    · rw [heq]
      exact .took hd event rest (hinbox ▸ hnext)
    · rw [heq]
      exact .waited hd (hinbox ▸ hempty) (hdoors ▸ hopen)
    · rw [heq]
      exact .drained hd (hinbox ▸ hempty) (hdoors ▸ hclosed)
  · rw [apply_of_ended hd]
    exact .failed hd

theorem Round.doors_eq {now : Int} (hr : Round fails now l next) : next.doors = l.doors := by
  obtain ⟨-, -, hdoors⟩ := draw_frame fails l
  cases hr <;> exact hdoors

/-- Where both queues are closed a round takes an event or ends the loop. -/
theorem Round.ended_or_fewer {now : Int} (hr : Round fails now l next)
    (hclosed : l.doors = (false, false)) :
    next.ending ≠ none ∨ next.inbox.length < l.inbox.length := by
  cases hr with
  | failed hd => exact .inl hd
  | took hd event rest hnext =>
    rw [Inbox.length_of_next? hnext]
    exact .inr (Nat.lt_succ_self _)
  | waited hd hempty hopen => exact absurd hclosed hopen
  | drained => exact .inl (Option.some_ne_none _)

/-- Where both queues are closed the loop ends after a round for each event that waits and one
more. -/
theorem ended_after_rounds (clock : List Int) : ∀ {l : Loop}, l.Ended → l.doors = (false, false) →
    l.inbox.length < clock.length → (l.after fails (Move.rounds clock)).ending ≠ none := by
  -- There are more rounds than events, and each round that does not end the loop takes one.
  induction clock with
  | nil => exact fun _ _ h => absurd h (Nat.not_lt_zero _)
  | cons now clock ih =>
    intro l h hdoors hlength
    by_cases he : l.ending = none
    · show ((l.after fails [.draw, .look now]).after fails (Move.rounds clock)).ending ≠ none
      have hround : Round fails now l (l.after fails [.draw, .look now]) := h.round he now
      rcases hround.ended_or_fewer hdoors with hended | hfewer
      · rwa [after_of_ended hended]
      · exact ih (h.after _) (agenda_after hdoors _).1
          (Nat.lt_of_lt_of_le hfewer (Nat.le_of_lt_succ hlength))
    · rwa [after_of_ended he]

/-! ## What the loop shows -/

/-- What the loop will have shown if it takes certain events next and then no others. -/
def outlook (fails : Nat → Option String) (now : Int) (l : Loop) (events : List Event) :
    Screening :=
  if l.ending = none then
    let rest := runFrom fails now l.drawn l.needsDraw l.app events
    ⟨l.draws ++ rest.draws, rest.failure⟩
  else l.screening

theorem outlook_of_ended (he : l.ending ≠ none) (now : Int) (events : List Event) :
    l.outlook fails now events = l.screening := if_neg he

theorem outlook_of_unended (he : l.ending = none) (now : Int) (events : List Event) :
    l.outlook fails now events =
      ⟨l.draws ++ (runFrom fails now l.drawn l.needsDraw l.app events).draws,
        (runFrom fails now l.drawn l.needsDraw l.app events).failure⟩ := if_pos he

/-- A drawing that is owed comes first. -/
theorem runFrom_needsDraw (fails : Nat → Option String) (now : Int) (drawn : Nat) (app : App)
    (events : List Event) :
    runFrom fails now drawn true app events =
      .showing fails drawn true app (runFrom fails now (drawn + 1) false app events) := by
  cases events <;> rfl

theorem outlook_draw (he : l.ending = none) (now : Int) (events : List Event) :
    (l.draw fails).outlook fails now events = l.outlook fails now events := by
  unfold Loop.draw
  split_ifs with hn
  · rw [outlook_of_unended he, hn, runFrom_needsDraw]
    unfold Screening.showing
    rw [if_pos rfl]
    cases hfails : fails l.drawn with
    | none =>
      have hnone : (l.drawNow fails).ending = none := congrArg (Option.map Ending.failed) hfails
      rw [outlook_of_unended hnone, draws_drawNow, List.append_assoc]
      rfl
    | some reason =>
      have hsome : (l.drawNow fails).ending = some (.failed reason) :=
        congrArg (Option.map Ending.failed) hfails
      rw [outlook_of_ended (by rw [hsome]; nofun), screening, draws_drawNow, hsome]
      rfl
  · rfl

/-- An event ends the run, or the rest goes on from the state after it. -/
theorem runFrom_cons {app next : App} {now : Int} {event : Event} {effect : Effect}
    (hr : app.running = true) (hhandle : app.handle now event = (next, effect))
    (fails : Nat → Option String) (drawn : Nat) (events : List Event) :
    runFrom fails now drawn false app (event :: events) =
      if effect = .quit then ⟨[], none⟩
      else runFrom fails now drawn (effect == .redraw) next events := by
  simp only [runFrom, Screening.showing, Bool.false_eq_true, if_false]
  rw [if_pos hr, hhandle]
  cases effect <;> rfl

theorem outlook_take (he : l.ending = none) (hn : l.needsDraw = false)
    (hr : l.app.running = true) (now : Int) (event : Event) (rest : Inbox) (events : List Event) :
    (l.take now event rest).outlook fails now events = l.outlook fails now (event :: events) := by
  cases hhandle : l.app.handle now event with
  | mk app effect =>
    have htake : l.take now event rest = { l with
        app
        needsDraw := effect == .redraw
        inbox := rest
        ending := if effect = .quit then some .quit else none
        journal := l.journal ++ [.took now event effect] } := by
      unfold Loop.take
      rw [hhandle]
    rw [outlook_of_unended he, hn, runFrom_cons hr hhandle]
    by_cases hquit : effect = .quit
    · have hending : (l.take now event rest).ending = some .quit := by
        rw [htake]
        exact if_pos hquit
      rw [outlook_of_ended (by rw [hending]; nofun), screening, draws_take, hending, if_pos hquit,
        List.append_nil]
      rfl
    · have hending : (l.take now event rest).ending = none := by
        rw [htake]
        exact if_neg hquit
      rw [outlook_of_unended hending, draws_take, if_neg hquit, htake]

/-- A round takes what comes up first. Where nothing waits the loop waits for the next batch, and if
none can arrive it ends. -/
theorem Round.outlook_eq {now : Int} (hr : Round fails now l next) (he : l.ending = none)
    (hrunning : l.app.running = true) {schedule : List Inbox}
    (hschedule : l.doors ≠ (false, false) ∨ schedule = []) :
    next.outlook fails now (next.inbox.order schedule) =
      l.outlook fails now (l.inbox.upcoming schedule) := by
  obtain ⟨happ, hinbox, -⟩ := draw_frame fails l
  rw [← outlook_draw he]
  cases hr with
  | failed hd =>
    -- No event matters any more.
    rw [outlook_of_ended hd, outlook_of_ended hd]
  | took hd event rest hnext =>
    rw [outlook_take hd l.needsDraw_draw (by rw [happ, hrunning]), Inbox.upcoming, hnext]
    rfl
  | waited hd hempty hopen =>
    rw [hinbox, hempty]
    rfl
  | drained hd hempty hclosed =>
    -- Closed queues are met only after the last batch.
    obtain rfl := hschedule.resolve_left (not_not_intro hclosed)
    rw [hempty, outlook_of_ended (Option.some_ne_none _), outlook_of_unended hd,
      l.needsDraw_draw]
    show Screening.mk _ _ = Screening.mk (_ ++ []) _
    rw [List.append_nil]
    rfl

theorem outlook_round (h : l.Ended) (now : Int) {schedule : List Inbox}
    (hschedule : l.doors ≠ (false, false) ∨ schedule = []) :
    (l.after fails [.draw, .look now]).outlook fails now
        ((l.after fails [.draw, .look now]).inbox.order schedule) =
      l.outlook fails now (l.inbox.upcoming schedule) := by
  by_cases he : l.ending = none
  · exact (h.round he now).outlook_eq he (h.running he) hschedule
  · rw [after_of_ended he, outlook_of_ended he, outlook_of_ended he]

/-- A batch that arrives at open queues waits behind the others. -/
theorem inbox_arrive (hdoors : l.doors = (true, true)) (batch : Inbox) :
    (l.arrive batch).inbox = l.inbox.append batch := by
  obtain ⟨hi, hd⟩ := Prod.mk.inj hdoors
  simp [Loop.arrive, admitted, hi, hd]

theorem outlook_arrive (l : Loop) (batch : Inbox) (now : Int) (events : List Event) :
    (l.arrive batch).outlook fails now events = l.outlook fails now events := by
  unfold outlook screening
  rw [draws_arrive]
  rfl

theorem outlook_turns (now : Int) (schedule : List Inbox) : ∀ {l : Loop}, l.Ended →
    l.doors = (true, true) →
      (l.after fails (Move.turns now schedule)).outlook fails now
          ((l.after fails (Move.turns now schedule)).inbox.order []) =
        l.outlook fails now (l.inbox.order schedule) := by
  induction schedule with
  | nil => exact fun _ _ => rfl
  | cons batch schedule ih =>
    intro l h hdoors
    by_cases he : l.ending = none
    · have harrive : l.after fails [.arrive batch] = l.arrive batch := apply_of_unended he _
      have hmoves : l.after fails (Move.turns now (batch :: schedule)) =
          ((l.after fails [.arrive batch]).after fails [.draw, .look now]).after fails
            (Move.turns now schedule) := rfl
      have harrived : (l.after fails [.arrive batch]).Ended := h.after _
      rw [harrive] at hmoves harrived
      have hopen : (l.arrive batch).doors = (true, true) := hdoors
      rw [hmoves, ih (harrived.after _) ((harrived.round he now).doors_eq.trans hopen),
        outlook_round harrived now (.inl (by rw [hopen]; nofun)), outlook_arrive,
        inbox_arrive hdoors]
      rfl
    · rw [after_of_ended he, outlook_of_ended he, outlook_of_ended he]

theorem outlook_rounds (now : Int) (n : Nat) : ∀ {l : Loop}, l.Ended →
    (l.after fails (Move.rounds (List.replicate n now))).outlook fails now
        ((l.after fails (Move.rounds (List.replicate n now))).inbox.order []) =
      l.outlook fails now (l.inbox.order []) := by
  induction n with
  | zero => exact fun _ => rfl
  | succ n ih =>
    intro l h
    show ((l.after fails [.draw, .look now]).after fails
      (Move.rounds (List.replicate n now))).outlook fails now _ = _
    rw [← Inbox.upcoming_nil l.inbox, ← outlook_round h now (.inr rfl)]
    exact ih (h.after _)

theorem close_frame (fails : Nat → Option String) (l : Loop) (now : Int) (events : List Event) :
    (l.after fails [.closeInput, .closeData]).inbox = l.inbox ∧
      (l.after fails [.closeInput, .closeData]).outlook fails now events =
        l.outlook fails now events ∧
      ((l.after fails [.closeInput, .closeData]).ending = none →
        (l.after fails [.closeInput, .closeData]).doors = (false, false)) := by
  by_cases he : l.ending = none
  · have heq : l.after fails [.closeInput, .closeData] =
        { l with inputOpen := false, dataOpen := false } := by
      show (l.apply fails .closeInput).apply fails .closeData = _
      rw [apply_of_unended he]
      exact apply_of_unended (l := { l with inputOpen := false }) he .closeData
    rw [heq]
    exact ⟨rfl, rfl, fun _ => rfl⟩
  · rw [after_of_ended he]
    exact ⟨rfl, rfl, fun hnone => absurd hnone he⟩

/-- If a batch arrives before each round, and then both queues are closed, the loop ends and has
shown what `run` shows. -/
theorem screening_eq_run (hrunning : first.running = true) (now : Int) (schedule : List Inbox)
    (n : Nat)
    (hn : ((start first).after fails
      (Move.turns now schedule ++ [.closeInput, .closeData])).inbox.length < n) :
    let l := ((start first).after fails
      (Move.turns now schedule ++ [.closeInput, .closeData])).after fails
        (Move.rounds (List.replicate n now))
    l.ending ≠ none ∧ l.screening = run fails now first schedule := by
  intro l
  have hstart := ended_start hrunning
  have hclosed : ((start first).after fails
      (Move.turns now schedule ++ [.closeInput, .closeData])).Ended := hstart.after _
  obtain ⟨hinbox, houtlook, hdoors⟩ := close_frame fails
    ((start first).after fails (Move.turns now schedule)) now
      (((start first).after fails (Move.turns now schedule)).inbox.order [])
  rw [← after_append] at hinbox houtlook hdoors
  have hended : l.ending ≠ none := by
    by_cases he : ((start first).after fails
        (Move.turns now schedule ++ [.closeInput, .closeData])).ending = none
    · exact ended_after_rounds _ hclosed (hdoors he) (by rwa [List.length_replicate])
    · show (Loop.after _ _ _).ending ≠ none
      rwa [after_of_ended he]
  refine ⟨hended, ?_⟩
  calc l.screening
      = l.outlook fails now (l.inbox.order []) := (outlook_of_ended hended now _).symm
    _ = ((start first).after fails (Move.turns now schedule)).outlook fails now
          (((start first).after fails (Move.turns now schedule)).inbox.order []) := by
        rw [outlook_rounds now n hclosed, hinbox, houtlook]
    _ = (start first).outlook fails now ((start first).inbox.order schedule) :=
        outlook_turns now schedule hstart rfl
    _ = run fails now first schedule := rfl

/-! ## The theorem -/

/-- What holds of the loop after any moves. -/
structure Orderly (fails : Nat → Option String) (first : App) (l : Loop) : Prop where
  /-- In each queue, the events that were handled and then those that wait are those that
  arrived. -/
  queues_eq : arrivals l.journal = (takings l.journal).append l.inbox
  /-- Data are handled only where all input that arrived before was handled. -/
  input_first : ∀ before now fetched effect after,
    l.journal = before ++ .took now (.data fetched) effect :: after →
      (arrivals before).input = (takings before).input
  /-- What the loop did, and the drawing that is owed, is to draw the first state and then to handle
  the events, each with a drawing of the new state right after it if it calls for one. -/
  deeds_eq : l.deeds ++ l.owed = .drew first :: script first l.taken
  /-- Nothing follows an event that calls for the end. -/
  quit_last : ∀ before now event after, l.journal = before ++ .took now event .quit :: after →
    after = []
  quit_iff : l.ending = some .quit ↔ ∃ now event, .took now event .quit ∈ l.journal
  /-- The loop has failed where its last drawing did. -/
  failed_iff : ∀ reason, l.ending = some (.failed reason) ↔
    ∃ n, l.draws.length = n + 1 ∧ fails n = some reason
  /-- All earlier drawings succeeded. -/
  succeeded : ∀ n, n + 1 < l.draws.length → fails n = none
  drained : l.ending = some .drained →
    l.inputOpen = false ∧ l.dataOpen = false ∧ l.inbox = .empty
  not_stopped : l.ending ≠ some .stopped
  /-- A loop that has ended owes no drawing, and nothing happens any more. -/
  final : l.ending ≠ none → l.owed = [] ∧ ∀ moves, l.after fails moves = l
  draw_owed : l.ending = none → (l.apply fails .draw).deeds = l.deeds ++ l.owed ∧
    (l.apply fails .draw).owed = []
  /-- A loop that owes no drawing takes an event, or waits for one, or ends. -/
  look_cases : l.ending = none → l.owed = [] → ∀ now,
    (∃ event rest, l.inbox.next? = some (event, rest) ∧
      l.apply fails (.look now) = l.take now event rest) ∨
    (l.inbox = .empty ∧ (l.inputOpen = true ∨ l.dataOpen = true) ∧
      l.apply fails (.look now) = l) ∨
    l.inbox = .empty ∧ l.inputOpen = false ∧ l.dataOpen = false ∧
      (l.apply fails (.look now)).ending = some .drained
  /-- Once both queues are closed the loop ends after a round for each event that waits and one
  more. -/
  ends : l.inputOpen = false → l.dataOpen = false → ∀ clock : List Int,
    l.inbox.length < clock.length → (l.after fails (Move.rounds clock)).ending ≠ none

theorem owed_eq_nil_iff : l.owed = [] ↔ l.needsDraw = false := by
  unfold owed
  split_ifs with hn <;> simp [hn]

theorem orderly_of_invariants (hq : l.Queued) (hs : l.Scripted first) (hc : l.Counted fails)
    (he : l.Ended) : l.Orderly fails first where
  queues_eq := hq.queues_eq
  input_first before now fetched effect after h :=
    hq.input_first before _ after h now fetched effect rfl
  deeds_eq := hs.deeds_eq
  quit_last before now event after h := by
    cases after with
    | nil => rfl
    | cons entry after =>
      have hlater := he.quit_last (before ++ [.took now event .quit]) entry after (by simpa using h)
      exact Bool.noConfusion (hlater _ (List.mem_append_right _ (List.mem_singleton_self _)))
  quit_iff := by
    rw [he.quit_iff]
    constructor
    · rintro ⟨entry, hentry, hquit⟩
      obtain ⟨now, event, rfl⟩ := Entry.isQuit_iff.mp hquit
      exact ⟨now, event, hentry⟩
    · rintro ⟨now, event, hentry⟩
      exact ⟨_, hentry, rfl⟩
  failed_iff reason := by rw [hc.failed_iff, hc.drawn_eq]
  succeeded n hn := hc.succeeded n (hc.drawn_eq ▸ hn)
  drained := he.drained
  not_stopped := he.not_stopped
  final h := ⟨owed_eq_nil_iff.mpr (he.settled h), after_of_ended h⟩
  draw_owed hnone := by
    rw [apply_of_unended hnone]
    refine ⟨?_, owed_eq_nil_iff.mpr l.needsDraw_draw⟩
    show (l.draw fails).deeds = _
    unfold Loop.draw owed
    split_ifs
    · exact deeds_drawNow
    · exact (List.append_nil _).symm
  look_cases hnone howed now := by
    rw [apply_of_unended hnone]
    rcases Loop.look_cases (owed_eq_nil_iff.mp howed) (he.running hnone) now with
      h | ⟨hempty, hopen, heq⟩ | ⟨hempty, hclosed, heq⟩
    · exact .inl h
    · refine .inr (.inl ⟨hempty, ?_, heq⟩)
      by_contra hnot
      rw [not_or, Bool.not_eq_true, Bool.not_eq_true] at hnot
      exact hopen (Prod.ext hnot.1 hnot.2)
    · obtain ⟨hi, hd⟩ := Prod.mk.inj hclosed
      exact .inr (.inr ⟨hempty, hi, hd, congrArg ending heq⟩)
  ends hi hd clock := ended_after_rounds clock he (Prod.ext hi hd)

/-- **The event loop does what it should, and nothing else.** So it does after any moves, where the
console runs at the start. If all events arrive first, all input is handled before all data; and on
a schedule the loop ends and shows what `run` shows. -/
theorem orderly_after (fails : Nat → Option String) (first : App)
    (hrunning : first.running = true) :
    (∀ moves, ((start first).after fails moves).Orderly fails first) ∧
    (∀ inbox moves,
      let l := (start first).after fails (.arrive inbox :: .closeInput :: .closeData :: moves)
      l.taken.map Prod.snd ++ (l.inbox.input.map .input ++ l.inbox.data.map .data) =
        inbox.input.map .input ++ inbox.data.map .data) ∧
    ∀ now schedule n,
      let l := (start first).after fails (Move.turns now schedule ++ [.closeInput, .closeData])
      l.inbox.length < n →
        (l.after fails (Move.rounds (List.replicate n now))).ending ≠ none ∧
        (l.after fails (Move.rounds (List.replicate n now))).screening =
          run fails now first schedule := by
  refine ⟨fun moves => ?_, taken_of_closed fails first, screening_eq_run hrunning⟩
  exact orderly_of_invariants
    (invariant Queued (fun _ h hs => h.step hs) (queued_start first) moves)
    (invariant (Scripted first) (fun _ h hs => h.step hs) (scripted_start first) moves)
    (invariant (Counted fails) (fun he h hs => h.step he hs) (counted_start first) moves)
    ((ended_start hrunning).after moves)

/-- Where the terminal is resized and a fetch has failed, the resize goes first. -/
theorem orderly_after_resize :
    let console := App.initial .standard [] default .active
    let schedule : List Inbox := [⟨[.resize], [.fetchFailed .jobs (.request "")]⟩]
    let l := (start console).after (fun _ => none)
      (Move.turns 0 schedule ++ [.closeInput, .closeData])
    let last := l.after (fun _ => none) (Move.rounds (List.replicate 2 0))
    console.running = true ∧ l.inbox.length < 2 ∧
      l.deeds ++ l.owed =
        [.drew console, .took 0 (.input .resize) .redraw, .drew console] ∧
      last.ending ≠ none ∧ last.screening = run (fun _ => none) 0 console schedule := by
  intro console schedule l last
  obtain ⟨hmoves, -, hschedule⟩ := orderly_after (fun _ => none) console rfl
  obtain ⟨hended, hscreening⟩ := hschedule 0 schedule 2 (by decide)
  exact ⟨rfl, by decide, (hmoves _).deeds_eq, hended, hscreening⟩

end ClusterBoard.Console.Loop
