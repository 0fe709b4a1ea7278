import ClusterBoard.Console.App

/-!
# The event loop

Events wait in two queues; what the operator does goes before data. `Inbox.order` is the order in
which events are taken when more of them arrive in between, and `run` handles them one by one. It
draws at the start and after each event that calls for it, and stops when the operator quits or a
drawing fails.
-/

namespace ClusterBoard.Console

/-- An event of either queue. -/
inductive Event where
  | input (event : InputEvent)
  | data (event : DataEvent)
  deriving Repr

/-- The step of an event. -/
def App.handle (app : App) (now : Int) : Event → App × Effect
  | .input event => app.handleInput now event
  | .data event => app.handleData now event

/-- The events that wait, or that arrive together. -/
structure Inbox where
  input : List InputEvent
  data : List DataEvent
  deriving Repr

namespace Inbox

/-- The places of the queue of what the operator does. -/
def inputCapacity : Nat := 16

/-- The places of the queue of data. -/
def dataCapacity : Nat := 32

/-- No events. -/
def empty : Inbox := ⟨[], []⟩

/-- More events at the ends of the queues. -/
def append (inbox arrivals : Inbox) : Inbox :=
  ⟨inbox.input ++ arrivals.input, inbox.data ++ arrivals.data⟩

/-- The event that is taken next. -/
def next? : Inbox → Option (Event × Inbox)
  | ⟨event :: input, data⟩ => some (.input event, ⟨input, data⟩)
  | ⟨[], event :: data⟩ => some (.data event, ⟨[], data⟩)
  | ⟨[], []⟩ => none

/-- The order in which events are taken. Before each look at the queues a batch of the schedule
arrives; after the last one the queues are emptied. -/
def order (inbox : Inbox) : List Inbox → List Event
  | [] => inbox.input.map .input ++ inbox.data.map .data
  | batch :: schedule =>
    match (inbox.append batch).next? with
    | some (event, rest) => event :: rest.order schedule
    | none => empty.order schedule

end Inbox

/-- What a run has shown: the states that were drawn, the last of them perhaps in vain. -/
structure Screening where
  draws : List App
  failure : Option String
  deriving Repr

/-- What a run shows from a state on, where `rest` is what follows. If the state is to be drawn and
the drawing fails, nothing follows. -/
def Screening.showing (fails : Nat → Option String) (drawn : Nat) (needsDraw : Bool) (app : App)
    (rest : Screening) : Screening :=
  if needsDraw then
    match fails drawn with
    | some reason => ⟨[app], some reason⟩
    | none => { rest with draws := app :: rest.draws }
  else rest

/-- Handles events one by one, where `drawn` drawings were made before; `fails` says which drawings
fail, counted from 0, and why. -/
def runFrom (fails : Nat → Option String) (now : Int) : Nat → Bool → App → List Event → Screening
  | drawn, needsDraw, app, [] => .showing fails drawn needsDraw app ⟨[], none⟩
  | drawn, needsDraw, app, event :: events =>
    .showing fails drawn needsDraw app <|
      if app.running then
        match app.handle now event with
        | (_, .quit) => ⟨[], none⟩
        | (next, effect) =>
          runFrom fails now (if needsDraw then drawn + 1 else drawn) (effect == .redraw) next events
      else ⟨[], none⟩

/-- Runs the console on events that arrive by a schedule. -/
def run (fails : Nat → Option String) (now : Int) (app : App) (schedule : List Inbox) : Screening :=
  runFrom fails now 0 true app (Inbox.empty.order schedule)

end ClusterBoard.Console
