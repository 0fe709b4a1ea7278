import ClusterBoard.Console.EventLoop

/-!
# The event loop in turns

A `Loop` is the event loop between two of its moves: it draws the state if that is owed, and else it
looks at its queues and handles the event that goes first. In between events arrive, and the queues
are closed. A look at both queues is one move: an event that arrives between the poll of the input
queue and that of the data queue counts as arriving after the look. What arrives is not bounded by
the places of the queues. The journal tells what was done and what arrived; no move depends on it.
-/

namespace ClusterBoard.Console

/-- Why the event loop ended. -/
inductive Ending where
  /-- An event called for it. -/
  | quit
  /-- The console was not running. -/
  | stopped
  /-- No event waits, and none can arrive any more. -/
  | drained
  /-- A drawing failed. -/
  | failed (reason : String)
  deriving DecidableEq, Repr

def Ending.failure? : Ending → Option String
  | .failed reason => some reason
  | _ => none

namespace Inbox

/-- One event in its queue. -/
def ofEvent : Event → Inbox
  | .input event => ⟨[event], []⟩
  | .data event => ⟨[], [event]⟩

def join (batches : List Inbox) : Inbox := batches.foldr append empty

def length (inbox : Inbox) : Nat := inbox.input.length + inbox.data.length

end Inbox

/-- What happened at the event loop. -/
inductive Entry where
  /-- Events arrived. -/
  | arrived (batch : Inbox)
  /-- The state was drawn, perhaps in vain. -/
  | drew (app : App)
  /-- An event was handled, and what it called for. -/
  | took (now : Int) (event : Event) (effect : Effect)

namespace Entry

def arrival : Entry → Inbox
  | .arrived batch => batch
  | _ => .empty

/-- The event that was handled, in its queue. -/
def taking : Entry → Inbox
  | .took _ event _ => .ofEvent event
  | _ => .empty

def event? : Entry → Option (Int × Event)
  | .took now event _ => some (now, event)
  | _ => none

def drawing? : Entry → Option App
  | .drew app => some app
  | _ => none

/-- Whether the loop did it. -/
def isDeed : Entry → Bool
  | .arrived _ => false
  | _ => true

def isQuit : Entry → Bool
  | .took _ _ .quit => true
  | _ => false

end Entry

def arrivals (journal : List Entry) : Inbox := .join (journal.map Entry.arrival)

def takings (journal : List Entry) : Inbox := .join (journal.map Entry.taking)

/-- The state of the event loop. -/
structure Loop where
  app : App
  /-- Whether the state is to be drawn before the next event. -/
  needsDraw : Bool
  /-- The number of drawings so far. -/
  drawn : Nat
  inbox : Inbox
  /-- Whether input can still arrive. -/
  inputOpen : Bool
  /-- Whether data can still arrive. -/
  dataOpen : Bool
  ending : Option Ending
  journal : List Entry

/-- What happens next. -/
inductive Move where
  | arrive (batch : Inbox)
  | closeInput
  | closeData
  | draw
  | look (now : Int)

namespace Loop

/-- The event loop before its first move. -/
def start (app : App) : Loop :=
  { app
    needsDraw := true
    drawn := 0
    inbox := .empty
    inputOpen := true
    dataOpen := true
    ending := none
    journal := [] }

/-- What of a batch arrives; nothing does in a closed queue. -/
def admitted (l : Loop) (batch : Inbox) : Inbox :=
  ⟨if l.inputOpen then batch.input else [], if l.dataOpen then batch.data else []⟩

/-- Events arrive behind those that wait. -/
def arrive (l : Loop) (batch : Inbox) : Loop :=
  { l with
    inbox := l.inbox.append (l.admitted batch)
    journal := l.journal ++ [.arrived (l.admitted batch)] }

/-- Draws the state; `fails` says which drawings fail, counted from 0, and why. A drawing that fails
ends the loop. -/
def drawNow (fails : Nat → Option String) (l : Loop) : Loop :=
  { l with
    needsDraw := false
    drawn := l.drawn + 1
    ending := (fails l.drawn).map .failed
    journal := l.journal ++ [.drew l.app] }

/-- Draws the state if that is owed. -/
def draw (fails : Nat → Option String) (l : Loop) : Loop :=
  if l.needsDraw then l.drawNow fails else l

/-- Handles the event that goes first. -/
def take (l : Loop) (now : Int) (event : Event) (rest : Inbox) : Loop :=
  let (app, effect) := l.app.handle now event
  { l with
    app
    needsDraw := effect == .redraw
    inbox := rest
    ending := if effect = .quit then some .quit else none
    journal := l.journal ++ [.took now event effect] }

/-- Looks at the queues, unless a drawing is owed. Where nothing waits the loop waits too, and ends
if both queues are closed. -/
def look (now : Int) (l : Loop) : Loop :=
  if l.needsDraw then l
  else if l.app.running then
    match l.inbox.next? with
    | some (event, rest) => l.take now event rest
    | none => if l.inputOpen || l.dataOpen then l else { l with ending := some .drained }
  else { l with ending := some .stopped }

/-- What a move makes of the loop, before its end. -/
def perform (fails : Nat → Option String) (l : Loop) : Move → Loop
  | .arrive batch => l.arrive batch
  | .closeInput => { l with inputOpen := false }
  | .closeData => { l with dataOpen := false }
  | .draw => l.draw fails
  | .look now => l.look now

/-- The loop after a move. After its end nothing happens. -/
def apply (fails : Nat → Option String) (l : Loop) (move : Move) : Loop :=
  if l.ending = none then l.perform fails move else l

/-- The loop after some moves. -/
def after (fails : Nat → Option String) (l : Loop) (moves : List Move) : Loop :=
  moves.foldl (apply fails) l

def taken (l : Loop) : List (Int × Event) := l.journal.filterMap Entry.event?

def draws (l : Loop) : List App := l.journal.filterMap Entry.drawing?

/-- What the loop did. -/
def deeds (l : Loop) : List Entry := l.journal.filter Entry.isDeed

def screening (l : Loop) : Screening := ⟨l.draws, l.ending.bind Ending.failure?⟩

end Loop

namespace Move

/-- The loop goes round, once at each time. -/
def rounds (clock : List Int) : List Move := clock.flatMap fun now => [.draw, .look now]

/-- A batch arrives before each time the loop goes round. -/
def turns (now : Int) (schedule : List Inbox) : List Move :=
  schedule.flatMap fun batch => [.arrive batch, .draw, .look now]

end Move

end ClusterBoard.Console
