import ClusterBoard.Console.EventLoop

/-!
# The console at work

In a session the console asks for data, by itself at the start and when the operator wants fresh
data, and the timers of both sources ask in the background. One fetcher serves the requests, one at
a time, and sends what the server replies to the event loop. An `Act` is what one party
does next; what it cannot do now leaves the session as it is.
-/

namespace ClusterBoard.Console

open Web

/-- A request and the server's reply to it. -/
structure Answer where
  request : FetchRequest
  reply : Reply
  arrived : Int

/-- What an answer brings. -/
def Answer.event (client : Client) (scope : JobScope) (answer : Answer) : DataEvent :=
  .ofReply client scope answer.arrived answer.request answer.reply

/-- What the fetcher is doing. -/
inductive Fetcher where
  /-- It waits for a request. -/
  | idle
  /-- It waits for the server. -/
  | fetching (request : FetchRequest)
  /-- It waits for a place in the queue of data. -/
  | sending (answer : Answer)
  /-- It was cancelled, or nobody takes its data any more. -/
  | stopped

/-- The request that the fetcher serves. -/
def Fetcher.request? : Fetcher → Option FetchRequest
  | .fetching request => some request
  | .sending answer => some answer.request
  | _ => none

/-- Whether the fetcher takes requests. -/
def Fetcher.isServing : Fetcher → Bool
  | .stopped => false
  | _ => true

namespace RequestQueue

/-- The queue after a request, if one is made. -/
def offered (queue : RequestQueue) : Option FetchRequest → RequestQueue
  | some request => (queue.push request).1
  | none => queue

/-- The request that is made, if it finds a place. -/
def admitted (queue : RequestQueue) : Option FetchRequest → List FetchRequest
  | some request => if (queue.push request).2 = .accepted then [request] else []
  | none => []

end RequestQueue

/-- The request that the operator makes. -/
def App.asked? (app : App) : InputEvent → Option FetchRequest
  | .key press =>
    if app.overlay = .none ∧ Action.ofKeyPress press = .refresh then
      some ⟨app.currentSource, false⟩
    else none
  | .resize => none

/-- The console and its fetcher, with the history of what went between them. The queue of requests
is the console's. -/
structure Session where
  app : App
  /-- Whether the event loop runs and takes data. -/
  looping : Bool
  client : Client
  scope : JobScope
  fetcher : Fetcher
  /-- The data that wait for the event loop. -/
  data : List DataEvent
  /-- The requests that found a place so far. -/
  accepted : List FetchRequest
  /-- The answers whose data were sent so far. -/
  sent : List Answer
  /-- The data that the event loop handled so far. -/
  handled : List DataEvent

namespace Session

/-- A session before anything is asked for. -/
def initial (settings : Settings) (warnings : List String) (client : Client) (scope : JobScope) :
    Session :=
  { app := .initial settings warnings client scope
    looping := true
    client
    scope
    fetcher := .idle
    data := []
    accepted := []
    sent := []
    handled := [] }

/-- The requests that are served or wait. -/
def pending (s : Session) : List FetchRequest :=
  s.fetcher.request?.toList ++ s.app.requests.waiting

/-- The history after a request is made, if one is. -/
def recorded (s : Session) (request? : Option FetchRequest) : List FetchRequest :=
  s.accepted ++ s.app.requests.admitted request?

/-- The console asks for data of its own accord. -/
def ask (s : Session) (now : Int) (source : Source) : Session :=
  if s.looping then
    { s with app := s.app.request now source, accepted := s.recorded (some ⟨source, false⟩) }
  else s

/-- The operator does something, which may end the event loop. -/
def input (s : Session) (now : Int) (event : InputEvent) : Session :=
  if s.looping then
    let (app, effect) := s.app.handleInput now event
    { s with app, looping := effect != .quit, accepted := s.recorded (s.app.asked? event) }
  else s

/-- The timer of a source goes off. -/
def tick (s : Session) (source : Source) : Session :=
  { s with
    app := { s.app with requests := s.app.requests.tick source }
    accepted := s.recorded (some ⟨source, true⟩) }

/-- The fetcher takes the request that has waited longest. -/
def take (s : Session) : Session :=
  match s.fetcher, s.app.requests.pop? with
  | .idle, some (request, rest) =>
    { s with app := { s.app with requests := rest }, fetcher := .fetching request }
  | _, _ => s

/-- The server replies to the fetcher. -/
def reply (s : Session) (now : Int) (reply : Reply) : Session :=
  match s.fetcher with
  | .fetching request => { s with fetcher := .sending ⟨request, reply, now⟩ }
  | _ => s

/-- The fetcher ends, and with it the queue of requests. -/
def stop (s : Session) : Session :=
  { s with fetcher := .stopped, app := { s.app with requests := .closed } }

/-- The fetcher sends what it fetched; it waits for a place, and ends if nobody takes the data. -/
def send (s : Session) : Session :=
  match s.fetcher with
  | .sending answer =>
    if s.looping then
      if s.data.length < Inbox.dataCapacity then
        { s with
          fetcher := .idle
          data := s.data ++ [answer.event s.client s.scope]
          sent := s.sent ++ [answer] }
      else s
    else s.stop
  | _ => s

/-- The event loop handles the data that have waited longest. -/
def handle (s : Session) (now : Int) : Session :=
  match s.looping, s.data with
  | true, event :: data =>
    { s with app := (s.app.handleData now event).1, data, handled := s.handled ++ [event] }
  | _, _ => s

/-- The fetcher is cancelled. It does not notice while it sends. -/
def cancel (s : Session) : Session :=
  match s.fetcher with
  | .sending _ => s
  | _ => s.stop

/-- The event loop ends. -/
def leave (s : Session) : Session := { s with looping := false }

end Session

/-- What a party does. -/
inductive Act where
  | ask (now : Int) (source : Source)
  | input (now : Int) (event : InputEvent)
  | tick (source : Source)
  | take
  | reply (now : Int) (reply : Reply)
  | send
  | handle (now : Int)
  | cancel
  | leave

namespace Session

/-- The request that an act makes, whether it finds a place or not. -/
def offer? (s : Session) : Act → Option FetchRequest
  | .ask _ source => if s.looping then some ⟨source, false⟩ else none
  | .input _ event => if s.looping then s.app.asked? event else none
  | .tick source => some ⟨source, true⟩
  | _ => none

/-- The session after an act. -/
def apply (s : Session) : Act → Session
  | .ask now source => s.ask now source
  | .input now event => s.input now event
  | .tick source => s.tick source
  | .take => s.take
  | .reply now reply => s.reply now reply
  | .send => s.send
  | .handle now => s.handle now
  | .cancel => s.cancel
  | .leave => s.leave

/-- The session after a schedule. -/
def after (s : Session) (acts : List Act) : Session := acts.foldl apply s

end Session

end ClusterBoard.Console
