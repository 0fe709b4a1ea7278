/-!
# Requests for data

What is to be fetched waits in a queue of four places, from which one fetcher serves. A request that
finds no place is dropped.
-/

namespace ClusterBoard.Console

/-- What can be fetched. -/
inductive Source where
  | jobs
  | nodes
  deriving DecidableEq, Repr

/-- The name of a source. -/
def Source.name : Source → String
  | .jobs => "jobs"
  | .nodes => "nodes"

/-- A request for data. One in the background keeps the user and the page. -/
structure FetchRequest where
  source : Source
  background : Bool
  deriving DecidableEq, Repr

/-- The requests that wait, or the end of the queue when nobody serves it any more. -/
inductive RequestQueue where
  | serving (waiting : List FetchRequest)
  | closed
  deriving DecidableEq, Repr

/-- What became of a request. -/
inductive Admission where
  | accepted
  | full
  | closed
  deriving DecidableEq, Repr

namespace RequestQueue

/-- The places of the queue. -/
def capacity : Nat := 4

/-- The queue at the start. -/
def empty : RequestQueue := .serving []

/-- The requests that wait. -/
def waiting : RequestQueue → List FetchRequest
  | .serving requests => requests
  | .closed => []

/-- One more request at the end, if there is a place. -/
def push (queue : RequestQueue) (request : FetchRequest) : RequestQueue × Admission :=
  match queue with
  | .closed => (.closed, .closed)
  | .serving requests =>
    if requests.length < capacity then (.serving (requests ++ [request]), .accepted)
    else (.serving requests, .full)

/-- The first request taken out. -/
def pop? : RequestQueue → Option (FetchRequest × RequestQueue)
  | .serving (request :: rest) => some (request, .serving rest)
  | _ => none

/-- The queue with all requests taken out. -/
def drained : RequestQueue → RequestQueue
  | .serving _ => .serving []
  | .closed => .closed

/-- The queue after a tick of a source's timer, which asks for a refresh in the background. -/
def tick (queue : RequestQueue) (source : Source) : RequestQueue :=
  (queue.push ⟨source, true⟩).1

end RequestQueue

end ClusterBoard.Console
