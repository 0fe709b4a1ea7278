import ClusterBoard.Console.Key
import ClusterBoard.Console.Requests
import ClusterBoard.Record.Collection
import ClusterBoard.Web.Client

/-!
# Events

What happens to the console: the operator does something, or fetched data arrives. Times are in
seconds.
-/

namespace ClusterBoard.Console

open Web

/-- What the operator does. -/
inductive InputEvent where
  | key (press : KeyPress)
  | resize
  deriving DecidableEq, Repr

/-- What a fetch brings. -/
inductive DataEvent where
  | jobsLoaded (jobs : Collection JobRecord) (fetchedAt : Int) (background : Bool)
  | nodesLoaded (nodes : Collection NodeRecord) (fetchedAt : Int)
  | fetchFailed (source : Source) (error : FetchError)
  deriving Repr

/-- What an event calls for. -/
inductive Effect where
  /-- The screen is to be drawn again. -/
  | redraw
  | unchanged
  | quit
  deriving DecidableEq, Repr

/-- The event that answers a request, from the server's reply. -/
def DataEvent.ofReply (client : Client) (scope : JobScope) (now : Int) (request : FetchRequest)
    (reply : Reply) : DataEvent :=
  match request.source with
  | .jobs =>
    match client.fetchJobs scope reply with
    | .ok jobs => .jobsLoaded jobs now request.background
    | .error e => .fetchFailed .jobs e
  | .nodes =>
    match client.fetchNodes reply with
    | .ok nodes => .nodesLoaded nodes now
    | .error e => .fetchFailed .nodes e

end ClusterBoard.Console
