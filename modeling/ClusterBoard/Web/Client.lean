import ClusterBoard.Json.Reader
import ClusterBoard.Record.Collection
import ClusterBoard.Web.Url.Reader

/-!
# Asking the server

A `Client` knows the address of one server. Each question is one request for one URL under that
address; `Reply` is what came back. Everything that can go wrong is a `FetchError`.
-/

namespace ClusterBoard.Web

/-- What the operator is told when a fetch fails. -/
def fetchFailedMessage : String :=
  "Failed to fetch data. Please check your connection and try again."

/-- Which jobs to ask for. -/
inductive JobScope where
  | active
  | running
  | all
  deriving DecidableEq, Repr, Inhabited

namespace JobScope

/-- The scope's name. -/
def name : JobScope → String
  | .active => "active"
  | .running => "running"
  | .all => "all"

/-- The scope of a name in any case of its ASCII letters. -/
def ofName? (name : String) : Option JobScope :=
  match name.map Char.toLower with
  | "active" => some .active
  | "running" => some .running
  | "all" => some .all
  | _ => none

/-- The path of the scope's collection. -/
def path : JobScope → List String
  | .active => ["api", "jobs", "active"]
  | .running => ["api", "jobs", "running"]
  | .all => ["api", "jobs"]

end JobScope

/-- What comes back for a request in the end. The HTTP library follows redirects on the way, so a
reply is its final answer, perhaps from another URL than the one that was asked for. -/
inductive Reply where
  /-- No connection is made, or no whole answer comes in time, or redirects do not end. -/
  | none
  | answer (status : Nat) (body : ByteArray)

/-- Why nothing could be fetched. -/
inductive FetchError where
  | invalidUrl (url reason : String)
  | request (url : String)
  | status (url : String) (code : Nat)
  | decode (url : String)
  | collection (error : CollectionError)
  deriving DecidableEq, Repr

/-- The error in words. After a failed request and after a body that is no JSON the program goes on
with a colon and the text of the cause, in the words of the HTTP library or of the JSON reader; this
is left out here. For requests `CommandLine.fetchCauses` adds it. -/
def FetchError.message : FetchError → String
  | .invalidUrl url reason => s!"invalid server URL '{url}': {reason}"
  | .request url => s!"request to {url} failed"
  | .status url code => s!"HTTP error! status: {code} ({url})"
  | .decode url => s!"response from {url} is not valid JSON"
  | .collection error => error.message

/-- Access to one server. -/
structure Client where
  base : Url
  deriving DecidableEq, Repr, Inhabited

namespace Client

/-- The client of a server's address, white space around it aside. -/
def ofAddress (address : String) : Except FetchError Client :=
  match Url.parse none (Text.trimmed address) with
  | .error reason => .error (.invalidUrl address reason.message)
  | .ok url =>
    if url.canBeBase then .ok ⟨url⟩ else .error (.invalidUrl address "not a base URL")

/-- The absolute address of a link on the server's pages; a link that cannot be followed stays as it
is. -/
def resolve (client : Client) (link : String) : String :=
  match client.base.withFinalSlash.join link with
  | .ok url => url.text
  | .error _ => link

/-- The URL of a path under the server's address. -/
def endpoint (client : Client) (segments : List String) : Url := client.base.pushSegments segments

/-- The URL of the jobs of a scope. -/
def jobsUrl (client : Client) (scope : JobScope) : Url := client.endpoint scope.path

/-- The URL of all nodes. -/
def nodesUrl (client : Client) : Url := client.endpoint ["api", "nodes"]

/-- The URL of one job. -/
def jobUrl (client : Client) (id : String) : Url := client.endpoint ["api", "job", id]

/-- The URL of one node. -/
def nodeUrl (client : Client) (name : String) : Url := client.endpoint ["api", "node", name]

/-- Whether a status means success. -/
def isSuccess (status : Nat) : Bool := 200 ≤ status && status < 300

/-- The value in a reply to a request for a URL. -/
def readReply (url : Url) : Reply → Except FetchError Json
  | .none => .error (.request url.text)
  | .answer status body =>
    if isSuccess status then
      match (String.fromUTF8? body).bind (Json.parse? Json.bodyDepth) with
      | some value => .ok value
      | none => .error (.decode url.text)
    else .error (.status url.text status)

/-- The collection in a reply to a request for a URL. -/
def readCollection {α : Type} [Record α] (url : Url) (reply : Reply) :
    Except FetchError (Collection α) := do
  let payload ← readReply url reply
  match Collection.ofJson payload with
  | .ok records => .ok records
  | .error e => .error (.collection e)

/-- The jobs of a scope, from the reply to the request for them. -/
def fetchJobs (client : Client) (scope : JobScope) (reply : Reply) :
    Except FetchError (Collection JobRecord) :=
  readCollection (client.jobsUrl scope) reply

/-- All nodes, from the reply to the request for them. -/
def fetchNodes (client : Client) (reply : Reply) : Except FetchError (Collection NodeRecord) :=
  readCollection client.nodesUrl reply

/-- One job, from the reply to the request for it. -/
def fetchJob (client : Client) (id : String) (reply : Reply) : Except FetchError JobRecord := do
  let payload ← readReply (client.jobUrl id) reply
  .ok (.ofJson ⟨id⟩ payload)

/-- One node, from the reply to the request for it. -/
def fetchNode (client : Client) (name : String) (reply : Reply) : Except FetchError NodeRecord := do
  let payload ← readReply (client.nodeUrl name) reply
  .ok (.ofJson ⟨name⟩ payload)

end Client

end ClusterBoard.Web
