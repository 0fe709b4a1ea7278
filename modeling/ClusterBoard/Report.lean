import ClusterBoard.Page.Document
import ClusterBoard.Terminal.Listing
import ClusterBoard.Web.Client

/-!
# Reports

A report is polled again and again. It keeps what it last loaded, so that a failed fetch shows the
same data under a message. Each poll is a step: the reply goes in, the new state and what is shown
come out. `pollFrom` is the step that also asks the server.
-/

namespace ClusterBoard

open Web

/-- What a poll shows, and why there is nothing fresh if the fetch failed. -/
structure Rendered where
  output : String
  error : Option FetchError
  deriving Repr

/-- What a jobs report is to show. -/
structure JobsOptions where
  scope : JobScope
  /-- The user to show instead of the one with the most nodes. -/
  user : Option String
  page : Option Nat
  html : Bool
  deriving Repr

/-- The message of a failed fetch. -/
def failureNote (error : Option FetchError) : Option String := error.map fun _ => fetchFailedMessage

/-- The jobs that a report shows. -/
structure JobsReport where
  pager : Pager
  view : PageView
  deriving Repr

namespace JobsReport

/-- Nothing loaded. -/
def initial : JobsReport := ⟨.initial, .blank 1⟩

/-- Fresh jobs, shown as the options ask for. -/
def load (options : JobsOptions) (jobs : Collection JobRecord) : JobsReport :=
  let pager := Pager.ofJobs jobs
  let pager :=
    match options.user with
    | some user => pager.select user
    | none => pager
  let pager :=
    match options.page with
    | some page => pager.atPage page
    | none => pager
  ⟨pager, pager.view⟩

/-- The report with the message of a failed fetch, if there is one. -/
def render (options : JobsOptions) (client : Client) (report : JobsReport)
    (message : Option String) : String :=
  let nav := report.pager.navigation
  let focused := report.pager.user
  if options.html then Page.jobsDocument nav focused report.view message
  else
    ((message.map Terminal.fetchErrorText).getD "") ++
      Terminal.jobsPageText client.resolve nav focused report.view

/-- One poll. -/
def poll (options : JobsOptions) (client : Client) (report : JobsReport) (reply : Reply) :
    JobsReport × Rendered :=
  let (report, error) :=
    match client.fetchJobs options.scope reply with
    | .ok jobs => (load options jobs, none)
    | .error e => (report, some e)
  (report, ⟨render options client report (failureNote error), error⟩)

/-- One poll that asks the server for the jobs. -/
def pollFrom {m : Type → Type} [Monad m] (server : Url → m Reply) (options : JobsOptions)
    (client : Client) (report : JobsReport) : m (JobsReport × Rendered) := do
  let reply ← server (client.jobsUrl options.scope)
  return poll options client report reply

end JobsReport

/-- The nodes that a report shows. -/
structure NodesReport where
  table : NodeTable
  deriving Repr

namespace NodesReport

/-- Nothing loaded. -/
def initial : NodesReport := ⟨.empty⟩

/-- The report with the message of a failed fetch, if there is one. -/
def render (html : Bool) (report : NodesReport) (message : Option String) : String :=
  if html then Page.nodesDocument report.table message
  else ((message.map Terminal.fetchErrorText).getD "") ++ Terminal.nodesText report.table

/-- One poll. -/
def poll (html : Bool) (client : Client) (report : NodesReport) (reply : Reply) :
    NodesReport × Rendered :=
  let (report, error) :=
    match client.fetchNodes reply with
    | .ok nodes => ((⟨.ofNodes nodes⟩ : NodesReport), none)
    | .error e => (report, some e)
  (report, ⟨render html report (failureNote error), error⟩)

/-- One poll that asks the server for the nodes. -/
def pollFrom {m : Type → Type} [Monad m] (server : Url → m Reply) (html : Bool) (client : Client)
    (report : NodesReport) : m (NodesReport × Rendered) := do
  let reply ← server client.nodesUrl
  return poll html client report reply

end NodesReport

end ClusterBoard
