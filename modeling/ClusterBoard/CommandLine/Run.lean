import ClusterBoard.CommandLine.Arguments
import ClusterBoard.CommandLine.Failure
import ClusterBoard.Report
import ClusterBoard.Settings.Load
import ClusterBoard.Terminal.Capabilities

/-!
# Running a command

`plan` turns the words of the command line into a task, or into the outcome if there is nothing left
to do; `Plan.once` carries a task out, given what the server replies. What a task needs from outside
comes in as `Surroundings`, what it does outside goes out as an `Outcome`.
-/

namespace ClusterBoard.CommandLine

open Web

/-- What the program finds around it. -/
structure Surroundings where
  environment : Environment
  /-- The settings files, the first one first. -/
  settingsFiles : List (String × FileContent)
  /-- Why a file of a path cannot be written, if it cannot. -/
  refusal? : String → Option String
  terminal : Terminal.Capabilities

/-- What the program does. -/
structure Outcome where
  exitCode : Nat
  out : String
  err : String
  /-- The path and the content of a file that is written. -/
  written : Option (String × String)
  deriving DecidableEq, Repr

namespace Outcome

/-- The program prints a text. -/
def printed (text : String) : Outcome := ⟨0, text, "", none⟩

/-- The program writes a file. -/
def stored (path content : String) : Outcome := ⟨0, "", "", some (path, content)⟩

/-- The program fails. -/
def failed (message : String) (causes : List String) : Outcome :=
  ⟨1, "", Failure.text ⟨message, causes⟩, none⟩

/-- A file of a path cannot be written. -/
def unwritable (path reason : String) : Outcome :=
  .failed s!"Failed to write output to '{path}'" [reason]

/-- The outcome with lines on the error stream before its own. -/
def after (notes : List String) (o : Outcome) : Outcome :=
  { o with err := String.join notes ++ o.err }

end Outcome

/-- What is to be done. -/
inductive Task where
  | jobs (options : JobsOptions) (target : Option String) (interval : Option Nat)
  | nodes (html : Bool) (target : Option String) (interval : Option Nat)
  | job (id : String)
  | node (name : String)
  /-- Showing the board in the terminal. -/
  | board (scope : JobScope)
  deriving Repr

/-- A task with the settings and the server for it. -/
structure Plan where
  settings : Settings
  warnings : List String
  client : Client
  task : Task
  deriving Repr

/-- The outcome of a reading that ended before its time. -/
def Stop.outcome : Stop → Outcome
  | .help level long => .printed (helpText level long)
  | .version => .printed versionText
  | .misuse level m => ⟨2, "", m.message level, none⟩

/-- The interval between refreshes, if it is not zero. -/
def refreshInterval (c : Choices) : Option Nat := c.watch.filter (· != 0)

/-- The task of a request, given the scope that holds where none is asked for. -/
def taskOf (request : Request) (usual : JobScope) : Task :=
  let c := request.choices
  match request.command with
  | some .jobs =>
    .jobs ⟨c.scope.getD usual, c.user, c.page, c.html⟩ c.output (refreshInterval c)
  | some .nodes => .nodes c.html c.output (refreshInterval c)
  | some .job => .job (c.argument.getD "")
  | some .node => .node (c.argument.getD "")
  | some .tui => .board (c.scope.getD usual)
  | some .help | none => .jobs ⟨usual, none, none, false⟩ none none

/-- The obstacle to showing the board, if there is one. -/
def boardObstacle? (around : Surroundings) (settings : Settings) : Option Outcome :=
  let logTrouble : Option Outcome := do
    let path ← settings.logFile
    let reason ← around.refusal? path
    some (.failed s!"Failed to open log file '{path}'" [reason])
  logTrouble <|>
    if around.terminal.isSuitable then none else some (.failed around.terminal.complaint [])

/-- The plan for the words of the command line, or the outcome if they leave nothing to do. -/
def plan (around : Surroundings) (words : List String) : Except Outcome Plan := do
  let request ← (readArguments words).mapError Stop.outcome
  let (settings, warnings) ← (Settings.load around.settingsFiles around.environment).mapError
    fun e => Outcome.failed "Failed to load configuration" [e.message]
  let address := request.choices.server.getD settings.baseUrl
  let client ← (Client.ofAddress address).mapError
    fun e => Outcome.failed "Invalid server configuration" [e.message]
  let usual := (JobScope.ofName? settings.jobScope).getD .active
  let task := taskOf request usual
  match task with
  | .board _ =>
    match boardObstacle? around settings with
    | some outcome => .error outcome
    | none => .ok ⟨settings, warnings, client, task⟩
  | _ => .ok ⟨settings, warnings, client, task⟩

namespace Plan

/-- The lines that tell of the warnings. -/
def warningLines (p : Plan) : List String := p.warnings.map fun w => s!"Warning: {w}\n"

/-- The URL that the task asks for. -/
def url (p : Plan) : Url :=
  match p.task with
  | .jobs options _ _ => p.client.jobsUrl options.scope
  | .nodes _ _ _ => p.client.nodesUrl
  | .job id => p.client.jobUrl id
  | .node name => p.client.nodeUrl name
  | .board scope => p.client.jobsUrl scope

/-- A report brought to where it belongs. -/
def deliver (around : Surroundings) (target : Option String) (output : String) : Outcome :=
  match target with
  | none => .printed (output ++ "\n")
  | some path =>
    match around.refusal? path with
    | some reason => .unwritable path reason
    | none => .stored path output

/-- One round of a report. A failed fetch is part of a document, and of what is shown again and
again; it ends anything else. -/
def report (p : Plan) (around : Surroundings) (html : Bool) (target : Option String)
    (interval : Option Nat) (rendered : Rendered) : Outcome :=
  match rendered.error, html || interval.isSome with
  | some e, false => .failed fetchFailedMessage (fetchCauses p.url e)
  | _, _ => deliver around target rendered.output

/-- One record in detail. -/
def details {α : Type} (p : Plan) (what : String) (render : α → String) :
    Except FetchError α → Outcome
  | .ok record => .printed (render record ++ "\n")
  | .error e => .failed s!"Failed to fetch {what}" (fetchCauses p.url e)

/-- Carries the task out, once. -/
def once (p : Plan) (around : Surroundings) (reply : Reply) : Outcome :=
  let outcome :=
    match p.task with
    | .jobs options target interval =>
      p.report around options.html target interval
        (JobsReport.poll options p.client .initial reply).2
    | .nodes html target interval =>
      p.report around html target interval (NodesReport.poll html p.client .initial reply).2
    | .job id =>
      p.details s!"job {id}" (Terminal.jobDetailsText p.client.resolve)
        (p.client.fetchJob id reply)
    | .node name =>
      p.details s!"node {name}" Terminal.nodeDetailsText (p.client.fetchNode name reply)
    | .board _ => .printed ""
  outcome.after p.warningLines

end Plan

/-- Runs the program once, with the server's reply to each URL. -/
def run (around : Surroundings) (server : Url → Reply) (words : List String) : Outcome :=
  match plan around words with
  | .ok p => p.once around (server p.url)
  | .error outcome => outcome

end ClusterBoard.CommandLine
