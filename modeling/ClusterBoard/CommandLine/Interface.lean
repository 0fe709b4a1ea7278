import ClusterBoard.Web.Client

/-!
# Commands and options

What can be written on the command line. At the top `Level` stand a few options and a command; each
command is a level of its own, with its options, those that hold everywhere, and at most one
argument.
-/

namespace ClusterBoard.CommandLine

/-- The name by which the program is called. -/
def programName : String := "jobdash"

/-- The version of the program. -/
def programVersion : String := "0.1.0"

/-- The commands, in the order in which they are listed. -/
inductive Command where
  | jobs
  | nodes
  | job
  | node
  | tui
  | help
  deriving DecidableEq, Repr

namespace Command

/-- All commands. -/
def all : List Command := [.jobs, .nodes, .job, .node, .tui, .help]

/-- The command's name. -/
def name : Command → String
  | .jobs => "jobs"
  | .nodes => "nodes"
  | .job => "job"
  | .node => "node"
  | .tui => "tui"
  | .help => "help"

/-- All names that call the command. -/
def names : Command → List String
  | .tui => ["tui", "ui"]
  | c => [c.name]

/-- What the command does. -/
def about : Command → String
  | .jobs => "Show jobs grouped by user, one page at a time"
  | .nodes => "Show node specs and statuses"
  | .job => "Show detailed information for a specific job"
  | .node => "Show detailed information for a specific node"
  | .tui => "Launch interactive TUI mode"
  | .help => "Print this message or the help of the given subcommand(s)"

/-- The command of a name. -/
def ofName? (name : String) : Option Command := all.find? fun c => c.names.contains name

end Command

/-- The options. -/
inductive Flag where
  | server
  | verbose
  | scope
  | user
  | page
  | html
  | output
  | watch
  | help
  | version
  deriving DecidableEq, Repr

namespace Flag

/-- The option's long name. -/
def long : Flag → String
  | .server => "server"
  | .verbose => "verbose"
  | .scope => "scope"
  | .user => "user"
  | .page => "page"
  | .html => "html"
  | .output => "output"
  | .watch => "watch"
  | .help => "help"
  | .version => "version"

/-- The option's letter, if it has one. -/
def short? : Flag → Option Char
  | .server => some 's'
  | .verbose => some 'v'
  | .user => some 'u'
  | .page => some 'p'
  | .output => some 'o'
  | .watch => some 'w'
  | .help => some 'h'
  | .version => some 'V'
  | .scope | .html => none

/-- What the option's value stands for; `none` for an option without a value. -/
def valueName? : Flag → Option String
  | .server => some "URL"
  | .scope => some "SCOPE"
  | .user => some "USER"
  | .page => some "PAGE"
  | .output => some "FILE"
  | .watch => some "SECONDS"
  | .verbose | .html | .help | .version => none

/-- The values among which to choose, with what each means. -/
def choices : Flag → List (String × String)
  | .scope =>
    [(Web.JobScope.active.name, "Jobs that have not finished"),
      (Web.JobScope.running.name, "Jobs currently running"),
      (Web.JobScope.all.name, "Every job the server knows")]
  | _ => []

/-- The option as it is written, with its value. -/
def spelling (o : Flag) : String :=
  match o.valueName? with
  | some value => s!"--{o.long} <{value}>"
  | none => s!"--{o.long}"

end Flag

/-- Where on the command line an option stands: before the command (`none`) or after it. -/
abbrev Level := Option Command

namespace Level

/-- The options that belong to the level itself. -/
def ownFlags : Level → List Flag
  | none => [.server, .verbose]
  | some .jobs => [.scope, .user, .page, .html, .output, .watch]
  | some .nodes => [.html, .output, .watch]
  | some .tui => [.scope]
  | some .job | some .node | some .help => []

/-- All options of the level. -/
def flags : Level → List Flag
  | none => ownFlags none ++ [.help, .version]
  | some .help => []
  | some c => ownFlags (some c) ++ [.server, .verbose, .help]

/-- What the level's one argument stands for. -/
def argumentName? : Level → Option String
  | some .job => some "JOB_ID"
  | some .node => some "NAME"
  | _ => none

/-- What the level's argument is. -/
def argumentAbout : Level → String
  | some .job => "Job ID to inspect"
  | some .node => "Node name to inspect"
  | _ => "Print help for the subcommand(s)"

/-- The commands of the level. -/
def commands : Level → List Command
  | none => Command.all
  | some _ => []

/-- The command that a name calls at the level. -/
def command? (level : Level) (name : String) : Option Command :=
  level.commands.find? fun c => c.names.contains name

/-- What the program or the command does. -/
def about : Level → String
  | none => "Read-only dashboard for cluster jobs and nodes"
  | some c => c.about

/-- The words that lead to the level. -/
def path : Level → String
  | none => programName
  | some c => s!"{programName} {c.name}"

end Level

end ClusterBoard.CommandLine
