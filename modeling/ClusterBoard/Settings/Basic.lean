/-!
# Settings

What can be set, and the values that hold where nothing is set.
-/

namespace ClusterBoard

/-- The settings of the program. -/
structure Settings where
  /-- The address of the server. -/
  baseUrl : String
  /-- How long a request may take, in seconds. -/
  timeoutSecs : Nat
  /-- Whether the board fetches by itself now and then. -/
  autoRefresh : Bool
  /-- The seconds between two fetches of the jobs. -/
  jobsInterval : Nat
  /-- The seconds between two fetches of the nodes. -/
  nodesInterval : Nat
  /-- The view that is shown at first. -/
  defaultView : String
  theme : String
  /-- The jobs that are fetched where nothing else is asked for. -/
  jobScope : String
  /-- Where the board's log goes, if anywhere. -/
  logFile : Option String
  deriving DecidableEq, Repr

namespace Settings

/-- The settings where nothing is set. -/
def standard : Settings :=
  { baseUrl := "http://localhost:8080"
    timeoutSecs := 10
    autoRefresh := false
    jobsInterval := 30
    nodesInterval := 60
    defaultView := "jobs"
    theme := "dark"
    jobScope := "active"
    logFile := none }

instance : Inhabited Settings := ⟨standard⟩

end Settings

/-- Why settings cannot be used. -/
inductive SettingsError where
  | parse (path : String)
  | read (path : String)
  | env (name value reason : String)
  | invalid (message : String)
  deriving DecidableEq, Repr

/-- The error in words. For a file that cannot be read or parsed the program goes on with a colon
and the text of the cause, in the words of the system or of the parser; this is left out here. -/
def SettingsError.message : SettingsError → String
  | .parse path => s!"failed to parse config file '{path}'"
  | .read path => s!"could not read config file '{path}'"
  | .env name value reason => s!"invalid value '{value}' for {name}: {reason}"
  | .invalid message => message

end ClusterBoard
