import ClusterBoard.Settings.File
import ClusterBoard.Text.Blank

/-!
# Loading the settings

Files come first, one after the other, then environment variables, then a check of the result. In
lenient mode whatever is wrong becomes a warning and gives way to a usable value; in strict mode it
is an error.
-/

namespace ClusterBoard

/-- What is found at the path of a settings file. -/
inductive FileContent where
  | absent
  | unreadable
  | text (content : String)
  deriving DecidableEq, Repr

/-- The environment of the program. -/
abbrev Environment := String → Option String

namespace Settings

/-- A result with the warnings on the way to it. -/
abbrev Warned (α : Type) := α × List String

/-- The shortest time that can be set, in seconds. -/
def leastSeconds : Nat := 1

/-- The name of the settings file under a settings directory. -/
def fileName : String := "jobdash/config.toml"

/-- The path of the user's settings file. -/
def userPath? (env : Environment) : Option String :=
  match env "XDG_CONFIG_HOME" with
  | some dir => if dir = "" then home? else some (dir ++ "/" ++ fileName)
  | none => home?
where
  home? : Option String := (env "HOME").map fun home => home ++ "/.config/" ++ fileName

/-- Whether what is wrong is to be an error. -/
def isStrict (env : Environment) : Bool :=
  match env "JOBDASH_STRICT_CONFIG" with
  | some value => value = "1" || value.map Char.toLower = "true"
  | none => false

/-- In strict mode the error; otherwise the warning, which leaves the value as it is. -/
def report {α : Type} (strict : Bool) (error : SettingsError) (warning : String) (value : α) :
    Except SettingsError (Warned α) :=
  if strict then .error error else .ok (value, [warning])

/-- One settings file on top of what is set so far. -/
def loadFile (strict : Bool) (settings : Settings) (path : String) (content : FileContent) :
    Except SettingsError (Warned Settings) :=
  match content with
  | .absent => .ok (settings, [])
  | .unreadable =>
    let error := SettingsError.read path
    report strict error error.message settings
  | .text text =>
    match ofText? text with
    | some later => .ok (settings.merge later, [])
    | none =>
      let error := SettingsError.parse path
      report strict error error.message settings

/-- A number of seconds that is long enough, or why a text is none. -/
def readSeconds (value : String) : Except String Nat :=
  match Text.unsigned64? value with
  | some n =>
    if leastSeconds ≤ n then .ok n else .error s!"must be at least {leastSeconds} second(s)"
  | none => .error "expected a positive integer (seconds)"

/-- A number of seconds from the environment, put in its place by `set`. -/
def overrideSeconds (strict : Bool) (env : Environment) (name : String)
    (set : Settings → Nat → Settings) (settings : Settings) :
    Except SettingsError (Warned Settings) :=
  match env name with
  | none => .ok (settings, [])
  | some value =>
    match readSeconds value with
    | .ok n => .ok (set settings n, [])
    | .error reason =>
      let error := SettingsError.env name value reason
      report strict error (error.message ++ " - using default") settings

/-- The server's address from the environment, unless it is empty. -/
def overrideServer (env : Environment) (settings : Settings) : Settings :=
  match env "JOBDASH_SERVER" with
  | some value => if value = "" then settings else { settings with baseUrl := value }
  | none => settings

/-- The theme from the environment. -/
def overrideTheme (env : Environment) (settings : Settings) : Settings :=
  match env "JOBDASH_THEME" with
  | some value => { settings with theme := value }
  | none => settings

/-- What the environment sets. -/
def applyEnvironment (strict : Bool) (env : Environment) (settings : Settings) :
    Except SettingsError (Warned Settings) := do
  let settings := overrideServer env settings
  let (settings, first) ← overrideSeconds strict env "JOBDASH_TIMEOUT"
    (fun s n => { s with timeoutSecs := n }) settings
  let (settings, second) ← overrideSeconds strict env "JOBDASH_REFRESH_JOBS"
    (fun s n => { s with jobsInterval := n }) settings
  let (settings, third) ← overrideSeconds strict env "JOBDASH_REFRESH_NODES"
    (fun s n => { s with nodesInterval := n }) settings
  .ok (overrideTheme env settings, first ++ second ++ third)

/-- A value that is large enough, or the standard one. -/
def checkLeast (strict : Bool) (field : String) (value standard : Nat) :
    Except SettingsError (Warned Nat) :=
  if leastSeconds ≤ value then .ok (value, [])
  else
    let message := s!"{field} must be at least {leastSeconds} second(s), got {value}"
    report strict (.invalid message) (message ++ s!" - using default ({standard})") standard

/-- Whether an address is one of the web. -/
def isWebAddress (address : String) : Bool :=
  let cs := Text.trim address.toList
  "http://".toList.isPrefixOf cs || "https://".toList.isPrefixOf cs

/-- An address of the web, or the standard one. -/
def checkAddress (strict : Bool) (address : String) : Except SettingsError (Warned String) :=
  if isWebAddress address then .ok (address, [])
  else
    let message := s!"server.base_url must start with http:// or https://, got '{address}'"
    report strict (.invalid message) (message ++ s!" - using default ({standard.baseUrl})")
      standard.baseUrl

/-- A check of settings where they stand: its warnings or why it fails, and the settings as it
leaves them. What was replaced before a check fails stays replaced. -/
abbrev Check := Settings → Except SettingsError (List String) × Settings

namespace Check

/-- The check of a field. The value that the check gives takes the place of the value found. -/
def field {α : Type} (get : Settings → α) (set : Settings → α → Settings)
    (check : α → Except SettingsError (Warned α)) : Check := fun settings =>
  match check (get settings) with
  | .ok (value, warnings) => (.ok warnings, set settings value)
  | .error error => (.error error, settings)

/-- Checks one after the other, up to the first that fails. -/
def all : List Check → Check
  | [] => fun settings => (.ok [], settings)
  | check :: rest => fun settings =>
    match check settings with
    | (.ok warnings, settings) =>
      let (outcome, settings) := all rest settings
      (outcome.map (warnings ++ ·), settings)
    | (.error error, settings) => (.error error, settings)

/-- What a check makes of settings, if it does not fail. -/
def result (check : Check) (settings : Settings) : Except SettingsError (Warned Settings) :=
  (check settings).1.map ((check settings).2, ·)

end Check

/-- The checks of the settings: the server's first, then those of the refreshes. -/
def checks (strict : Bool) : List Check :=
  [.field timeoutSecs (fun s n => { s with timeoutSecs := n }) fun n =>
      checkLeast strict "server.timeout_secs" n standard.timeoutSecs,
    .field baseUrl (fun s address => { s with baseUrl := address }) (checkAddress strict),
    .field jobsInterval (fun s n => { s with jobsInterval := n }) fun n =>
      checkLeast strict "refresh.jobs_interval" n standard.jobsInterval,
    .field nodesInterval (fun s n => { s with nodesInterval := n }) fun n =>
      checkLeast strict "refresh.nodes_interval" n standard.nodesInterval]

/-- The check of all settings where they stand. In lenient mode what cannot be used is replaced. -/
def validateInPlace (strict : Bool) : Check := .all (checks strict)

/-- The settings with what cannot be used replaced. -/
def validate (strict : Bool) (settings : Settings) : Except SettingsError (Warned Settings) :=
  (validateInPlace strict).result settings

/-- Files on top of what is set so far. -/
def loadFiles (strict : Bool) (settings : Settings) :
    List (String × FileContent) → Except SettingsError (Warned Settings)
  | [] => .ok (settings, [])
  | (path, content) :: rest => do
    let (settings, first) ← loadFile strict settings path content
    let (settings, more) ← loadFiles strict settings rest
    .ok (settings, first ++ more)

/-- The settings of files and an environment, in strict mode or not. -/
def loadIn (strict : Bool) (files : List (String × FileContent)) (env : Environment) :
    Except SettingsError (Warned Settings) := do
  let (settings, first) ← loadFiles strict standard files
  let (settings, second) ← applyEnvironment strict env settings
  let (settings, third) ← validate strict settings
  .ok (settings, first ++ second ++ third)

/-- The settings of files and an environment, in the mode that the environment asks for. -/
def load (files : List (String × FileContent)) (env : Environment) :
    Except SettingsError (Warned Settings) := loadIn (isStrict env) files env

end Settings

end ClusterBoard
