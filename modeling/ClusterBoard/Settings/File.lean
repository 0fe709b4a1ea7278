import ClusterBoard.Settings.Basic
import ClusterBoard.Toml.Document

/-!
# Settings of a file

A file has the sections `server`, `refresh`, `display` and `logging`. What a section leaves out has
its standard value, keys with other names are ignored, and a value of the wrong kind makes the whole
file unreadable. A section may also be an array of its values in the order of its fields, and a
date or a time stands for a section that says nothing.
-/

namespace ClusterBoard

namespace Settings

open Toml

/-- The values of a section, by the names of its fields. -/
def sectionEntries? (fields : List String) : Option Item → Option Entries
  | none => some []
  | some (.table _ entries) => some entries
  | some (.inline entries) => some entries
  | some (.array items) => some (fields.zip items)
  | some (.tables list) => some (fields.zip (list.map (.table .header)))
  | some .datetime => some []
  | some _ => none

/-- The text of a key, or the standard value. -/
def stringOr? (entries : Entries) (key standard : String) : Option String :=
  match entries.get? key with
  | none => some standard
  | some (.string text) => some text
  | some _ => none

/-- The number of a key, or the standard value. -/
def natOr? (entries : Entries) (key : String) (standard : Nat) : Option Nat :=
  match entries.get? key with
  | none => some standard
  | some (.integer n) => if 0 ≤ n then some n.toNat else none
  | some _ => none

/-- The truth value of a key, or the standard value. -/
def boolOr? (entries : Entries) (key : String) (standard : Bool) : Option Bool :=
  match entries.get? key with
  | none => some standard
  | some (.boolean b) => some b
  | some _ => none

/-- The text of a key, if it is there. -/
def optionalString? (entries : Entries) (key : String) : Option (Option String) :=
  match entries.get? key with
  | none => some none
  | some (.string text) => some (some text)
  | some _ => none

/-- The settings of a file's table. -/
def ofEntries? (entries : Entries) : Option Settings := do
  let server ← sectionEntries? ["base_url", "timeout_secs"] (entries.get? "server")
  let refresh ←
    sectionEntries? ["auto_refresh", "jobs_interval", "nodes_interval"] (entries.get? "refresh")
  let display ← sectionEntries? ["default_view", "theme", "job_scope"] (entries.get? "display")
  let logging ← sectionEntries? ["file"] (entries.get? "logging")
  some
    { baseUrl := ← stringOr? server "base_url" standard.baseUrl
      timeoutSecs := ← natOr? server "timeout_secs" standard.timeoutSecs
      autoRefresh := ← boolOr? refresh "auto_refresh" standard.autoRefresh
      jobsInterval := ← natOr? refresh "jobs_interval" standard.jobsInterval
      nodesInterval := ← natOr? refresh "nodes_interval" standard.nodesInterval
      defaultView := ← stringOr? display "default_view" standard.defaultView
      theme := ← stringOr? display "theme" standard.theme
      jobScope := ← stringOr? display "job_scope" standard.jobScope
      logFile := ← optionalString? logging "file" }

/-- The settings of a file's text. -/
def ofText? (text : String) : Option Settings := (Toml.parse? text).bind ofEntries?

/-- A later file replaces an earlier one; only its missing log file leaves the earlier one. -/
def merge (earlier later : Settings) : Settings :=
  { later with logFile := later.logFile.or earlier.logFile }

end Settings

end ClusterBoard
