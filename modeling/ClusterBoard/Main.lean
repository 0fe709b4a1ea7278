import ClusterBoard.CommandLine.Run
import ClusterBoard.CommandLine.Watch
import ClusterBoard.Web.Exchange
import Std.Async.DNS
import Std.Async.TCP
import Std.Time.DateTime.Timestamp

/-!
# The program

The outer layer: it reads what the plan needs from outside, asks the server, and does what the
outcome says. Keys cannot be read one by one here, so no terminal counts as interactive.
-/

namespace ClusterBoard.Program

open CommandLine Web

/-- The variables of the environment that matter. -/
def variableNames : List String :=
  ["HOME", "XDG_CONFIG_HOME", "TERM", "JOBDASH_STRICT_CONFIG", "JOBDASH_SERVER", "JOBDASH_TIMEOUT",
    "JOBDASH_REFRESH_JOBS", "JOBDASH_REFRESH_NODES", "JOBDASH_THEME"]

/-- The settings file of the whole system. -/
def systemPath : String := "/etc/jobdash/config.toml"

/-- The environment as it is. -/
def readEnvironment : IO Environment := do
  let values ← variableNames.mapM fun name => do return (name, ← IO.getEnv name)
  return fun name => (values.lookup name).join

/-- What is at a path. -/
def readContent (path : String) : IO FileContent := do
  try
    return .text (← IO.FS.readFile path)
  catch
    | .noFileOrDirectory _ _ _ => return .absent
    | _ => return .unreadable

/-- What surrounds the program. Whether a file can be written shows when it is written. -/
def readSurroundings : IO Surroundings := do
  let environment ← readEnvironment
  let paths := systemPath :: (Settings.userPath? environment).toList
  let settingsFiles ← paths.mapM fun path => do return (path, ← readContent path)
  return {
    environment
    settingsFiles
    refusal? := fun _ => none
    terminal := .ofKind false ((environment "TERM").getD "") }

open Std.Async Std.Net in
/-- All that comes until the other side ends. -/
partial def receiveAll (socket : TCP.Socket.Client) (received : ByteArray) : Async ByteArray := do
  match ← socket.recv? 65536 with
  | some bytes => receiveAll socket (received ++ bytes)
  | none => return received

open Std.Async Std.Net in
/-- Asks one address. -/
def ask (address : IPAddr) (port : UInt16) (request : String) : Async ByteArray := do
  let socket ← TCP.Socket.Client.mk
  match address with
  | .v4 addr => socket.connect (.v4 ⟨addr, port⟩)
  | .v6 addr => socket.connect (.v6 ⟨addr, port⟩)
  socket.send request.toUTF8
  receiveAll socket ByteArray.empty

/-- Asks the server for a URL. Whatever goes wrong on the way means that there is no answer. -/
def askServer (url : Url) : IO Reply := do
  match url.destination? with
  | none => return .none
  | some (host, port) =>
    try
      let addresses ← (Std.Async.DNS.getAddrInfo host.lookupName (toString port)).block
      match addresses[0]? with
      | none => return .none
      | some address =>
        return readAnswer (← (ask address port.toUInt16 (requestText url host)).block)
    catch _ => return .none

/-- Does what an outcome says. -/
def perform (o : Outcome) : IO UInt32 := do
  IO.eprint o.err
  IO.print o.out
  (← IO.getStdout).flush
  match o.written with
  | none => return o.exitCode.toUInt32
  | some (path, content) =>
    try
      IO.FS.writeFile path content
      return o.exitCode.toUInt32
    catch e =>
      IO.eprint (Outcome.unwritable path (toString e)).err
      return 1

/-- Shows a round of a report that is made again and again. -/
def performRound (target : Option String) (interval : Nat) (output : String) : IO UInt32 := do
  match target with
  | some path => perform (.stored path output)
  | none =>
    let now ← Std.Time.Timestamp.now
    perform (.printed (watchText output now.toSecondsSinceUnixEpoch.val interval))

/-- Polls a report for ever, or until its output cannot be written. -/
partial def watch {α : Type} (target : Option String) (interval : Nat)
    (poll : α → IO (α × Rendered)) (report : α) : IO UInt32 := do
  let (report, rendered) ← poll report
  let code ← performRound target interval rendered.output
  if code = 0 then
    IO.sleep (interval / 1000000).toUInt32
    watch target interval poll report
  else return code

/-- Carries a plan out. -/
def carryOut (around : Surroundings) (p : Plan) : IO UInt32 := do
  match p.task with
  | .jobs options target (some interval) =>
    IO.eprint (String.join p.warningLines)
    watch target interval (JobsReport.pollFrom askServer options p.client) .initial
  | .nodes html target (some interval) =>
    IO.eprint (String.join p.warningLines)
    watch target interval (NodesReport.pollFrom askServer html p.client) .initial
  | _ => perform (p.once around (← askServer p.url))

end ClusterBoard.Program

open ClusterBoard in
/-- Runs the program on the words of the command line. -/
def main (words : List String) : IO UInt32 := do
  let around ← Program.readSurroundings
  match CommandLine.plan around words with
  | .ok p => Program.carryOut around p
  | .error outcome => Program.perform outcome
