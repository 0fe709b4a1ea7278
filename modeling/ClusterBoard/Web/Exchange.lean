import ClusterBoard.Web.Client

/-!
# What is sent and received

A request is a line with the wanted target and a few header lines. The answer is a line with the
status, header lines, an empty line, and the body up to the end of the connection.
-/

namespace ClusterBoard.Web

namespace Url

/-- What a request asks the host for: the path and the query. -/
def target (u : Url) : String :=
  String.ofList u.path.text ++ ((u.query.map fun q => "?" ++ q).getD "")

/-- The host and the port to connect to. Only connections in clear text can be made. -/
def destination? (u : Url) : Option (Host × Nat) := do
  guard (u.scheme = "http")
  let a ← u.authority
  let host ← a.host
  some (host, a.port.getD 80)

end Url

/-- The name by which a host is looked up. -/
def Host.lookupName : Host → String
  | .ipv6 pieces => String.ofList (ipv6Text pieces)
  | host => String.ofList host.text

/-- The text of a request. The version makes the body end with the connection. -/
def requestText (url : Url) (host : Host) : String :=
  s!"GET {url.target} HTTP/1.0\r\nHost: {String.ofList host.text}\r\nAccept: */*\r\n\r\n"

/-- The place behind the first empty line, among the next `count` places. -/
def bodyStart? (bytes : ByteArray) (start : Nat) : Nat → Option Nat
  | 0 => none
  | count + 1 =>
    if bytes.extract start (start + 4) = "\r\n\r\n".toUTF8 then some (start + 4)
    else bodyStart? bytes (start + 1) count

/-- The status that the first line of an answer gives. -/
def statusOf? (head : String) : Option Nat :=
  match Text.splitOn ' ' head.toList with
  | _ :: code :: _ => (String.ofList (code.takeWhile Char.isDigit)).toNat?
  | _ => none

/-- The reply in what was received. -/
def readAnswer (bytes : ByteArray) : Reply :=
  let reply : Option Reply := do
    let start ← bodyStart? bytes 0 bytes.size
    let head ← String.fromUTF8? (bytes.extract 0 start)
    let status ← statusOf? head
    some (.answer status (bytes.extract start bytes.size))
  reply.getD .none

end ClusterBoard.Web
