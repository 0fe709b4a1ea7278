import ClusterBoard.Web.Url.Basic

/-!
# Authorities of URLs

An authority is read from the text between the two slashes and the path: a user name and a password
before the last `@`, then the host, then the port.
-/

namespace ClusterBoard.Web

namespace Url

/-- Whether a character ends the authority. -/
def endsAuthority (kind : SchemeKind) (c : Char) : Bool :=
  c == '/' || endsPath c || (kind.isSpecial && c == '\\')

/-- The text before and after the last `@`, if there is one. -/
def splitLastAt (cs : List Char) : Option (List Char × List Char) :=
  let after := (cs.reverse.takeWhile (· != '@')).reverse
  if after.length < cs.length then some (cs.take (cs.length - after.length - 1), after) else none

/-- The user name and the password of the text before the `@`. -/
def userinfo (cs : List Char) : String × Option String :=
  let encode (cs : List Char) : String := String.ofList (Percent.encode Percent.userinfoSet cs)
  let user := cs.takeWhile (· != ':')
  match cs.dropWhile (· != ':') with
  | _ :: password => (encode user, if password.isEmpty then none else some (encode password))
  | [] => (encode user, none)

/-- The text of the host, up to a colon outside brackets, and the rest. -/
def splitHost : Bool → List Char → List Char × List Char
  | _, [] => ([], [])
  | bracket, c :: rest =>
    if c = ':' ∧ bracket = false then ([], c :: rest)
    else
      let bracket := if c = '[' then true else if c = ']' then false else bracket
      let (host, rest) := splitHost bracket rest
      (c :: host, rest)

/-- A port, if one is given; it has sixteen bits. -/
def port? (scheme : String) (cs : List Char) : Except UrlError (Option Nat) :=
  if cs.any (!·.isDigit) then .error .invalidPort
  else
    let n := cs.foldl (fun n c => 10 * n + (c.toNat - '0'.toNat)) 0
    if Nat.pow 2 16 ≤ n then .error .invalidPort
    else if cs.isEmpty || defaultPort? scheme = some n then .ok none
    else .ok (some n)

/-- The host and the port of a text without user name, and what follows them: a backslash ends the
port. -/
def hostAndPort (scheme : String) (cs : List Char) :
    Except UrlError ((Option Host × Option Nat) × List Char) := do
  let (hostText, rest) := splitHost false cs
  let kind := SchemeKind.ofScheme scheme
  if hostText.isEmpty then
    if kind = .special || !rest.isEmpty then .error .emptyHost else .ok ((none, none), [])
  else
    let host ← if kind.isSpecial then Host.parse hostText else Host.parseKept hostText
    let port ← port? scheme ((rest.drop 1).takeWhile (· != '\\'))
    .ok ((some host, port), rest.dropWhile (· != '\\'))

/-- The authority of the text between the two slashes and the path, and what of it belongs to the
path. -/
def authorityOf (scheme : String) (cs : List Char) : Except UrlError (Authority × List Char) := do
  match splitLastAt cs with
  | none =>
    let ((host, port), rest) ← hostAndPort scheme cs
    .ok (⟨"", none, host, port⟩, rest)
  | some (before, after) =>
    let (user, password) := userinfo before
    let ((host, port), rest) ← hostAndPort scheme after
    if host.isNone && !(user == "" && password.isNone) then .error .emptyHost
    else .ok (⟨user, password, host, port⟩, rest)

end Url

end ClusterBoard.Web
