import ClusterBoard.Web.Host

/-!
# URLs

A URL is kept part by part, every part in its written form, so `Url.text` only puts the parts
together. The schemes of the web are special: they have a host and a path, and a backslash counts as
a slash.
-/

namespace ClusterBoard.Web

/-- What a scheme says about the rest of the URL. -/
inductive SchemeKind where
  | special
  | file
  | other
  deriving DecidableEq, Repr

namespace SchemeKind

/-- The kind of a scheme. -/
def ofScheme (scheme : String) : SchemeKind :=
  if scheme = "file" then .file
  else if ["http", "https", "ws", "wss", "ftp"].contains scheme then .special
  else .other

/-- Whether a backslash counts as a slash. -/
def isSpecial (kind : SchemeKind) : Bool := kind != .other

end SchemeKind

/-- The port that a scheme has by itself. -/
def defaultPort? (scheme : String) : Option Nat :=
  if scheme = "http" ∨ scheme = "ws" then some 80
  else if scheme = "https" ∨ scheme = "wss" then some 443
  else if scheme = "ftp" then some 21
  else none

/-- Who and where: what stands after the two slashes. -/
structure Authority where
  user : String
  /-- The password, if there is one that is not empty. -/
  password : Option String
  /-- No host is written as an empty one. -/
  host : Option Host
  /-- The port, if it is not the scheme's own. -/
  port : Option Nat
  deriving DecidableEq, Repr, Inhabited

/-- The path of a URL. -/
inductive UrlPath where
  /-- Segments, each written after a slash. -/
  | segments (list : List String)
  /-- The text after the colon of a URL that has no slashes. -/
  | rootless (text : String)
  deriving DecidableEq, Repr, Inhabited

/-- A URL; all parts are in their written form. -/
structure Url where
  scheme : String
  authority : Option Authority
  /-- Whether a slash and a point stand before the path. Without an authority they keep an empty
  first segment from being read as the start of one. -/
  guarded : Bool
  path : UrlPath
  query : Option String
  fragment : Option String
  deriving DecidableEq, Repr, Inhabited

namespace Authority

/-- The user name and the password, with the mark after them. -/
def userinfoText (a : Authority) : List Char :=
  if a.user = "" ∧ a.password = none then []
  else
    a.user.toList ++
      (match a.password with
        | some password => ':' :: password.toList
        | none => []) ++ ['@']

/-- The authority as it is written. -/
def text (a : Authority) : List Char :=
  a.userinfoText ++ ((a.host.map Host.text).getD []) ++
    (match a.port with
      | some port => ':' :: Nat.toDigits 10 port
      | none => [])

end Authority

namespace UrlPath

/-- The path as it is written. -/
def text : UrlPath → List Char
  | .segments list => list.flatMap fun s => '/' :: s.toList
  | .rootless text => text.toList

end UrlPath

namespace Url

/-- The URL as it is written. -/
def chars (u : Url) : List Char :=
  u.scheme.toList ++ ':' ::
    (match u.authority with
      | some a => '/' :: '/' :: a.text
      | none => []) ++
    (if u.guarded then ['/', '.'] else []) ++ u.path.text ++
    (match u.query with
      | some q => '?' :: q.toList
      | none => []) ++
    (match u.fragment with
      | some f => '#' :: f.toList
      | none => [])

/-- The URL as it is written. -/
def text (u : Url) : String := String.ofList u.chars

/-- The kind of the scheme. -/
def kind (u : Url) : SchemeKind := .ofScheme u.scheme

/-- Whether relative links make sense: the path consists of segments. -/
def canBeBase (u : Url) : Bool :=
  match u.path with
  | .segments _ => true
  | .rootless _ => false

/-- Whether the URL can be asked for over the web. -/
def isWeb (u : Url) : Bool := u.scheme == "http" || u.scheme == "https"

/-- The URL without a user name and a password. -/
def withoutUserInfo (u : Url) : Url :=
  { u with authority := u.authority.map fun a => { a with user := "", password := none } }

/-! ## Characters -/

/-- Whether a character is a slash to this kind of scheme. -/
def isSlash (kind : SchemeKind) (c : Char) : Bool := c == '/' || (kind.isSpecial && c == '\\')

/-- Whether a character ends the path. -/
def endsPath (c : Char) : Bool := c == '?' || c == '#'

/-- Whether a character is left out everywhere. -/
def isSkipped (c : Char) : Bool := c == '\t' || c == '\n' || c == '\r'

end Url

end ClusterBoard.Web
