import ClusterBoard.Web.Url.Authority
import ClusterBoard.Web.Url.Path

/-!
# Reading URLs

`Url.parse` reads a URL, if need be relative to another one, and `Url.join` follows a link.
-/

namespace ClusterBoard.Web

namespace Url

/-! ## Query and fragment -/

/-- The query and the fragment of what follows a path. -/
def tailParts (kind : SchemeKind) (cs : List Char) : Option String × Option String :=
  let fragmentOf (cs : List Char) : Option String :=
    some (String.ofList (Percent.encode Percent.fragmentSet cs))
  match cs with
  | '#' :: rest => (none, fragmentOf rest)
  | '?' :: rest =>
    let inSet := if kind.isSpecial then Percent.specialQuerySet else Percent.querySet
    let query := some (String.ofList (Percent.encode inSet (rest.takeWhile (· != '#'))))
    match rest.dropWhile (· != '#') with
    | _ :: after => (query, fragmentOf after)
    | [] => (query, none)
  | _ => (none, none)

/-- Whether a path would be read as an authority. -/
def needsGuard : UrlPath → Bool
  | .segments ("" :: _ :: _) => true
  | _ => false

/-- A URL from its start and the text from the query on. -/
def withTail (scheme : String) (authority : Option Authority) (path : UrlPath) (tail : List Char) :
    Url :=
  let (query, fragment) := tailParts (.ofScheme scheme) tail
  { scheme, authority, guarded := authority.isNone && needsGuard path, path, query, fragment }

/-- A URL from its start and the text that is added to a path. -/
def withPath (scheme : String) (authority : Option Authority) (path : List String)
    (cs : List Char) : Url :=
  withTail scheme authority
    (.segments (pushPath (.ofScheme scheme) path (cs.takeWhile (!endsPath ·))))
    (cs.dropWhile (!endsPath ·))

/-! ## After the slashes -/

/-- The path after an authority: web addresses always have one. -/
def pathAfter (kind : SchemeKind) (cs : List Char) : List String :=
  match cs with
  | [] => if kind.isSpecial then [""] else []
  | c :: rest => pushPath kind [] (if isSlash kind c then rest else cs)

/-- The URL of the text after the two slashes. -/
def afterSlashes (scheme : String) (cs : List Char) : Except UrlError Url := do
  let kind := SchemeKind.ofScheme scheme
  let text := cs.takeWhile (!endsAuthority kind ·)
  let rest := cs.dropWhile (!endsAuthority kind ·)
  if text = ['@'] ∧ rest ≠ [] then .error .emptyHost
  else
    let (a, more) ← authorityOf scheme text
    let path := pathAfter kind (more ++ rest.takeWhile (!endsPath ·))
    .ok (withTail scheme (some a) (.segments path) (rest.dropWhile (!endsPath ·)))

/-! ## Files -/

/-- An authority that says nothing. -/
def noHost : Authority := ⟨"", none, none, none⟩

/-- The host of a file: none, also if it is this machine. -/
def fileAuthority (cs : List Char) : Except UrlError Authority := do
  if cs.isEmpty then .ok noHost
  else
    match ← Host.parse cs with
    | .domain "localhost" => .ok noHost
    | host => .ok { noHost with host }

/-- Whether segments that are added to a path begin it with a drive. -/
def meetsDrive (path : List String) : List (List Char) → Bool
  | [] => false
  | segment :: rest =>
    (path.isEmpty && isDrive segment) || meetsDrive (pushInner .file path segment) rest

/-- The URL of a file after the two slashes. A drive takes the place of the host. -/
def fileAfterSlashes (cs : List Char) : Except UrlError Url := do
  let text := cs.takeWhile (!endsAuthority .file ·)
  let rest := cs.dropWhile (!endsAuthority .file ·)
  if isDrive text then .ok (withPath "file" (some noHost) [] cs)
  else
    let a ← fileAuthority text
    if a.host.isNone then .ok (withPath "file" (some noHost) [] rest)
    else
      let path := rest.takeWhile (!endsPath ·)
      let drive := meetsDrive [] (pieces .file (path.drop 1))
      .ok (withTail "file" (some (if drive then noHost else a)) (.segments (pathAfter .file path))
        (rest.dropWhile (!endsPath ·)))

/-- The path of a drive, if the first segment is one. -/
def drivePath (path : List String) : List String :=
  (path.take 1).filter fun s => isDrive s.toList && s.toList.getLast? == some ':'

/-- The URL of a file after one slash. The drive of the base stays, else its host. -/
def fileAfterSlash (base : Option (Authority × List String)) (cs : List Char) : Url :=
  match base with
  | some (a, path) =>
    if startsWithDrive cs then withPath "file" (some noHost) [] cs
    else if drivePath path = [] then withPath "file" (some a) [] cs
    else withPath "file" (some noHost) (drivePath path) cs
  | none => withPath "file" (some noHost) [] cs

/-! ## Links and whole URLs -/

/-- The link relative to a base whose path consists of segments. -/
def relative (base : Url) (path : List String) (cs : List Char) : Except UrlError Url :=
  let kind := base.kind
  match cs with
  | [] => .ok { base with fragment := none }
  | '#' :: _ => .ok { base with fragment := (tailParts kind cs).2 }
  | '?' :: _ =>
    let (query, fragment) := tailParts kind cs
    .ok { base with query, fragment }
  | c :: rest =>
    if isSlash .special c then
      match kind, rest with
      | .file, d :: after =>
        if isSlash .special d then fileAfterSlashes after
        else .ok (fileAfterSlash (base.authority.map (·, path)) rest)
      | .file, [] => .ok (fileAfterSlash (base.authority.map (·, path)) rest)
      | _, d :: after =>
        if c = '/' ∧ d = '/' then afterSlashes base.scheme after
        else if isSlash .special d then
          afterSlashes base.scheme (after.dropWhile (isSlash .special))
        else .ok (withPath base.scheme base.authority [] rest)
      | _, [] => .ok (withPath base.scheme base.authority [] rest)
    else if kind = .file ∧ startsWithDrive cs then .ok (withPath "file" (some noHost) [] cs)
    else if kind = .file ∧ drivePath path = path then .ok (withPath "file" base.authority path cs)
    else .ok (withPath base.scheme base.authority path.dropLast cs)

/-- The scheme at the start of a text, in lower case, and what follows the colon. -/
def splitScheme? (cs : List Char) : Option (String × List Char) :=
  let isSchemeChar (c : Char) : Bool :=
    c.isAlphanum || c == '+' || c == '-' || c == '.'
  match cs with
  | c :: _ =>
    if c.isAlpha then
      match cs.dropWhile isSchemeChar with
      | ':' :: rest =>
        some (String.ofList ((cs.takeWhile isSchemeChar).map Char.toLower), rest)
      | _ => none
    else none
  | [] => none

/-- The path of a base that has the same scheme. -/
def pathOfBase (base : Option Url) (scheme : String) : Option (Url × List String) :=
  match base with
  | some b =>
    match b.path with
    | .segments path => if b.scheme = scheme then some (b, path) else none
    | .rootless _ => none
  | none => none

/-- The URL of a text after its scheme. -/
def afterScheme (base : Option Url) (scheme : String) (cs : List Char) : Except UrlError Url :=
  match SchemeKind.ofScheme scheme with
  | .special =>
    match pathOfBase base scheme with
    | some (b, path) =>
      if (cs.takeWhile (isSlash .special)).length < 2 then relative b path cs
      else afterSlashes scheme (cs.dropWhile (isSlash .special))
    | none => afterSlashes scheme (cs.dropWhile (isSlash .special))
  | .file =>
    match pathOfBase base scheme with
    | some (b, path) => relative b path cs
    | none =>
      match cs with
      | c :: d :: rest =>
        if isSlash .file c then
          if isSlash .file d then fileAfterSlashes rest else .ok (fileAfterSlash none (d :: rest))
        else .ok (withPath "file" (some noHost) [] cs)
      | [c] => .ok (withPath "file" (some noHost) [] (if isSlash .file c then [] else cs))
      | [] => .ok (withPath "file" (some noHost) [] cs)
  | .other =>
    match cs with
    | '/' :: '/' :: rest => afterSlashes scheme rest
    | '/' :: rest => .ok (withPath scheme none [] rest)
    | _ =>
      .ok (withTail scheme none
        (.rootless (String.ofList
          (Percent.encode Percent.isControl (cs.takeWhile (!endsPath ·)))))
        (cs.dropWhile (!endsPath ·)))

/-- Whether a character is left out at the two ends: a space or a control. -/
def isOuterBlank (c : Char) : Bool := c.toNat ≤ 0x20

/-- The text that is read: without blanks at its ends, tabs and line ends. -/
def cleaned (cs : List Char) : List Char :=
  ((cs.dropWhile isOuterBlank).reverse.dropWhile isOuterBlank).reverse.filter (!isSkipped ·)

/-- The URL of a text, which may be relative to a base. -/
def parse (base : Option Url) (text : String) : Except UrlError Url :=
  let cs := cleaned text.toList
  match splitScheme? cs with
  | some (scheme, rest) => afterScheme base scheme rest
  | none =>
    match base with
    | none => .error .relativeWithoutBase
    | some b =>
      match b.path, cs with
      | .segments path, cs => relative b path cs
      | .rootless _, '#' :: _ => .ok { b with fragment := (tailParts b.kind cs).2 }
      | .rootless _, _ => .error .relativeToRootless

/-- The URL of a link on a page. -/
def join (base : Url) (link : String) : Except UrlError Url := parse (some base) link

end Url

end ClusterBoard.Web
