import ClusterBoard.Web.Url.Basic

/-!
# Paths of URLs

A path is a list of segments. `pushPath` adds a text to it: a segment of one point stays where it
is, one of two points goes to the place above. `Url.pushSegments` adds segments that are taken
literally, and `Url.withFinalSlash` makes the path that of a folder.
-/

namespace ClusterBoard.Web

namespace Url

/-! ## Segments with points -/

/-- Whether a segment stands for the present place. -/
def isSingleDot (segment : List Char) : Bool :=
  [".", "%2e"].contains (String.ofList (segment.map Char.toLower))

/-- Whether a segment stands for the place above. -/
def isDoubleDot (segment : List Char) : Bool :=
  ["..", ".%2e", "%2e.", "%2e%2e"].contains (String.ofList (segment.map Char.toLower))

/-- Whether a text starts with a drive: a letter, a colon or a bar, and the end of the segment. -/
def startsWithDrive : List Char → Bool
  | [c, d] => c.isAlpha && Percent.isIn ":|" d
  | c :: d :: e :: _ => c.isAlpha && Percent.isIn ":|" d && Percent.isIn "/\\?#" e
  | _ => false

/-- Whether a segment is a drive. -/
def isDrive (segment : List Char) : Bool := segment.length = 2 && startsWithDrive segment

/-- The place above; a drive is never left. -/
def parent (path : List String) : List String :=
  match path.getLast? with
  | some last => if startsWithDrive last.toList then path else path.dropLast
  | none => []

/-- The first segment of a file's path. A drive has a colon, and ends where the colon does. -/
def driveSegments (segment : List Char) : List (List Char) :=
  match segment with
  | [c, d] => if isDrive [c, d] then [[c, ':']] else [segment]
  | c :: ':' :: rest => if c.isAlpha then [[c, ':'], rest] else [segment]
  | _ => [segment]

/-- Adds a segment that is no dot. -/
def pushPlain (kind : SchemeKind) (path : List String) (segment : List Char) : List String :=
  if kind = .file ∧ path = [] then (driveSegments segment).map String.ofList
  else path ++ [String.ofList segment]

/-- Adds a segment that a slash follows. -/
def pushInner (kind : SchemeKind) (path : List String) (segment : List Char) : List String :=
  if isDoubleDot segment then parent path
  else if isSingleDot segment then path
  else pushPlain kind path segment

/-- Adds the last segment. -/
def pushLast (kind : SchemeKind) (path : List String) (segment : List Char) : List String :=
  if isDoubleDot segment then parent path ++ [""]
  else if isSingleDot segment then path ++ [""]
  else pushPlain kind path segment

/-- Adds segments in their written form. -/
def pushAll (kind : SchemeKind) (path : List String) : List (List Char) → List String
  | [] => path
  | [last] => pushLast kind path last
  | segment :: rest => pushAll kind (pushInner kind path segment) rest

/-- A path as it is kept: that of a file does not start with an empty segment. -/
def settled (kind : SchemeKind) (path : List String) : List String :=
  if kind = .file then
    match path.dropWhile (· = "") with
    | [] => [""]
    | path => path
  else path

/-- The pieces between slashes, and between backslashes too where they count. -/
def pieces (kind : SchemeKind) (cs : List Char) : List (List Char) :=
  Text.splitOn '/' (if kind.isSpecial then cs.map fun c => if c = '\\' then '/' else c else cs)

/-- The segments of a text that starts after a slash, added to a path. -/
def pushPath (kind : SchemeKind) (path : List String) (cs : List Char) : List String :=
  settled kind (pushAll kind path ((pieces kind cs).map (Percent.encode Percent.pathSet)))

/-! ## Literal segments -/

/-- The path without an empty segment at its end. -/
def popIfEmpty (path : List String) : List String :=
  if 1 < path.length ∧ path.getLast? = some "" then path.dropLast else path

/-- Adds one segment that is taken literally, apart from what is skipped everywhere. -/
def pushSegment (kind : SchemeKind) (path : List String) (segment : String) : List String :=
  if segment = "." ∨ segment = ".." then path
  else
    let inSet := if kind.isSpecial then Percent.specialSegmentSet else Percent.segmentSet
    let encoded := Percent.encode inSet (segment.toList.filter (!isSkipped ·))
    settled kind (pushLast kind (if path = [""] then [] else path) encoded)

/-- The URL with segments added to its path, in place of an empty one at its end. -/
def pushSegments (u : Url) (segments : List String) : Url :=
  match u.path with
  | .segments path =>
    { u with path := .segments (segments.foldl (pushSegment u.kind) (popIfEmpty path)) }
  | .rootless _ => u

/-- The URL with a slash at the end of its path. -/
def withFinalSlash (u : Url) : Url :=
  match u.path with
  | .segments path =>
    if path.getLast? = some "" then u
    else if u.kind = .file then
      { u with path := .segments (pushPath .file [] (u.path.text.drop 1 ++ ['/'])) }
    else { u with path := .segments (path ++ [""]) }
  | .rootless _ => u

end Url

end ClusterBoard.Web
