import ClusterBoard.Text.Lines
import ClusterBoard.Web.Client

/-!
# Failures

A failure is shown as a message and below it what caused it, from the nearest cause to the first.
-/

namespace ClusterBoard.CommandLine

open Web

/-- What failed and why. -/
structure Failure where
  message : String
  causes : List String
  deriving DecidableEq, Repr

/-- A text whose later lines are indented like its first one, which stands after `first`. -/
def hanging (first : String) (text : String) : String :=
  let indent := String.ofList ('\n' :: List.replicate first.length ' ')
  first ++ Text.join indent ((Text.splitOn '\n' text.toList).map String.ofList)

/-- The causes, numbered if there are several. -/
def causeLines : List String → List String
  | [] => []
  | [cause] => [hanging "    " cause]
  | causes => causes.zipIdx.map fun (cause, i) =>
    let number := toString i
    hanging (String.ofList (List.replicate (5 - number.length) ' ') ++ number ++ ": ") cause

/-- The failure as it is shown. -/
def Failure.text (f : Failure) : String :=
  let causes :=
    if f.causes.isEmpty then ""
    else "\n\nCaused by:\n" ++ Text.join "\n" (causeLines f.causes)
  "Error: " ++ f.message ++ causes ++ "\n"

/-- What a request that finds no network runs into. -/
def noNetwork : List String :=
  ["client error (Connect)", "tcp connect error", "Network is unreachable (os error 101)"]

/-- What a request for a URL runs into. Only web addresses can be asked for; the user info of a URL
does not count as part of what was asked for. -/
def requestTrouble (url : Url) : List String :=
  let plain := url.withoutUserInfo.text
  if url.isWeb then s!"error sending request for url ({plain})" :: noNetwork
  else [s!"builder error for url ({plain})", "URL scheme is not allowed"]

/-- The causes of a failed fetch of a URL. -/
def fetchCauses (url : Url) (e : FetchError) : List String :=
  match e, requestTrouble url with
  | .request _, first :: rest => s!"{e.message}: {first}" :: first :: rest
  | _, _ => [e.message]

end ClusterBoard.CommandLine
