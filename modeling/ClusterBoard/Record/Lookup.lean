import ClusterBoard.Json.Basic
import ClusterBoard.Text.Lines

/-!
# Fields of a record

`lookup` follows a dotted path through nested objects. What stands in its way is a `Defect`: a field
that is missing, or a value of the wrong kind.
-/

namespace ClusterBoard

/-- Why a field of a record could not be read. -/
inductive Defect where
  | notAnObject (found : String)
  | missing (field : String)
  | wrongType (field expected found : String)
  deriving DecidableEq, Repr, Inhabited

namespace Defect

/-- The defect in words. -/
def message : Defect → String
  | .notAnObject found => s!"record is {found}, expected an object"
  | .missing field => "missing field `" ++ field ++ "`"
  | .wrongType field expected found => "field `" ++ field ++ s!"` is {found}, expected {expected}"

end Defect

/-- The steps of a dotted path. -/
def pathSegments (path : String) : List String :=
  (Text.splitOn '.' path.toList).map String.ofList

/-- Follows the steps from `value`; `holder` is the field to blame for a value that is no object at
the first step. -/
def follow (path : String) (holder : String) : Json → List String → Except Defect Json
  | value, [] => .ok value
  | .object fields, segment :: rest =>
    match Json.Fields.get? fields segment with
    | some value => follow path path value rest
    | none => .error (.missing path)
  | .null, _ :: _ => .error (.missing path)
  | other, _ :: _ => .error (.wrongType holder "an object" other.kind)

/-- The value at the end of a dotted path, which may be null. A missing step, or null before the
end, is a missing field; any other value that is no object has the wrong type. -/
def lookup (value : Json) (path : String) : Except Defect Json :=
  follow path "record" value (pathSegments path)

/-- The value at the end of a dotted path, where null counts as missing. -/
def lookupPresent (value : Json) (path : String) : Except Defect Json :=
  match lookup value path with
  | .ok .null => .error (.missing path)
  | result => result

/-- The string at the end of a dotted path, where the empty one counts as missing. -/
def lookupText (value : Json) (path : String) : Except Defect String := do
  match ← lookupPresent value path with
  | .string text => if text = "" then .error (.missing path) else .ok text
  | other => .error (.wrongType path "a string" other.kind)

end ClusterBoard
