import ClusterBoard.Json.Number

/-!
# JSON values

A value keeps the fields of an object in document order. A document that repeats a key keeps the
key's first place and its last value (`Fields.insert`), so the keys of a value that was read are
distinct (`Fields.Distinct`).
-/

namespace ClusterBoard

/-- A JSON value; the fields of an object stand in document order. -/
inductive Json where
  | null
  | bool (value : Bool)
  | number (value : Json.Number)
  | string (value : String)
  | array (items : List Json)
  | object (fields : List (String × Json))
  deriving Repr, Inhabited

namespace Json

/-- The fields of an object, in order. -/
abbrev Fields := List (String × Json)

namespace Fields

/-- The value of a key. -/
def get? (fields : Fields) (key : String) : Option Json :=
  (fields.find? (·.1 == key)).map (·.2)

/-- Gives a key its value: in place if the key is there, else as the last field. -/
def insert : Fields → String → Json → Fields
  | [], key, value => [(key, value)]
  | (k, v) :: rest, key, value =>
    if k = key then (k, value) :: rest else (k, v) :: insert rest key value

/-- The fields of a list of pairs that may repeat a key. -/
def ofPairs (pairs : List (String × Json)) : Fields :=
  pairs.foldl (fun fields (k, v) => insert fields k v) []

/-- The keys, in order. -/
def keys (fields : Fields) : List String := fields.map (·.1)

/-- No key occurs twice. -/
def Distinct (fields : Fields) : Prop := fields.keys.Nodup

end Fields

/-- What kind of value this is, in words. -/
def kind : Json → String
  | .null => "null"
  | .bool _ => "a boolean"
  | .number _ => "a number"
  | .string _ => "a string"
  | .array _ => "an array"
  | .object _ => "an object"

/-- The value of a key; none for a value that is not an object. -/
def get? : Json → String → Option Json
  | .object fields, key => Fields.get? fields key
  | _, _ => none

/-- Whether this is an object. -/
def isObject : Json → Bool
  | .object _ => true
  | _ => false

/-- A whole number. -/
def ofNat (n : Nat) : Json := .number (.whole n)

end Json

end ClusterBoard
