import ClusterBoard.Json.Basic

/-!
# Writing JSON

`Json.compact` writes a value without white space, `Json.pretty` one item a line with an indent of
two spaces. Strings are quoted with the short escapes where there is one, `\u00xx` for the other
control characters, and everything else as it is.
-/

namespace ClusterBoard.Json

/-- A hexadecimal digit, in lower case. -/
def hexDigit (n : Nat) : Char := (Nat.digitChar n)

/-- A character inside a quoted string. -/
def escapeChar (c : Char) : List Char :=
  if c = '"' then ['\\', '"']
  else if c = '\\' then ['\\', '\\']
  else if c = '\x08' then ['\\', 'b']
  else if c = '\x0c' then ['\\', 'f']
  else if c = '\n' then ['\\', 'n']
  else if c = '\r' then ['\\', 'r']
  else if c = '\t' then ['\\', 't']
  else if c.toNat < 0x20 then
    ['\\', 'u', '0', '0', hexDigit (c.toNat / 16), hexDigit (c.toNat % 16)]
  else [c]

/-- A string literal. -/
def quotedChars (s : String) : List Char := '"' :: s.toList.flatMap escapeChar ++ ['"']

/-- The literals `true` and `false`. -/
def boolChars (b : Bool) : List Char := if b then "true".toList else "false".toList

mutual

/-- A value without white space. -/
def compactChars : Json → List Char
  | .null => "null".toList
  | .bool b => boolChars b
  | .number n => n.chars
  | .string s => quotedChars s
  | .array [] => ['[', ']']
  | .array (item :: rest) => '[' :: compactChars item ++ compactItems rest ++ [']']
  | .object [] => ['\x7b', '\x7d']
  | .object ((key, value) :: rest) =>
    '\x7b' :: quotedChars key ++ ':' :: compactChars value ++ compactFields rest ++ ['\x7d']

/-- The items after the first, each with its comma. -/
def compactItems : List Json → List Char
  | [] => []
  | item :: rest => ',' :: compactChars item ++ compactItems rest

/-- The fields after the first, each with its comma. -/
def compactFields : List (String × Json) → List Char
  | [] => []
  | (key, value) :: rest =>
    ',' :: quotedChars key ++ ':' :: compactChars value ++ compactFields rest

end

/-- The start of a line at a nesting depth. -/
def lineStart (depth : Nat) : List Char := '\n' :: List.replicate (2 * depth) ' '

mutual

/-- A value with one item a line, nested at `depth`. -/
def prettyChars (depth : Nat) : Json → List Char
  | .null => "null".toList
  | .bool b => boolChars b
  | .number n => n.chars
  | .string s => quotedChars s
  | .array [] => ['[', ']']
  | .array (item :: rest) =>
    '[' :: lineStart (depth + 1) ++ prettyChars (depth + 1) item ++ prettyItems (depth + 1) rest ++
      lineStart depth ++ [']']
  | .object [] => ['\x7b', '\x7d']
  | .object ((key, value) :: rest) =>
    '\x7b' :: lineStart (depth + 1) ++ quotedChars key ++ ':' :: ' ' ::
      prettyChars (depth + 1) value ++ prettyFields (depth + 1) rest ++ lineStart depth ++ ['\x7d']

/-- The items after the first, each on its own line. -/
def prettyItems (depth : Nat) : List Json → List Char
  | [] => []
  | item :: rest => ',' :: lineStart depth ++ prettyChars depth item ++ prettyItems depth rest

/-- The fields after the first, each on its own line. -/
def prettyFields (depth : Nat) : List (String × Json) → List Char
  | [] => []
  | (key, value) :: rest =>
    ',' :: lineStart depth ++ quotedChars key ++ ':' :: ' ' :: prettyChars depth value ++
      prettyFields depth rest

end

/-- The text without white space. -/
def compact (v : Json) : String := String.ofList v.compactChars

/-- The text with one item a line. -/
def pretty (v : Json) : String := String.ofList (v.prettyChars 0)

end ClusterBoard.Json
