import ClusterBoard.Toml.Scalar

/-!
# Reading a settings file

`Toml.parse?` reads a whole file. Every line is a header, a key with its value, or neither; a value
may go on over several lines inside brackets. Whatever is not a line of the format, and every key or
table that is defined twice, makes the file unreadable.
-/

namespace ClusterBoard.Toml

/-- The text after a comment, if there is one. -/
def skipComment : List Char → List Char
  | '#' :: rest => rest.dropWhile isPlain
  | cs => cs

/-- Characters of a key without quotation marks. -/
def isKeyChar (c : Char) : Bool := c.isAlphanum || c == '_' || c == '-'

/-- One part of a key. -/
def keyPart? (cs : List Char) : Option (String × List Char) :=
  match cs with
  | '"' :: _ => simpleString? cs
  | '\'' :: _ => simpleString? cs
  | _ =>
    let key := cs.takeWhile isKeyChar
    if key.isEmpty then none else some (String.ofList key, cs.dropWhile isKeyChar)

/-- Brackets and braces nest at most this deep, and a key has at most so many parts. -/
def depthLimit : Nat := 79

/-- A key of at most so many parts, with points between them: what precedes the last part, the last
part, and what follows the key. -/
def keyOf? : Nat → List Char → Option (List String × String × List Char)
  | 0, _ => none
  | parts + 1, cs =>
    match keyPart? (skipSpace cs) with
    | none => none
    | some (part, rest) =>
      match skipSpace rest with
      | '.' :: more => (keyOf? parts more).map fun (path, last, rest) => (part :: path, last, rest)
      | rest => some ([], part, rest)

/-- A key: what precedes its last part, the last part, and what follows the key. -/
def key? (cs : List Char) : Option (List String × String × List Char) := keyOf? depthLimit cs

/-- The text after blanks, comments and line ends. -/
def skipLines : Nat → List Char → List Char
  | 0, cs => cs
  | fuel + 1, cs =>
    let rest := skipComment (skipSpace cs)
    match lineEnd? rest with
    | some rest => skipLines fuel rest
    | none => rest

/-- A key, an equals sign and a value. -/
def pair? (value : List Char → Option (Item × List Char)) (cs : List Char) :
    Option ((List String × String × Item) × List Char) := do
  let (path, key, rest) ← key? cs
  match rest with
  | '=' :: more =>
    let (item, rest) ← value (skipSpace more)
    some ((path, key, item), rest)
  | _ => none

/-- The items of an array after its opening bracket; a comma may stand before the closing one. -/
def items? (value : List Char → Option (Item × List Char)) :
    Nat → List Char → Option (List Item × List Char)
  | 0, _ => none
  | fuel + 1, cs =>
    match skipLines (cs.length + 1) cs with
    | ']' :: rest => some ([], rest)
    | cs =>
      match value cs with
      | none => none
      | some (item, rest) =>
        match skipLines (rest.length + 1) rest with
        | ',' :: more => (items? value fuel more).map fun (items, rest) => (item :: items, rest)
        | ']' :: rest => some ([item], rest)
        | _ => none

/-- The pairs of a table in braces, from the first key on. -/
def pairs? (value : List Char → Option (Item × List Char)) :
    Nat → List Char → Option (List (List String × String × Item) × List Char)
  | 0, _ => none
  | fuel + 1, cs =>
    match pair? value cs with
    | none => none
    | some (pair, rest) =>
      match skipSpace rest with
      | ',' :: more => (pairs? value fuel more).map fun (pairs, rest) => (pair :: pairs, rest)
      | '\x7d' :: rest => some ([pair], rest)
      | _ => none

/-- The table of pairs in braces. -/
def inlineTable? (pairs : List (List String × String × Item)) : Option Item :=
  (pairs.foldlM (fun entries (path, key, item) =>
    Entries.assign? path key item .header entries) []).map .inline

/-- A value without brackets or braces around it. -/
def scalar? (cs : List Char) : Option (Item × List Char) :=
  match cs with
  | '"' :: _ => (string? cs).map fun (s, rest) => (.string s, rest)
  | '\'' :: _ => (string? cs).map fun (s, rest) => (.string s, rest)
  | _ =>
    let (word, rest) := splitWord cs
    (word? word).map fun item => (item, rest)

/-- A value whose brackets and braces nest at most so deep. -/
def value? : Nat → List Char → Option (Item × List Char)
  | 0, cs => scalar? cs
  | depth + 1, cs =>
    match cs with
    | '[' :: rest =>
      (items? (value? depth) (rest.length + 1) rest).map fun (items, rest) => (.array items, rest)
    | '\x7b' :: rest =>
      match skipSpace rest with
      | '\x7d' :: rest => some (.inline [], rest)
      | rest => do
        let (pairs, rest) ← pairs? (value? depth) (rest.length + 1) rest
        let table ← inlineTable? pairs
        some (table, rest)
    | _ => scalar? cs

/-- What was read so far: the file's table and the path of the last header. -/
structure Reading where
  entries : Entries
  path : List String
  deriving Repr

/-- A header, after its first bracket, and what follows it. -/
def header? (r : Reading) (cs : List Char) : Option (Reading × List Char) :=
  match cs with
  | '[' :: rest => do
    let (path, key, rest) ← key? rest
    match rest with
    | ']' :: ']' :: rest =>
      let entries ← Entries.declareNext? path key r.entries
      some (⟨entries, path ++ [key]⟩, rest)
    | _ => none
  | cs => do
    let (path, key, rest) ← key? cs
    match rest with
    | ']' :: rest =>
      let entries ← Entries.declare? path key r.entries
      some (⟨entries, path ++ [key]⟩, rest)
    | _ => none

/-- A key with its value under the last header, and what follows it. -/
def assignment? (r : Reading) (cs : List Char) : Option (Reading × List Char) := do
  let ((path, key, item), rest) ← pair? (value? depthLimit) cs
  let entries ←
    Entries.alterAt? false (Entries.assign? path key item) r.path .header r.entries
  some ({ r with entries }, rest)

/-- What a line says, and what follows it. -/
def statement? (r : Reading) (cs : List Char) : Option (Reading × List Char) :=
  match cs with
  | [] => some (r, [])
  | '[' :: rest => header? r rest
  | c :: _ => if c = '#' ∨ (lineEnd? cs).isSome then some (r, cs) else assignment? r cs

/-- The lines of a file. -/
def statements? : Nat → Reading → List Char → Option Reading
  | 0, _, _ => none
  | fuel + 1, r, cs =>
    match statement? r (skipSpace cs) with
    | none => none
    | some (r, rest) =>
      match skipComment (skipSpace rest) with
      | [] => some r
      | rest =>
        match lineEnd? rest with
        | some rest => statements? fuel r rest
        | none => none

/-- The table of a whole file; a mark of byte order may stand at its start. -/
def parse? (text : String) : Option Entries :=
  let cs :=
    match text.toList with
    | '\uFEFF' :: rest => rest
    | cs => cs
  (statements? (cs.length + 1) ⟨[], []⟩ cs).map Reading.entries

end ClusterBoard.Toml
