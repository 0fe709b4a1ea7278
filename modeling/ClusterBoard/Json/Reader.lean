import ClusterBoard.Json.Basic

/-!
# Reading JSON

`Json.parse?` reads strict JSON text. Containers nest at most as deep as the reader is told;
`bodyDepth` is the depth for what a server sends. The nesting limit is also the recursion measure,
and lists of items end because every item takes at least one character.
-/

namespace ClusterBoard.Json

/-- Containers nest at most this deep in a server's answer. -/
def bodyDepth : Nat := 127

namespace Reader

/-- White space between tokens. -/
def isBlank (c : Char) : Bool := c == ' ' || c == '\n' || c == '\t' || c == '\r'

/-- The text after leading white space. -/
def skipBlank (cs : List Char) : List Char := cs.dropWhile isBlank

/-- The digit's value. -/
def digitValue (c : Char) : Nat := c.toNat - '0'.toNat

/-- The value of a run of decimal digits. -/
def digitsValue (ds : List Char) : Nat := ds.foldl (fun n c => 10 * n + digitValue c) 0

/-- The value of a hexadecimal digit. -/
def hexValue? (c : Char) : Option Nat :=
  if c.isDigit then some (digitValue c)
  else if 'a' ≤ c ∧ c ≤ 'f' then some (c.toNat - 'a'.toNat + 10)
  else if 'A' ≤ c ∧ c ≤ 'F' then some (c.toNat - 'A'.toNat + 10)
  else none

/-- The unit of a `\uXXXX` escape, after the `u`. -/
def hexUnit? : List Char → Option (Nat × List Char)
  | a :: b :: c :: d :: rest => do
    let a ← hexValue? a
    let b ← hexValue? b
    let c ← hexValue? c
    let d ← hexValue? d
    some (((a * 16 + b) * 16 + c) * 16 + d, rest)
  | _ => none

/-- The character of a `\u` escape, after the `u`; a leading surrogate needs its trailing one. -/
def unicodeEscape? (cs : List Char) : Option (Char × List Char) := do
  let (unit, rest) ← hexUnit? cs
  if 0xD800 ≤ unit ∧ unit < 0xDC00 then
    match rest with
    | '\\' :: 'u' :: more =>
      let (low, rest) ← hexUnit? more
      if 0xDC00 ≤ low ∧ low < 0xE000 then
        some (Char.ofNat (0x10000 + (unit - 0xD800) * 0x400 + (low - 0xDC00)), rest)
      else none
    | _ => none
  else if 0xDC00 ≤ unit ∧ unit < 0xE000 then none
  else some (Char.ofNat unit, rest)

/-- The character of an escape, after the backslash. -/
def escape? : List Char → Option (Char × List Char)
  | '"' :: rest => some ('"', rest)
  | '\\' :: rest => some ('\\', rest)
  | '/' :: rest => some ('/', rest)
  | 'b' :: rest => some ('\x08', rest)
  | 'f' :: rest => some ('\x0c', rest)
  | 'n' :: rest => some ('\n', rest)
  | 'r' :: rest => some ('\r', rest)
  | 't' :: rest => some ('\t', rest)
  | 'u' :: rest => unicodeEscape? rest
  | _ => none

/-- The rest of a string literal, after its opening quote; `fuel` bounds the characters. -/
def stringTail? : Nat → List Char → List Char → Option (String × List Char)
  | 0, _, _ => none
  | _, _, [] => none
  | fuel + 1, seen, c :: rest =>
    if c = '"' then some (String.ofList seen.reverse, rest)
    else if c = '\\' then
      match escape? rest with
      | some (d, rest) => stringTail? fuel (d :: seen) rest
      | none => none
    else if c.toNat < 0x20 then none
    else stringTail? fuel (c :: seen) rest

/-- A string literal. -/
def string? : List Char → Option (String × List Char)
  | '"' :: rest => stringTail? (rest.length + 1) [] rest
  | _ => none

/-- The largest significand that is kept; digits that would pass it are only counted. -/
def greatestSignificand : Nat := Nat.pow 2 64 - 1

/-- The longest run of digits that stays within the greatest significand, and the rest. -/
def splitSignificand (significand : Nat) : List Char → Nat × Nat × List Char
  | [] => (significand, 0, [])
  | d :: ds =>
    let next := 10 * significand + digitValue d
    if next ≤ greatestSignificand then
      let (value, taken, rest) := splitSignificand next ds
      (value, taken + 1, rest)
    else (significand, 0, d :: ds)

/-- A literal's exponent part: nothing, or an `e` with a signed run of digits. -/
def exponentPart? (cs : List Char) : Option (Option Int × List Char) :=
  match cs with
  | c :: rest =>
    if c = 'e' ∨ c = 'E' then
      let (negative, rest) :=
        match rest with
        | '+' :: more => (false, more)
        | '-' :: more => (true, more)
        | more => (false, more)
      let digits := rest.takeWhile Char.isDigit
      if digits.isEmpty then none
      else
        let magnitude : Int := digitsValue digits
        some (some (if negative then -magnitude else magnitude), rest.dropWhile Char.isDigit)
    else some (none, cs)
  | [] => some (none, [])

/-- A literal's fraction part: nothing, or a point with a run of digits. -/
def fractionPart? : List Char → Option (Option (List Char) × List Char)
  | '.' :: rest =>
    let digits := rest.takeWhile Char.isDigit
    if digits.isEmpty then none else some (some digits, rest.dropWhile Char.isDigit)
  | cs => some (none, cs)

/-- The number of a literal's parts. Without fraction and exponent it is whole if it fits 64 bits;
every other literal, also minus zero, is a double made of the digits that fit a significand. -/
def numberOfParts? (negative : Bool) (whole : List Char) (fraction : Option (List Char))
    (exponent : Option Int) : Option Number :=
  let value := digitsValue whole
  if fraction.isNone ∧ exponent.isNone ∧ negative = false ∧ value ≤ greatestSignificand then
    some (.whole value)
  else if fraction.isNone ∧ exponent.isNone ∧ negative = true ∧ 0 < value ∧
      value ≤ Nat.pow 2 63 then
    some (.whole (-value))
  else
    let (significand, _, dropped) := splitSignificand 0 whole
    let (significand, places) :=
      match fraction with
      | some digits =>
        let (value, taken, _) := splitSignificand significand digits
        (value, taken)
      | none => (significand, 0)
    let scale : Int := (dropped.length : Int) - places + exponent.getD 0
    (Decimal.Binary64.ofDecimal? negative significand scale).map .double

/-- A number literal: no leading zero, a digit on each side of the point. -/
def number? (cs : List Char) : Option (Number × List Char) := do
  let (negative, cs) :=
    match cs with
    | '-' :: rest => (true, rest)
    | cs => (false, cs)
  let whole := cs.takeWhile Char.isDigit
  let rest := cs.dropWhile Char.isDigit
  if whole.isEmpty || (whole.length > 1 && whole.head? == some '0') then none
  else
    let (fraction, rest) ← fractionPart? rest
    let (exponent, rest) ← exponentPart? rest
    let n ← numberOfParts? negative whole fraction exponent
    some (n, rest)

/-- The text after a word that it starts with. -/
def afterWord? (word : String) (cs : List Char) : Option (List Char) :=
  if word.toList.isPrefixOf cs then some (cs.drop word.length) else none

/-- A value that is not a container. -/
def scalar? (cs : List Char) : Option (Json × List Char) :=
  match cs with
  | 'n' :: _ => (afterWord? "null" cs).map (.null, ·)
  | 't' :: _ => (afterWord? "true" cs).map (.bool true, ·)
  | 'f' :: _ => (afterWord? "false" cs).map (.bool false, ·)
  | '"' :: _ => (string? cs).map fun (s, rest) => (.string s, rest)
  | _ => (number? cs).map fun (n, rest) => (.number n, rest)

/-- Items up to the closing mark, at least one; `item` reads one from its first character. -/
def items? {α : Type} (item : List Char → Option (α × List Char)) (close : Char) :
    Nat → List Char → Option (List α × List Char)
  | 0, _ => none
  | fuel + 1, cs =>
    match item (skipBlank cs) with
    | none => none
    | some (x, rest) =>
      match skipBlank rest with
      | ',' :: more => (items? item close fuel more).map fun (xs, rest) => (x :: xs, rest)
      | c :: more => if c = close then some ([x], more) else none
      | [] => none

/-- A list of items up to the closing mark, after the opening one; it may be empty. -/
def list? {α : Type} (item : List Char → Option (α × List Char)) (close : Char)
    (cs : List Char) : Option (List α × List Char) :=
  match skipBlank cs with
  | c :: rest =>
    if c = close then some ([], rest) else items? item close (cs.length + 1) (c :: rest)
  | [] => none

/-- A key, a colon and a value. -/
def field? (value : List Char → Option (Json × List Char)) (cs : List Char) :
    Option ((String × Json) × List Char) := do
  let (key, rest) ← string? cs
  match skipBlank rest with
  | ':' :: more =>
    let (v, rest) ← value (skipBlank more)
    some ((key, v), rest)
  | _ => none

/-- A value whose containers nest at most `depth` deep. -/
def value? : Nat → List Char → Option (Json × List Char)
  | 0, cs => scalar? cs
  | depth + 1, cs =>
    match cs with
    | '[' :: rest => (list? (value? depth) ']' rest).map fun (xs, rest) => (.array xs, rest)
    | '\x7b' :: rest =>
      (list? (field? (value? depth)) '\x7d' rest).map fun (fs, rest) =>
        (.object (Fields.ofPairs fs), rest)
    | _ => scalar? cs

end Reader

open Reader

/-- The value of a text that holds one value and white space around it. -/
def parse? (depth : Nat) (text : String) : Option Json :=
  match value? depth (skipBlank text.toList) with
  | some (v, rest) => if (skipBlank rest).isEmpty then some v else none
  | none => none

end ClusterBoard.Json
