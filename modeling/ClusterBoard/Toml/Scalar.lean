import ClusterBoard.Decimal.Shortest
import ClusterBoard.Text.Lines
import ClusterBoard.Text.Unsigned
import ClusterBoard.Toml.Item

/-!
# Strings, numbers and dates of a settings file

Strings come in four kinds: between one or three quotation marks, with escapes, or between one or
three apostrophes, without. A number or a date is a run of characters that is read as a whole.
-/

namespace ClusterBoard.Toml

/-- A space or a tab. -/
def isSpace (c : Char) : Bool := c == ' ' || c == '\t'

/-- The text after leading spaces and tabs. -/
def skipSpace (cs : List Char) : List Char := cs.dropWhile isSpace

/-- Characters that stand in comments and strings as they are. -/
def isPlain (c : Char) : Bool := c == '\t' || (0x20 ≤ c.toNat && c.toNat ≠ 0x7F)

/-- The text after a line end. -/
def lineEnd? : List Char → Option (List Char)
  | '\n' :: rest => some rest
  | '\r' :: '\n' :: rest => some rest
  | _ => none

/-! ## Strings -/

/-- The value of a hexadecimal digit. -/
def hexValue? (c : Char) : Option Nat :=
  if c.isDigit then some (c.toNat - '0'.toNat)
  else if 'a' ≤ c ∧ c ≤ 'f' then some (c.toNat - 'a'.toNat + 10)
  else if 'A' ≤ c ∧ c ≤ 'F' then some (c.toNat - 'A'.toNat + 10)
  else none

/-- The character of `count` hexadecimal digits. -/
def codePoint? (count : Nat) (cs : List Char) : Option (Char × List Char) :=
  let digits := cs.take count
  if digits.length < count then none
  else do
    let n ← digits.foldlM (fun n c => (hexValue? c).map (16 * n + ·)) 0
    if h : n.isValidChar then some (Char.ofNatAux n h, cs.drop count) else none

/-- The character of an escape, after the backslash. -/
def escape? : List Char → Option (Char × List Char)
  | 'b' :: rest => some ('\x08', rest)
  | 't' :: rest => some ('\t', rest)
  | 'n' :: rest => some ('\n', rest)
  | 'f' :: rest => some ('\x0c', rest)
  | 'r' :: rest => some ('\r', rest)
  | '"' :: rest => some ('"', rest)
  | '\\' :: rest => some ('\\', rest)
  | 'u' :: rest => codePoint? 4 rest
  | 'U' :: rest => codePoint? 8 rest
  | _ => none

/-- The rest of a string on one line, after its opening mark. -/
def lineString? (mark : Char) : Nat → List Char → List Char → Option (String × List Char)
  | 0, _, _ => none
  | _, _, [] => none
  | fuel + 1, seen, c :: rest =>
    if c = mark then some (String.ofList seen.reverse, rest)
    else if c = '\\' ∧ mark = '"' then
      match escape? rest with
      | some (d, rest) => lineString? mark fuel (d :: seen) rest
      | none => none
    else if isPlain c then lineString? mark fuel (c :: seen) rest
    else none

/-- The text after leading spaces, tabs and line ends. -/
def skipSpaceLines : List Char → List Char
  | [] => []
  | '\n' :: rest => skipSpaceLines rest
  | '\r' :: '\n' :: rest => skipSpaceLines rest
  | c :: rest => if isSpace c then skipSpaceLines rest else c :: rest

/-- The text after a backslash at the end of a line: blanks and line ends are left out. -/
def afterContinuation? (cs : List Char) : Option (List Char) :=
  (lineEnd? (skipSpace cs)).map skipSpaceLines

/-- The rest of a string over several lines. Three marks end it; one or two stand for themselves,
also right before the end. -/
def linesString? (mark : Char) : Nat → List Char → List Char → Option (String × List Char)
  | 0, _, _ => none
  | _, _, [] => none
  | fuel + 1, seen, c :: rest =>
    if c = mark then
      let run := 1 + (rest.takeWhile (· = mark)).length
      if run < 3 then linesString? mark fuel (c :: seen) rest
      else if 5 < run then none
      else
        some (String.ofList (List.replicate (run - 3) mark ++ seen).reverse, rest.drop (run - 1))
    else if c = '\\' ∧ mark = '"' then
      match afterContinuation? rest with
      | some rest => linesString? mark fuel seen rest
      | none =>
        match escape? rest with
        | some (d, rest) => linesString? mark fuel (d :: seen) rest
        | none => none
    else if isPlain c then linesString? mark fuel (c :: seen) rest
    else
      match lineEnd? (c :: rest) with
      | some rest => linesString? mark fuel ('\n' :: seen) rest
      | none => none

/-- A string on one line. -/
def simpleString? : List Char → Option (String × List Char)
  | '"' :: rest => lineString? '"' (rest.length + 1) [] rest
  | '\'' :: rest => lineString? '\'' (rest.length + 1) [] rest
  | _ => none

/-- A string of any kind; a line end right after three opening marks is left out. -/
def string? : List Char → Option (String × List Char)
  | '"' :: '"' :: '"' :: rest =>
    linesString? '"' (rest.length + 1) [] ((lineEnd? rest).getD rest)
  | '\'' :: '\'' :: '\'' :: rest =>
    linesString? '\'' (rest.length + 1) [] ((lineEnd? rest).getD rest)
  | cs => simpleString? cs

/-! ## Numbers -/

/-- Digits of a class with single underscores between them, without the underscores. -/
def grouped? (isDigit : Char → Bool) (cs : List Char) : Option (List Char) :=
  let groups := Text.splitOn '_' cs
  if groups.all (fun g => !g.isEmpty && g.all isDigit) then some groups.flatten else none

/-- The sign and the rest. -/
def splitSign : List Char → Bool × List Char
  | '+' :: rest => (false, rest)
  | '-' :: rest => (true, rest)
  | cs => (false, cs)

/-- Decimal digits without a zero in front. -/
def decimal? (cs : List Char) : Option (List Char) := do
  let digits ← grouped? Char.isDigit cs
  if digits.length > 1 && digits.head? == some '0' then none else some digits

/-- A whole number of 64 bits with a sign. -/
def whole? (n : Int) : Option Item :=
  if -(Nat.pow 2 63 : Int) ≤ n ∧ n < Nat.pow 2 63 then some (.integer n) else none

/-- The value of digits in a base. -/
def inBase (base : Nat) (digits : List Char) : Int :=
  digits.foldl (fun n c => base * n + ((hexValue? c).getD 0 : Nat)) (0 : Int)

/-- A whole number. -/
def integer? (cs : List Char) : Option Item :=
  match cs with
  | '0' :: 'x' :: rest =>
    (grouped? (fun c => (hexValue? c).isSome) rest).bind (whole? <| inBase 16 ·)
  | '0' :: 'o' :: rest =>
    (grouped? (fun c => '0' ≤ c && c ≤ '7') rest).bind (whole? <| inBase 8 ·)
  | '0' :: 'b' :: rest =>
    (grouped? (fun c => c == '0' || c == '1') rest).bind (whole? <| inBase 2 ·)
  | cs =>
    let (negative, digits) := splitSign cs
    (decimal? digits).bind fun ds => whole? (if negative then -inBase 10 ds else inBase 10 ds)

/-- Whether a decimal rounds to a finite double. -/
def isFinite (digits : List Char) (exponent : Int) : Bool :=
  let n := Text.digitsValue digits
  let size : Int := digits.length + exponent
  if n = 0 then true
  else if 400 < size then false
  else if size < -400 then true
  else
    (if 0 ≤ exponent then Decimal.Binary64.nearest? false (n * Nat.pow 10 exponent.toNat) 1
    else Decimal.Binary64.nearest? false n (Nat.pow 10 (-exponent).toNat)).isSome

/-- An exponent, after its letter. -/
def exponent? (cs : List Char) : Option Int :=
  let (negative, digits) := splitSign cs
  (grouped? Char.isDigit digits).map fun ds =>
    if negative then -(Text.digitsValue ds : Int) else Text.digitsValue ds

/-- A number with a fraction, an exponent or both. -/
def float? (cs : List Char) : Option Item :=
  let (_, body) := splitSign cs
  if body = ['i', 'n', 'f'] || body = ['n', 'a', 'n'] then some .float
  else do
    let mantissa := body.takeWhile fun c => c != 'e' && c != 'E'
    let power := body.dropWhile fun c => c != 'e' && c != 'E'
    let exponent ← if power.isEmpty then some 0 else exponent? (power.drop 1)
    let whole ← decimal? (mantissa.takeWhile (· != '.'))
    let fraction ←
      match mantissa.dropWhile (· != '.') with
      | _ :: digits => grouped? Char.isDigit digits
      | [] => if power.isEmpty then none else some []
    if isFinite (whole ++ fraction) (exponent - fraction.length) then some .float else none

/-! ## Dates and times -/

/-- A number of exactly `count` digits. -/
def fixed? (count : Nat) (cs : List Char) : Option Nat :=
  if cs.length = count ∧ cs.all Char.isDigit then some (Text.digitsValue cs) else none

/-- The days of a month. -/
def daysIn (year month : Nat) : Nat :=
  if month = 2 then
    if year % 4 = 0 ∧ (year % 100 ≠ 0 ∨ year % 400 = 0) then 29 else 28
  else if [4, 6, 9, 11].contains month then 30
  else 31

/-- Whether a text is a date such as `1979-05-27`. -/
def isDate (cs : List Char) : Bool :=
  match (Text.splitOn '-' cs) with
  | [y, m, d] =>
    match fixed? 4 y, fixed? 2 m, fixed? 2 d with
    | some y, some m, some d => 1 ≤ m && m ≤ 12 && 1 ≤ d && d ≤ daysIn y m
    | _, _, _ => false
  | _ => false

/-- Whether a text is a time such as `07:32:00.5`. -/
def isTime (cs : List Char) : Bool :=
  match (Text.splitOn ':' cs) with
  | [h, m, s] =>
    let fraction := s.drop 2
    let fractionOk :=
      match fraction with
      | [] => true
      | '.' :: digits => !digits.isEmpty && digits.all Char.isDigit
      | _ => false
    match fixed? 2 h, fixed? 2 m, fixed? 2 (s.take 2) with
    | some h, some m, some s => h ≤ 23 && m ≤ 59 && s ≤ 60 && fractionOk
    | _, _, _ => false
  | _ => false

/-- Whether a text is an offset from universal time, such as `Z` or `-07:00`. -/
def isOffset (cs : List Char) : Bool :=
  match cs with
  | ['Z'] => true
  | ['z'] => true
  | sign :: rest =>
    match Text.splitOn ':' rest with
    | [h, m] =>
      match fixed? 2 h, fixed? 2 m with
      | some h, some m => (sign == '+' || sign == '-') && h ≤ 23 && m ≤ 59
      | _, _ => false
    | _ => false
  | [] => false

/-- Whether a text is a time, perhaps with an offset. -/
def isTimeWithOffset (cs : List Char) : Bool :=
  let isTimeChar (c : Char) : Bool := c.isDigit || c == ':' || c == '.'
  let offset := cs.dropWhile isTimeChar
  isTime (cs.takeWhile isTimeChar) && (offset.isEmpty || isOffset offset)

/-- A date, a time or both. -/
def datetime? (cs : List Char) : Option Item :=
  let found :=
    isDate cs || isTime cs ||
      (isDate (cs.take 10) &&
        (match cs.drop 10 with
          | c :: time => (c == 'T' || c == 't' || c == ' ') && isTimeWithOffset time
          | [] => false))
  if found then some .datetime else none

/-- Characters of numbers, dates and the words for truth values. -/
def isWordChar (c : Char) : Bool :=
  c.isAlphanum || c == '+' || c == '-' || c == '_' || c == '.' || c == ':'

/-- The word at the start of a text and what follows it. After a date, a space and a digit go on
with the time. -/
def splitWord (cs : List Char) : List Char × List Char :=
  let word := cs.takeWhile isWordChar
  let rest := cs.dropWhile isWordChar
  match rest with
  | ' ' :: c :: _ =>
    if isDate word ∧ c.isDigit then
      (word ++ ' ' :: (rest.drop 1).takeWhile isWordChar, (rest.drop 1).dropWhile isWordChar)
    else (word, rest)
  | _ => (word, rest)

/-- The item of a word. -/
def word? (word : List Char) : Option Item :=
  if word = "true".toList then some (.boolean true)
  else if word = "false".toList then some (.boolean false)
  else (integer? word).or ((float? word).or (datetime? word))

end ClusterBoard.Toml
