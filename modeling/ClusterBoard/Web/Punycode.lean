/-!
# Punycode

A label of a domain name that is not ASCII is written as `xn--` and an ASCII text: first the ASCII
characters, then for each other character, in rising order, how far to go from the one before, as a
number of variable length in base 36 whose thresholds follow a bias.
-/

namespace ClusterBoard.Web.Punycode

/-- The digit of a value below 36. -/
def digitChar (d : Nat) : Char :=
  if d < 26 then Char.ofNat ('a'.toNat + d) else Char.ofNat ('0'.toNat + (d - 26))

/-- The value of a digit. -/
def digitValue? (c : Char) : Option Nat :=
  if 'a' ≤ c ∧ c ≤ 'z' then some (c.toNat - 'a'.toNat)
  else if '0' ≤ c ∧ c ≤ '9' then some (c.toNat - '0'.toNat + 26)
  else none

/-- The threshold of the digit at place `k`, a multiple of 36. -/
def threshold (k bias : Nat) : Nat := max 1 (min 26 (k - bias))

/-- The halving steps of the bias. -/
def adaptFrom (k delta : Nat) : Nat → Nat
  | 0 => k
  | fuel + 1 =>
    if delta ≤ 455 then k + 36 * delta / (delta + 38) else adaptFrom (k + 36) (delta / 35) fuel

/-- The bias after a number. -/
def adapt (delta count : Nat) (first : Bool) : Nat :=
  let delta := if first then delta / 700 else delta / 2
  let delta := delta + delta / count
  adaptFrom 0 delta (delta + 1)

/-- A number with variable length. -/
def encodeNumber (bias k : Nat) : Nat → Nat → List Char
  | 0, _ => []
  | fuel + 1, n =>
    let t := threshold k bias
    if n < t then [digitChar n]
    else digitChar (t + (n - t) % (36 - t)) :: encodeNumber bias (k + 36) fuel ((n - t) / (36 - t))

/-- How far the coding has come. -/
structure Coding where
  point : Nat
  delta : Nat
  bias : Nat
  handled : Nat
  first : Bool
  written : List Char

/-- One pass over the label for the code point `m`. -/
def encodePass (cs : List Char) (m : Nat) (s : Coding) : Coding :=
  let s := { s with delta := s.delta + (m - s.point) * (s.handled + 1), point := m }
  let s := cs.foldl (fun (s : Coding) c =>
    if c.toNat < m then { s with delta := s.delta + 1 }
    else if c.toNat = m then
      { s with
        written := s.written ++ encodeNumber s.bias 36 (s.delta + 1) s.delta
        bias := adapt s.delta (s.handled + 1) s.first
        delta := 0
        handled := s.handled + 1
        first := false }
    else s) s
  { s with delta := s.delta + 1, point := s.point + 1 }

/-- A label as ASCII, without `xn--`. -/
def encode (cs : List Char) : List Char :=
  let basic := cs.filter (·.toNat < 0x80)
  let points := ((cs.filter (0x80 ≤ ·.toNat)).map Char.toNat).mergeSort
  let start : Coding :=
    ⟨0x80, 0, 72, basic.length, true, basic ++ (if basic.isEmpty then [] else ['-'])⟩
  (points.eraseDups.foldl (fun s m => encodePass cs m s) start).written

/-- A number with variable length, and what follows it. -/
def decodeNumber? (bias : Nat) : Nat → Nat → Nat → List Char → Option (Nat × List Char)
  | _, _, _, [] => none
  | k, weight, value, c :: rest => do
    let d ← digitValue? c
    let value := value + d * weight
    let t := threshold k bias
    if d < t then some (value, rest) else decodeNumber? bias (k + 36) (weight * (36 - t)) value rest

/-- The rest of a label from the numbers that are left. -/
def decodeFrom? : Nat → Nat → Nat → Nat → Bool → List Char → List Char → Option (List Char)
  | _, _, _, _, _, out, [] => some out
  | 0, _, _, _, _, _, _ => none
  | fuel + 1, point, place, bias, first, out, cs => do
    let (delta, rest) ← decodeNumber? bias 36 1 0 cs
    let total := place + delta
    let count := out.length + 1
    let point := point + total / count
    if h : point.isValidChar then
      let place := total % count
      let out := out.take place ++ Char.ofNatAux point h :: out.drop place
      decodeFrom? fuel point (place + 1) (adapt delta count first) false out rest
    else none

/-- The label that an ASCII text after `xn--` stands for. A hyphen that ends the ASCII characters
has to have some before it. -/
def decode? (cs : List Char) : Option (List Char) :=
  let tail := (cs.reverse.takeWhile (· != '-')).reverse
  let basic := cs.take (cs.length - tail.length - 1)
  if basic.any (0x80 ≤ ·.toNat) || (basic.isEmpty && tail.length < cs.length) then none
  else decodeFrom? (cs.length + 1) 0x80 0 72 true basic tail

end ClusterBoard.Web.Punycode
