import ClusterBoard.Decimal.Binary64
import ClusterBoard.Text.Blank
import ClusterBoard.Text.Unsigned

/-!
# Intervals

The interval between two refreshes is given in seconds, as a decimal number, and kept in whole
nanoseconds. The number is read as a double, so what rounds to the longest interval is one.
-/

namespace ClusterBoard.CommandLine

/-- The longest interval, in seconds. -/
def greatestSeconds : Nat := 86400

/-- The nanoseconds of a second. -/
def nanosPerSecond : Nat := Nat.pow 10 9

/-- A number as it is written: a sign and a magnitude, which may be no number at all. -/
inductive Magnitude where
  | notANumber
  | infinite
  | decimal (digits : List Char) (exponent : Int)
  deriving DecidableEq, Repr

/-- Splits off a sign. -/
def splitSign : List Char → Bool × List Char
  | '-' :: rest => (true, rest)
  | '+' :: rest => (false, rest)
  | cs => (false, cs)

/-- The exponent of a decimal, after its digits. -/
def decimalExponent? : List Char → Option Int
  | [] => some 0
  | e :: rest =>
    if e = 'e' || e = 'E' then
      let (negative, digits) := splitSign rest
      if digits.isEmpty || digits.any (!·.isDigit) then none
      else
        let value : Int := Text.digitsValue digits
        some (if negative then -value else value)
    else none

/-- The magnitude that a text without a sign is. A decimal has a digit before or after its point. -/
def magnitude? (cs : List Char) : Option Magnitude :=
  match String.ofList (cs.map Char.toLower) with
  | "inf" | "infinity" => some .infinite
  | "nan" => some .notANumber
  | _ =>
    let whole := cs.takeWhile Char.isDigit
    let rest := cs.dropWhile Char.isDigit
    let (fraction, rest) :=
      match rest with
      | '.' :: more => (more.takeWhile Char.isDigit, more.dropWhile Char.isDigit)
      | more => ([], more)
    if whole.isEmpty && fraction.isEmpty then none
    else (decimalExponent? rest).map fun e => .decimal (whole ++ fraction) (e - fraction.length)

/-- The double of a decimal; `none` if it is far too long for an interval. What is below the least
double by far need not be worked out. -/
def secondsOf? (digits : List Char) (exponent : Int) : Option Decimal.Binary64 :=
  let digits := digits.dropWhile (· == '0')
  let size : Int := digits.length + exponent
  let n := Text.digitsValue digits
  if digits.isEmpty || size < -330 then some (.zero false)
  else if 10 < size then none
  else if 0 ≤ exponent then Decimal.Binary64.nearest? false (n * Nat.pow 10 exponent.toNat) 1
  else Decimal.Binary64.nearest? false n (Nat.pow 10 (-exponent).toNat)

/-- The interval in nanoseconds that a text gives, or why it gives none. -/
def readInterval (value : String) : Except String Nat :=
  let outside := s!"must be between 0 and {greatestSeconds} seconds"
  let (negative, cs) := splitSign (Text.trim value.toList)
  match magnitude? cs with
  | none => .error s!"'{value}' is not a number of seconds"
  | some .notANumber | some .infinite => .error outside
  | some (.decimal digits exponent) =>
    match secondsOf? digits exponent with
    | none => .error outside
    | some seconds =>
      let (num, den) := seconds.magnitude
      if greatestSeconds * den < num then .error outside
      else if negative && num != 0 then .error outside
      else .ok (Decimal.roundHalfEven (num * nanosPerSecond) den)

end ClusterBoard.CommandLine
