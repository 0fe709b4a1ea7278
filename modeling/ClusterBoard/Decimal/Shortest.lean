import ClusterBoard.Decimal.Binary64

/-!
# The shortest decimal of a double

`Binary64.shortest` is the decimal with the fewest digits that lies in the interval of numbers
which round to the double, and of those the nearest. For each number of digits only the two
neighbours on that decimal grid are tried, in exact arithmetic; seventeen digits always suffice.
-/

namespace ClusterBoard

/-- The decimal `digits * 10 ^ exponent`. -/
structure Decimal where
  digits : Nat
  exponent : Int
  deriving DecidableEq, Repr, Inhabited

namespace Decimal

/-- The number of decimal digits of a whole number. -/
def digitCount (n : Nat) : Nat := (Nat.toDigits 10 n).length

/-- The place of the first digit: `10 ^ (k - 1) ≤ num / den < 10 ^ k`. -/
def pointPosition (num den : Nat) : Int :=
  if den ≤ num then digitCount (num / den)
  else
    let length := digitCount (den / num)
    if den = num * Nat.pow 10 (length - 1) then 2 - length else 1 - length

namespace Binary64

/-- The fraction `x * 2 ^ e`. -/
def timesPowerOfTwo (x : Nat) (e : Int) : Nat × Nat :=
  if 0 ≤ e then (x * Nat.pow 2 e.toNat, 1) else (x, Nat.pow 2 (-e).toNat)

/-- The quarter steps of the mantissa at the two ends of the interval that rounds to `x`. The
gap below a power of two is half as wide as the one above. -/
def quarterBounds (x : Binary64) : Nat × Nat :=
  let low := if x.mantissa = Nat.pow 2 52 ∧ leastExponent < x.exponent then 1 else 2
  (4 * x.mantissa - low, 4 * x.mantissa + 2)

/-- Whether `digits * 10 ^ exponent` rounds to `x`. The ends belong to the interval exactly when
the mantissa is even. -/
def covers (x : Binary64) (digits : Nat) (exponent : Int) : Bool :=
  let (low, high) := x.quarterBounds
  let (lowNum, den) := timesPowerOfTwo low (x.exponent - 2)
  let (highNum, _) := timesPowerOfTwo high (x.exponent - 2)
  let (num, gridDen) :=
    if 0 ≤ exponent then (digits * Nat.pow 10 exponent.toNat, 1)
    else (digits, Nat.pow 10 (-exponent).toNat)
  let point := num * den
  let (lowNum, highNum) := (lowNum * gridDen, highNum * gridDen)
  if x.mantissa % 2 = 0 then lowNum ≤ point && point ≤ highNum
  else lowNum < point && point < highNum

/-- The better of the two neighbours of `x` on the grid of `10 ^ exponent`, if one rounds to it. -/
def onGrid? (x : Binary64) (exponent : Int) : Option Decimal :=
  let (num, den) := x.magnitude
  let (num, den) :=
    if 0 ≤ exponent then (num, den * Nat.pow 10 exponent.toNat)
    else (num * Nat.pow 10 (-exponent).toNat, den)
  let below := num / den
  let above := below + 1
  match x.covers below exponent, x.covers above exponent with
  | true, true => some ⟨roundHalfEven num den, exponent⟩
  | true, false => some ⟨below, exponent⟩
  | false, true => some ⟨above, exponent⟩
  | false, false => none

/-- Seventeen digits round to the double they come from, so the search ends. -/
def mostDigits : Nat := 17

/-- The first grid with a hit, from `count` digits on. -/
def shortestFrom (x : Binary64) (point : Int) (count : Nat) : Nat → Decimal
  | 0 => ⟨0, 0⟩
  | fuel + 1 =>
    match x.onGrid? (point - count) with
    | some d => d
    | none => shortestFrom x point (count + 1) fuel

/-- The fewest digits that read back as the magnitude of `x`, nearest first. -/
def shortest (x : Binary64) : Decimal :=
  if x.mantissa = 0 then ⟨0, 0⟩
  else
    let (num, den) := x.magnitude
    x.shortestFrom (pointPosition num den) 1 mostDigits

end Binary64

end Decimal

end ClusterBoard
