/-!
# Finite doubles

A finite value of the 64-bit binary format is a sign, a whole mantissa below `2 ^ 53` and an
exponent of two from `-1074` to `971`. Arithmetic is exact on fractions and rounds once, to the
nearest value, so every step can be reasoned about in whole numbers. `Binary64.nearest?` is the
rounding; `none` means that the result lies beyond the largest double.
-/

namespace ClusterBoard.Decimal

/-- A finite double, `± mantissa * 2 ^ exponent`. The mantissa is at least `2 ^ 52` unless the
exponent is the least one, so each value has one form for each sign. -/
structure Binary64 where
  negative : Bool
  mantissa : Nat
  exponent : Int
  deriving DecidableEq, Repr, Inhabited

/-- A quotient to the nearest whole number; a half goes to the even neighbour. -/
def roundHalfEven (num den : Nat) : Nat :=
  let quotient := num / den
  let twice := 2 * (num % den)
  if den < twice ∨ (twice = den ∧ quotient % 2 = 1) then quotient + 1 else quotient

/-- The fraction `num / den / 2 ^ e`. -/
def scaleByPowerOfTwo (num den : Nat) (e : Int) : Nat × Nat :=
  if 0 ≤ e then (num, den * Nat.pow 2 e.toNat) else (num * Nat.pow 2 (-e).toNat, den)

namespace Binary64

/-- The least exponent: the spacing of the values next to zero is `2 ^ -1074`. -/
def leastExponent : Int := -1074

/-- The exponent of the largest values. -/
def greatestExponent : Int := 971

/-- The exponent at which a positive fraction has a mantissa of 53 bits, or the least one. -/
def exponentOf (num den : Nat) : Int :=
  let guess : Int := (num.log2 : Int) - den.log2 - 52
  let (n, d) := scaleByPowerOfTwo num den guess
  max leastExponent (if n / d < Nat.pow 2 52 then guess - 1 else guess)

/-- Zero, with a sign. -/
def zero (negative : Bool) : Binary64 := ⟨negative, 0, leastExponent⟩

/-- The double nearest to `± num / den`; of two equally near ones the one with the even mantissa. -/
def nearest? (negative : Bool) (num den : Nat) : Option Binary64 :=
  if num = 0 then some (zero negative)
  else
    let e := exponentOf num den
    let (n, d) := scaleByPowerOfTwo num den e
    let m := roundHalfEven n d
    let (m, e) := if m = Nat.pow 2 53 then (Nat.pow 2 52, e + 1) else (m, e)
    if greatestExponent < e then none else some ⟨negative, m, e⟩

/-- The magnitude as a fraction. -/
def magnitude (x : Binary64) : Nat × Nat :=
  if 0 ≤ x.exponent then (x.mantissa * Nat.pow 2 x.exponent.toNat, 1)
  else (x.mantissa, Nat.pow 2 (-x.exponent).toNat)

/-- The product, rounded. -/
def mul? (x y : Binary64) : Option Binary64 :=
  let (a, b) := x.magnitude
  let (c, d) := y.magnitude
  nearest? (x.negative != y.negative) (a * c) (b * d)

/-- The quotient by a value that is not zero, rounded. -/
def div? (x y : Binary64) : Option Binary64 :=
  let (a, b) := x.magnitude
  let (c, d) := y.magnitude
  nearest? (x.negative != y.negative) (a * d) (b * c)

/-- The same magnitude with the given sign. -/
def withSign (x : Binary64) (negative : Bool) : Binary64 := { x with negative }

/-- The largest power of ten below the largest double has this exponent. -/
def greatestPowerOfTen : Nat := 308

/-- A power of ten, rounded. -/
def powerOfTen? (exponent : Nat) : Option Binary64 := nearest? false (Nat.pow 10 exponent) 1

/-- Division by `d`, `count` times; once zero is reached nothing changes any more. -/
def divTimes? (x d : Binary64) : Nat → Option Binary64
  | 0 => some x
  | count + 1 => if x.mantissa = 0 then some x else (x.div? d).bind (divTimes? · d count)

/-- Division by the greatest power of ten as often as the exponent asks for, then by the rest. -/
def divPowerOfTen? (x : Binary64) (exponent : Nat) : Option Binary64 := do
  let greatest ← powerOfTen? greatestPowerOfTen
  let count := (exponent - 1) / greatestPowerOfTen
  let y ← x.divTimes? greatest count
  y.div? (← powerOfTen? (exponent - count * greatestPowerOfTen))

/-- The double read from a decimal of whole significand: the significand and the power of ten are
rounded each, and so is their product or quotient. `none` where the result is too large. -/
def ofDecimal? (negative : Bool) (significand : Nat) (exponent : Int) : Option Binary64 :=
  (nearest? false significand 1).bind fun x =>
    let magnitude :=
      if exponent < 0 then x.divPowerOfTen? (-exponent).toNat
      else if exponent ≤ greatestPowerOfTen then
        (powerOfTen? exponent.toNat).bind x.mul?
      else if significand = 0 then some x
      else none
    magnitude.map (·.withSign negative)

end Binary64

end ClusterBoard.Decimal
