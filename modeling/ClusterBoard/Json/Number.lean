import ClusterBoard.Decimal.Shortest

/-!
# Numbers of a document

A number is a whole number that fits 64 bits, unsigned or signed, or else a double. `Number.chars`
writes it: whole numbers plainly, doubles with the fewest digits that read back.
-/

namespace ClusterBoard

open Decimal

namespace Json

/-- A number as a reader keeps it. -/
inductive Number where
  | whole (value : Int)
  | double (value : Binary64)
  deriving DecidableEq, Repr, Inhabited

/-- How the digits of a double are laid out. -/
structure DoubleLayout where
  /-- The least exponent of the first digit that is written without a power of ten. -/
  leastPositional : Int
  /-- The first exponent of the first digit that is written with a power of ten. -/
  firstScientific : Int
  deriving Repr

namespace Number

/-- From `0.00001` to below `10 ^ 16` a double is written positionally, with at least one digit on
each side of the point; otherwise as `1.5e+20` or `1e-6`, with a sign and no forced point. -/
def layout : DoubleLayout := ⟨-5, 16⟩

/-- The decimal digits of a whole number. -/
def natChars (n : Nat) : List Char := Nat.toDigits 10 n

/-- The digits without the zeros at their end. -/
def significantDigits (n : Nat) : List Char :=
  (((natChars n).reverse.dropWhile (· == '0'))).reverse

/-- Digits with the point after the first `position` of them, filled up with zeros. -/
def positionalChars (digits : List Char) (position : Int) : List Char :=
  if position ≤ 0 then ['0', '.'] ++ List.replicate (-position).toNat '0' ++ digits
  else
    let count := position.toNat
    let whole := digits.take count ++ List.replicate (count - digits.length) '0'
    let fraction := digits.drop count
    whole ++ '.' :: (if fraction.isEmpty then ['0'] else fraction)

/-- Digits with a point after the first one and a signed power of ten. -/
def scientificChars (digits : List Char) (exponent : Int) : List Char :=
  let head := digits.take 1
  let tail := digits.drop 1
  head ++ (if tail.isEmpty then [] else '.' :: tail) ++
    'e' :: (if exponent < 0 then '-' else '+') :: natChars exponent.natAbs

/-- The text of a double. -/
def doubleChars (x : Binary64) : List Char :=
  let sign := if x.negative then ['-'] else []
  let text :=
    if x.mantissa = 0 then ['0', '.', '0']
    else
      let d := x.shortest
      let position := digitCount d.digits + d.exponent
      let digits := significantDigits d.digits
      if layout.leastPositional ≤ position - 1 ∧ position - 1 < layout.firstScientific then
        positionalChars digits position
      else scientificChars digits (position - 1)
  sign ++ text

/-- The text of a number. -/
def chars : Number → List Char
  | .whole (.ofNat n) => natChars n
  | .whole (.negSucc n) => '-' :: natChars (n + 1)
  | .double x => doubleChars x

end Number

end Json

end ClusterBoard
