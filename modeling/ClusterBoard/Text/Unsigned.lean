/-!
# Unsigned numbers

A number that fits a word is written as a run of decimal digits, perhaps after a plus sign.
-/

namespace ClusterBoard.Text

/-- The value of a run of decimal digits. -/
def digitsValue (ds : List Char) : Nat := ds.foldl (fun n c => 10 * n + (c.toNat - '0'.toNat)) 0

/-- The number below `bound` that a text is. -/
def unsignedBelow? (bound : Nat) (cs : List Char) : Option Nat :=
  let digits :=
    match cs with
    | '+' :: rest => rest
    | cs => cs
  if digits.isEmpty || digits.any (!·.isDigit) then none
  else
    let n := digitsValue digits
    if n < bound then some n else none

/-- The number of 64 bits that a text is. -/
def unsigned64? (text : String) : Option Nat := unsignedBelow? (Nat.pow 2 64) text.toList

end ClusterBoard.Text
