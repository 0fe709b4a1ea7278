/-!
# Ranges of characters

A property of characters is a table of the ranges that have it, both ends included, in rising order.
-/

namespace ClusterBoard.Text

/-- Whether a number lies in one of the ranges from `low` up to `high`, by halving. -/
def inRangesBetween (ranges : Array (Nat × Nat)) (n : Nat) : Nat → Nat → Nat → Bool
  | 0, _, _ => false
  | fuel + 1, low, high =>
    if low < high then
      let middle := (low + high) / 2
      match ranges[middle]? with
      | none => false
      | some (first, last) =>
        if n < first then inRangesBetween ranges n fuel low middle
        else if last < n then inRangesBetween ranges n fuel (middle + 1) high
        else true
    else false

/-- Whether a number lies in one of the rising ranges. -/
def inRanges (ranges : Array (Nat × Nat)) (n : Nat) : Bool :=
  inRangesBetween ranges n (ranges.size + 1) 0 ranges.size

/-- Whether a character lies in one of the rising ranges. -/
def isIn (ranges : Array (Nat × Nat)) (c : Char) : Bool := inRanges ranges c.toNat

/-- Control characters. -/
def isControl (c : Char) : Bool := c.toNat < 0x20 || (0x7F ≤ c.toNat && c.toNat < 0xA0)

end ClusterBoard.Text
