/-!
# The selected row

A table shows one row as selected, by its place. A move gives the new place in a table of `count`
rows; in an empty table the place is 0.
-/

namespace ClusterBoard.Console.Selection

/-- One row up, unless the row is the first. -/
def up (selected : Nat) : Nat := selected - 1

/-- One row down, unless the row is the last. -/
def down (count selected : Nat) : Nat :=
  if selected + 1 < count then selected + 1 else selected

/-- The first row. -/
def top : Nat := 0

/-- The last row. -/
def bottom (count : Nat) : Nat := count - 1

/-- The place, or the last row if there are too few. -/
def clamp (count selected : Nat) : Nat := min selected (count - 1)

/-- The place of the first row on screen, for `visible` lines. The selected row stays near the
middle; at both ends of the table it moves away from it. -/
def scrollOffset (selected visible total : Nat) : Nat :=
  if visible = 0 ∨ total = 0 then 0
  else if selected < visible / 2 then 0
  else if total - visible / 2 < selected then total - visible
  else selected - visible / 2

end ClusterBoard.Console.Selection
