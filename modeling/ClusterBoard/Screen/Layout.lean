import ClusterBoard.Screen.Canvas

/-!
# Layout

How the screen is divided. Parts have wanted sizes; where there is too little room some give way
before others, and edges that fall between two columns go to the nearer one, from the middle to the
right.
-/

namespace ClusterBoard.Screen

/-- The nearest whole number to a fraction; a half goes up. -/
def roundHalfUp (num den : Nat) : Nat := (2 * num + den) / (2 * den)

namespace Area

/-- The part of the middle, with the same share in percent left free on both sides of each way. The
free shares are whole, so a part of an odd share is not quite in the middle. -/
def centered (a : Area) (percentX percentY : Nat) : Area :=
  let span (start size percent : Nat) : Nat × Nat :=
    let free := (100 - percent) / 2
    let first := roundHalfUp (100 * start + free * size) 100
    (first, roundHalfUp (100 * start + (free + percent) * size) 100 - first)
  let (x, width) := span a.x a.width percentX
  let (y, height) := span a.y a.height percentY
  ⟨x, y, width, height⟩

/-- A first and a last line around at least `least` lines between them. Where room is short, the
last line gives way before the first. -/
def splitMiddle (a : Area) (least : Nat) : Area × Area × Area :=
  let upper := min 1 (a.height - least)
  let lower := min 1 (a.height - least - upper)
  let middle := a.height - upper - lower
  (a.lines 0 upper, a.lines upper middle, a.lines (upper + middle) lower)

/-- At least `least` lines, and one line below them if there is room. -/
def splitFoot (a : Area) (least : Nat) : Area × Area :=
  let lower := min 1 (a.height - least)
  (a.lines 0 (a.height - lower), a.lines (a.height - lower) lower)

end Area

/-- Columns side by side with a free column between each two, from their sizes in parts of which
`parts` make up a column; each with its first column and its width. -/
def sideBySide (parts : Nat) (sizes : List Nat) : List (Nat × Nat) :=
  place 0 sizes
where
  place (start : Nat) : List Nat → List (Nat × Nat)
    | [] => []
    | size :: rest =>
      let first := roundHalfUp start parts
      (first, roundHalfUp (start + size) parts - first) :: place (start + size + parts) rest

end ClusterBoard.Screen
