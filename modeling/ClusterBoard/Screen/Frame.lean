import ClusterBoard.Screen.Text

/-!
# Frames

A frame surrounds an area with a line. It has a title at the left of its upper side and perhaps one
at the right of its lower side.
-/

namespace ClusterBoard.Screen

/-- A frame. -/
structure Frame where
  title : String
  /-- The title of the lower side. -/
  lowerTitle : Option String
  border : Color
  deriving DecidableEq, Repr

namespace Frame

/-- The symbol of a frame's line at a place. Where sides meet, the left and the upper one count. -/
def symbolAt? (a : Area) (x y : Nat) : Option String :=
  let isLeft := x == a.x
  let isRight := x + 1 == a.right
  let isUpper := y == a.y
  let isLower := y + 1 == a.bottom
  if isUpper && isLeft then some "┌"
  else if isLower && isLeft then some "└"
  else if isUpper && isRight then some "┐"
  else if isLower && isRight then some "┘"
  else if isUpper || isLower then some "─"
  else if isLeft || isRight then some "│"
  else none

/-- The symbols at the end of a title that fit into `limit` columns. -/
def lastColumns (limit : Nat) (symbols : List Symbol) : List Symbol :=
  (cutBack limit symbols.reverse).reverse
where
  cutBack : Nat → List Symbol → List Symbol
    | _, [] => []
    | limit, s :: rest => if limit < s.width then [] else s :: cutBack (limit - s.width) rest

/-- The frame drawn around an area. -/
def draw (f : Frame) (c : Canvas) (a : Area) : Canvas :=
  if a.isEmpty then c
  else
    let style := Style.ofText f.border
    let places := (List.range a.height).flatMap fun j =>
      (List.range a.width).map fun i => (a.x + i, a.y + j)
    let c := places.foldl (fun c (x, y) =>
      match symbolAt? a x y with
      | some symbol => c.put x y symbol style
      | none => c) c
    let room := a.width - 2
    let line := Line.joined f.title
    let c := c.putLine ⟨a.x + 1, a.y, min line.width room, 1⟩ line
    match f.lowerTitle with
    | none => c
    | some title =>
      let symbols := lastColumns room (Line.joined title).symbols
      let last := a.x + 1 + room
      c.putSymbols (last - symbolsWidth symbols) (a.bottom - 1) last symbols

end Frame

end ClusterBoard.Screen
