import ClusterBoard.Screen.Style
import ClusterBoard.Text.Shaping

/-!
# The canvas

A canvas is a grid of tiles, one a column of a terminal line. What is drawn outside of it is lost.
A terminal shows nothing of a tile that the wide symbol before it covers, not even where that symbol
ends one line and the tile begins the next.
-/

namespace ClusterBoard.Screen

/-- A rectangle of the screen. -/
structure Area where
  x : Nat
  y : Nat
  width : Nat
  height : Nat
  deriving DecidableEq, Repr, Inhabited

namespace Area

/-- The first column to the right of the area. -/
def right (a : Area) : Nat := a.x + a.width

/-- The first line below the area. -/
def bottom (a : Area) : Nat := a.y + a.height

/-- Whether the area has no tiles. -/
def isEmpty (a : Area) : Bool := a.width == 0 || a.height == 0

/-- Lines of the area, from one on. -/
def lines (a : Area) (first count : Nat) : Area := { a with y := a.y + first, height := count }

/-- A line of the area. -/
def line (a : Area) (i : Nat) : Area := a.lines i 1

/-- The area without a margin of one tile. -/
def inner (a : Area) : Area :=
  ⟨min (a.x + 1) a.right, min (a.y + 1) a.bottom, a.width - 2, a.height - 2⟩

end Area

/-- What one place of the screen shows. -/
structure Tile where
  symbol : String
  text : Color
  back : Color
  bold : Bool
  deriving DecidableEq, Repr, Inhabited

namespace Tile

/-- A place that shows nothing. -/
def blank : Tile := ⟨" ", .terminal, .terminal, false⟩

/-- Whether the symbol covers the tile to its right. -/
def isWide (tile : Tile) : Bool := 1 < Text.width tile.symbol.toList

/-- The tile in another style. -/
def restyle (style : Style) (tile : Tile) : Tile :=
  { tile with
    text := style.text.getD tile.text
    back := style.back.getD tile.back
    bold := tile.bold || style.bold }

end Tile

/-- The tiles of a screen, line by line. -/
structure Canvas where
  width : Nat
  height : Nat
  tiles : Array Tile
  deriving Repr

namespace Canvas

/-- An empty screen. -/
def blank (width height : Nat) : Canvas := ⟨width, height, Array.replicate (width * height) .blank⟩

/-- The whole screen. -/
def area (c : Canvas) : Area := ⟨0, 0, c.width, c.height⟩

/-- A change of one tile. -/
def modify (c : Canvas) (x y : Nat) (change : Tile → Tile) : Canvas :=
  if x < c.width ∧ y < c.height then
    { c with tiles := c.tiles.modify (y * c.width + x) change }
  else c

/-- A change of all tiles of an area. -/
def modifyArea (c : Canvas) (a : Area) (change : Tile → Tile) : Canvas :=
  (List.range a.height).foldl (fun c j =>
    (List.range a.width).foldl (fun c i => c.modify (a.x + i) (a.y + j) change) c) c

/-- A style for all tiles of an area. -/
def restyle (c : Canvas) (a : Area) (style : Style) : Canvas := c.modifyArea a (Tile.restyle style)

/-- An area emptied. -/
def clear (c : Canvas) (a : Area) : Canvas := c.modifyArea a fun _ => .blank

/-- A symbol in a style at one place. -/
def put (c : Canvas) (x y : Nat) (symbol : String) (style : Style) : Canvas :=
  c.modify x y fun tile => { tile with symbol }.restyle style

/-- A symbol added to that of one place, in a style. -/
def append (c : Canvas) (x y : Nat) (symbol : String) (style : Style) : Canvas :=
  c.modify x y fun tile => { tile with symbol := tile.symbol ++ symbol }.restyle style

/-- Tiles as a terminal shows them, where the first one may be covered. A covered tile shows
nothing, but a wide symbol in it covers the next one all the same. -/
def uncovered : Bool → List Tile → List Tile
  | _, [] => []
  | isCovered, tile :: rest =>
    (if isCovered then .blank else tile) :: uncovered tile.isWide rest

/-- Each line as a terminal shows it. -/
def shownLines (c : Canvas) : List (List Tile) :=
  let shown := (uncovered false c.tiles.toList).toArray
  (List.range c.height).map fun y => (shown.extract (y * c.width) ((y + 1) * c.width)).toList

end Canvas

end ClusterBoard.Screen
