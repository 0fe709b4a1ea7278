/-!
# Colours and styles of the screen
-/

namespace ClusterBoard.Screen

/-- A colour: the terminal's own, one of its palette, or one mixed of red, green and blue. -/
inductive Color where
  | terminal
  | black
  | white
  | cyan
  | darkGray
  | rgb (red green blue : Nat)
  deriving DecidableEq, Repr, Inhabited

/-- What a style says of a place; what it leaves open stays as it is. -/
structure Style where
  text : Option Color
  back : Option Color
  bold : Bool
  deriving DecidableEq, Repr, Inhabited

namespace Style

/-- Says nothing. -/
def plain : Style := ⟨none, none, false⟩

/-- A colour of the text. -/
def ofText (color : Color) : Style := { plain with text := some color }

/-- A colour of the background. -/
def ofBack (color : Color) : Style := { plain with back := some color }

/-- The style in bold. -/
def inBold (style : Style) : Style := { style with bold := true }

end Style

end ClusterBoard.Screen
