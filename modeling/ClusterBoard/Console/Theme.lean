import ClusterBoard.Record.State
import ClusterBoard.Screen.Style

/-!
# Themes

The colours of the console, for dark and for light terminals. The colours of flagged and of good
cells can be told apart without telling red from green.
-/

namespace ClusterBoard.Console

open Screen

/-- The colours of the console. -/
structure Theme where
  name : String
  text : Color
  border : Color
  focusedBorder : Color
  good : Color
  alert : Color
  warning : Color
  selectedBack : Color
  selectedText : Color
  headerBack : Color
  headerText : Color
  link : Color
  /-- The focused user and titles. -/
  highlight : Color
  deriving DecidableEq, Repr

namespace Theme

/-- The theme for dark terminals. -/
def dark : Theme :=
  { name := "Dark"
    text := .white
    border := .darkGray
    focusedBorder := .cyan
    good := .rgb 0 200 0
    alert := .rgb 255 80 80
    warning := .rgb 255 180 0
    selectedBack := .rgb 60 60 80
    selectedText := .white
    headerBack := .rgb 40 80 120
    headerText := .white
    link := .rgb 80 160 255
    highlight := .cyan }

/-- The theme for light terminals, in darker colours. -/
def light : Theme :=
  { name := "Light"
    text := .black
    border := .rgb 120 120 120
    focusedBorder := .rgb 0 100 180
    good := .rgb 0 140 0
    alert := .rgb 200 0 0
    warning := .rgb 200 120 0
    selectedBack := .rgb 200 220 255
    selectedText := .black
    headerBack := .rgb 180 200 230
    headerText := .black
    link := .rgb 0 80 180
    highlight := .rgb 0 100 180 }

/-- The theme of a name in any case; anything unknown means the dark one. -/
def ofName (name : String) : Theme := if name.map Char.toLower = "light" then light else dark

/-- The colour of a tone. -/
def tone (theme : Theme) : Tone → Color
  | .normal => theme.text
  | .good => theme.good
  | .alert => theme.alert

end Theme

end ClusterBoard.Console
