import ClusterBoard.Terminal.Escape
import ClusterBoard.Text.Lines

/-!
# The style of a painted text

A line that is cut out of a painted text has to carry its own escape sequences. `Style` is what the
sequences amount to at one place; it can be entered and left by sequences of its own.
-/

namespace ClusterBoard.Terminal

/-- The codes that switch something on, each with the code that switches it off. -/
def switches : List (Nat × Nat) :=
  [(1, 22), (2, 22), (3, 23), (4, 24), (5, 25), (6, 25), (7, 27), (8, 28), (9, 29), (20, 23),
    (21, 24), (26, 50), (51, 54), (52, 54), (53, 55), (60, 65), (61, 65), (62, 65), (63, 65),
    (64, 65), (73, 75), (74, 75)]

/-- What the escape sequences of a text amount to at one place. -/
structure Style where
  /-- The codes that are switched on. -/
  active : List Nat
  font : Option Nat
  /-- Colours, as the codes that choose them. -/
  color : Option (List Nat)
  background : Option (List Nat)
  lineColor : Option (List Nat)
  /-- Whether there was something that is not understood; only a reset ends it. -/
  isUnknown : Bool
  deriving DecidableEq, Repr, Inhabited

namespace Style

/-- No sequence so far. -/
def plain : Style := ⟨[], none, none, none, none, false⟩

/-- Where the colour of a code goes. -/
def withColor (style : Style) (code : Nat) (codes : Option (List Nat)) : Style :=
  if code = 38 || code = 39 then { style with color := codes }
  else if code = 48 || code = 49 then { style with background := codes }
  else { style with lineColor := codes }

/-- The style after one more code. -/
def apply (style : Style) (code : Nat) : Style :=
  if code = 0 then plain
  else if switches.any (·.1 = code) then { style with active := code :: style.active }
  else if switches.any (·.2 = code) then
    { style with active := style.active.filter fun on => !switches.contains (on, code) }
  else if code = 10 then { style with font := none }
  else if 11 ≤ code && code ≤ 19 then { style with font := some code }
  else if (30 ≤ code && code ≤ 37) || (90 ≤ code && code ≤ 97) then
    { style with color := some [code] }
  else if (40 ≤ code && code ≤ 47) || (100 ≤ code && code ≤ 107) then
    { style with background := some [code] }
  else if code = 39 || code = 49 || code = 59 then style.withColor code none
  else { style with isUnknown := true }

/-- The style after one more sequence of codes; what is no code is not understood. Colours of a
palette or of three components take several codes. -/
def applyAll (style : Style) : List (Option Nat) → Style
  | [] => style
  | some code :: some 5 :: some index :: rest =>
    if code = 38 || code = 48 || code = 58 then
      applyAll (style.withColor code (some [code, 5, index])) rest
    else applyAll (style.apply code) (some 5 :: some index :: rest)
  | some code :: some 2 :: some red :: some green :: some blue :: rest =>
    if code = 38 || code = 48 || code = 58 then
      applyAll (style.withColor code (some [code, 2, red, green, blue])) rest
    else applyAll (style.apply code) (some 2 :: some red :: some green :: some blue :: rest)
  | some code :: rest => applyAll (style.apply code) rest
  | none :: rest => applyAll { style with isUnknown := true } rest
termination_by codes => codes.length

/-- The sequences of those codes that are switched on. -/
def sequencesOf (style : Style) (codes : List Nat) : List Char :=
  codes.flatMap fun code => if style.active.contains code then sequence code else []

/-- The sequence of a colour. -/
def colorSequence (color : Option (List Nat)) : List Char := (color.map sequenceOf).getD []

/-- The sequences that enter the style. -/
def enter (style : Style) : List Char :=
  style.sequencesOf [1, 2, 3, 4, 5, 6, 7, 8, 9] ++ (style.font.map sequence).getD [] ++
    style.sequencesOf [20, 21, 26] ++ colorSequence style.color ++
    colorSequence style.background ++ style.sequencesOf [51, 52, 53] ++
    colorSequence style.lineColor ++ style.sequencesOf [60, 61, 62, 63, 64, 73, 74]

/-- The sequences of those codes that switch something off that is on. -/
def offSequences (style : Style) (codes : List Nat) : List Char :=
  codes.flatMap fun off =>
    if switches.any fun (on, o) => o = off && style.active.contains on then sequence off else []

/-- The sequences that leave the style. -/
def leave (style : Style) : List Char :=
  let off (isOn : Bool) (code : Nat) : List Char := if isOn then sequence code else []
  off style.font.isSome 10 ++ style.offSequences [22, 23, 24, 25, 27, 28, 29] ++
    off style.color.isSome 39 ++ off style.background.isSome 49 ++
    style.offSequences [50, 54, 55] ++ off style.lineColor.isSome 59 ++
    style.offSequences [65, 75] ++ off style.isUnknown 0

end Style

/-- A code of an escape sequence. No digits stand for 0, and there is none above 255. -/
def code? (digits : List Char) : Option Nat :=
  if digits.all Char.isDigit then
    let n := digits.foldl (fun n c => min 256 (10 * n + (c.toNat - '0'.toNat))) 0
    if n ≤ 255 then some n else none
  else none

/-- The codes of an escape sequence. -/
def codesOf : List Char → List (Option Nat)
  | '\x1b' :: '[' :: body => (Text.splitOn ';' body.dropLast).map code?
  | _ => [none]

/-- The style after a part of a text. -/
def Style.after (style : Style) (p : Part) : Style :=
  if p.kind = .style then style.applyAll (codesOf p.chars) else style

/-- The style after a text. What was not understood before is forgotten. -/
def Style.afterText (style : Style) (cs : List Char) : Style :=
  (parts cs).foldl Style.after { style with isUnknown := false }

/-- The lines of a painted text, each with the sequences that it needs by itself. An empty line
needs none. -/
def paintedLinesFrom (style : Style) : List (List Char) → List (List Char)
  | [] => []
  | [] :: rest => [] :: paintedLinesFrom style rest
  | line :: rest =>
    let after := style.afterText line
    (style.enter ++ line ++ after.leave) :: paintedLinesFrom after rest

/-- The lines of a painted text; a text ends a line at every line feed and nowhere else. A text of
one line is left as it is. -/
def paintedLines (cs : List Char) : List (List Char) :=
  match Text.splitOn '\n' cs with
  | [line] => [line]
  | lines => paintedLinesFrom .plain lines

/-- The columns that the widest of the lines takes, each by itself. -/
def textWidth (cs : List Char) : Nat := ((Text.lines cs).map lineWidth).foldl max 0

end ClusterBoard.Terminal
