import ClusterBoard.Screen.Text

/-!
# Paragraphs

A paragraph fills an area with lines. Lines that are too long are cut, or wrapped between words; a
word that is longer than a line is broken. Wrapping keeps the white space at the start of a line and
drops it at the end.
-/

namespace ClusterBoard.Screen

/-- Where lines stand in an area. -/
inductive Alignment where
  | left
  | center
  deriving DecidableEq, Repr

/-- The symbols of a line that fit into `limit` columns. Symbols wider than that are left out. -/
def cutTo (limit : Nat) : Nat → List Symbol → List Symbol
  | _, [] => []
  | used, s :: rest =>
    if limit < s.width then cutTo limit used rest
    else if limit < used + s.width then []
    else s :: cutTo limit (used + s.width) rest

/-- The state of wrapping a line: the finished lines, the line at hand, and behind it white space
and a word that are not yet placed. -/
structure Wrapping where
  finished : List (List Symbol)
  line : List Symbol
  blanks : List Symbol
  word : List Symbol
  /-- Whether the last symbol belongs to a word. -/
  inWord : Bool

namespace Wrapping

/-- Nothing read. -/
def initial : Wrapping := ⟨[], [], [], [], false⟩

/-- The white space and the word placed at the end of the line. -/
def place (w : Wrapping) : Wrapping :=
  { w with line := w.line ++ w.blanks ++ w.word, blanks := [], word := [] }

/-- The white space that is left after `columns` columns of it. -/
def dropColumns : Nat → List Symbol → List Symbol
  | _, [] => []
  | columns, s :: rest =>
    if columns < s.width then s :: rest else dropColumns (columns - s.width) rest

/-- The line finished; white space up to its end is dropped. -/
def breakLine (limit : Nat) (w : Wrapping) : Wrapping :=
  { w with
    finished := w.finished ++ [w.line]
    line := []
    blanks := dropColumns (limit - symbolsWidth w.line) w.blanks }

/-- One more symbol. -/
def push (w : Wrapping) (s : Symbol) : Wrapping :=
  if s.isBlank then { w with blanks := w.blanks ++ [s], inWord := false }
  else { w with word := w.word ++ [s], inWord := true }

/-- The columns of the line at hand and of what is not placed yet. -/
def total (w : Wrapping) : Nat :=
  symbolsWidth w.line + symbolsWidth w.blanks + symbolsWidth w.word

/-- The step of a symbol. -/
def step (limit : Nat) (w : Wrapping) (s : Symbol) : Wrapping :=
  if limit < s.width then w
  else
    let overflows := w.line.isEmpty && limit < w.total + s.width
    let w := if (w.inWord && s.isBlank) || overflows then w.place else w
    if limit ≤ symbolsWidth w.line || (0 < s.width && limit ≤ w.total) then
      let w := w.breakLine limit
      if s.isBlank && w.blanks.isEmpty then w else w.push s
    else w.push s

/-- The lines. A line of white space alone is preceded by an empty one. -/
def lines (w : Wrapping) : List (List Symbol) :=
  let lead := if w.line.isEmpty && w.word.isEmpty && !w.blanks.isEmpty then [[]] else []
  let last := w.place.line
  let all := w.finished ++ lead ++ (if last.isEmpty then [] else [last])
  if all.isEmpty then [[]] else all

end Wrapping

/-- The lines that a line is wrapped into. -/
def wrapTo (limit : Nat) (symbols : List Symbol) : List (List Symbol) :=
  (symbols.foldl (Wrapping.step limit) .initial).lines

/-- A text that fills an area. -/
structure Paragraph where
  lines : List Line
  style : Style
  alignment : Alignment
  wraps : Bool
  deriving Repr

namespace Paragraph

/-- Lines at the left, cut. -/
def ofLines (lines : List Line) (style : Style) : Paragraph := ⟨lines, style, .left, false⟩

/-- The lines as they appear in `limit` columns. -/
def rows (p : Paragraph) (limit : Nat) : List (List Symbol) :=
  if p.wraps then p.lines.flatMap fun line => wrapTo limit line.symbols
  else p.lines.map fun line => cutTo limit 0 line.symbols

/-- The column at which a line of a width starts. -/
def offset (p : Paragraph) (areaWidth lineWidth : Nat) : Nat :=
  match p.alignment with
  | .left => 0
  | .center => areaWidth / 2 - lineWidth / 2

/-- Symbols one after the other, without those that have no width. Tiles that a wide symbol covers
stay as they are. -/
def putRow (c : Canvas) (x y : Nat) : List Symbol → Canvas
  | [] => c
  | s :: rest =>
    if s.width = 0 then putRow c x y rest
    else putRow (c.put x y (String.ofList s.text) s.style) (x + s.width) y rest

/-- The paragraph drawn. -/
def draw (p : Paragraph) (c : Canvas) (a : Area) : Canvas :=
  let c := c.restyle a p.style
  if a.isEmpty then c
  else
    (((p.rows a.width).take a.height).zipIdx).foldl (fun c (row, i) =>
      putRow c (a.x + p.offset a.width (symbolsWidth row)) (a.y + i) row) c

end Paragraph

end ClusterBoard.Screen
