import ClusterBoard.Screen.Canvas
import ClusterBoard.Text.Blank
import ClusterBoard.Text.Cluster
import ClusterBoard.Text.Lines

/-!
# Text on the screen

A text is drawn symbol by symbol; a symbol is a cluster of characters. Line feeds are never drawn. A
symbol of several columns blanks the tiles that it covers. A symbol of no width has no tile of its
own: in a title or a table it is drawn together with the one before it.
-/

namespace ClusterBoard.Screen

/-- A text in one style. -/
structure Span where
  text : String
  style : Style
  deriving DecidableEq, Repr, Inhabited

/-- A line of text. -/
abbrev Line := List Span

/-- Text that leaves the style open. -/
def Span.plain (text : String) : Span := ⟨text, .plain⟩

/-- A line that leaves the style open. -/
def Line.plain (text : String) : Line := [.plain text]

/-- A cluster in a style. -/
structure Symbol where
  text : List Char
  width : Nat
  style : Style
  deriving DecidableEq, Repr, Inhabited

/-- Whether lines may break at a symbol: it is white space, but not a space that binds, or the space
of no width. -/
def Symbol.isBlank (s : Symbol) : Bool :=
  s.text == ['\u200B'] || (s.text.all Text.isBlank && s.text != ['\u00A0'])

/-- The symbols of a span. -/
def Span.symbols (span : Span) : List Symbol :=
  ((Text.clusters span.text.toList).filter fun cluster => cluster != ['\n']).map
    fun cluster => ⟨cluster, Text.width cluster, span.style⟩

/-- The columns of a span. Symbols that are written together may take less than each by itself. -/
def Span.width (span : Span) : Nat := Text.width span.text.toList

/-- The columns of a line. -/
def Line.width (line : Line) : Nat := line.foldr (fun span n => span.width + n) 0

/-- The symbols of a line. -/
def Line.symbols (line : Line) : List Symbol := line.flatMap Span.symbols

/-- The columns of symbols. -/
def symbolsWidth (symbols : List Symbol) : Nat := symbols.foldr (fun s n => s.width + n) 0

/-- The lines of a text, in one style. -/
def linesOf (text : String) (style : Style) : List Line :=
  (Text.lines text.toList).map fun cs => [⟨String.ofList cs, style⟩]

/-- The lines of a text one after the other on one line, which leaves the style open. -/
def Line.joined (text : String) : Line := (linesOf text .plain).flatten

namespace Canvas

/-- The places that a symbol covers beside its first one are blanked. -/
def blankCovered (c : Canvas) (x y width : Nat) : Canvas :=
  c.clear ⟨x + 1, y, width - 1, 1⟩

/-- The symbols after the first one, from `x` on, as far as they fit to the left of `right`. Up to
the first symbol that has a width all share the place `start`; after it a symbol of no width goes to
the place before its own. -/
def putNext (c : Canvas) (start y right x : Nat) : List Symbol → Canvas
  | [] => c
  | s :: rest =>
    let text := String.ofList s.text
    if right < x + s.width then c
    else
      let c :=
        if x = start then c.append x y text s.style
        else if s.width = 0 then c.append (x - 1) y text s.style
        else c.put x y text s.style
      (c.blankCovered x y s.width).putNext start y right (x + s.width) rest

/-- Symbols from a place on, as far as they fit to the left of `right`. -/
def putSymbols (c : Canvas) (x y right : Nat) : List Symbol → Canvas
  | [] => c
  | s :: rest =>
    if right < x + s.width then c
    else
      ((c.put x y (String.ofList s.text) s.style).blankCovered x y s.width).putNext x y right
        (x + s.width) rest

/-- Spans one after the other, those of no width left out. -/
def putSpans (c : Canvas) (x y right : Nat) : List Span → Canvas
  | [] => c
  | span :: rest =>
    if span.width = 0 then c.putSpans x y right rest
    else if right ≤ x then c
    else (c.putSymbols x y right span.symbols).putSpans (x + span.width) y right rest

/-- A line at the left of an area. -/
def putLine (c : Canvas) (a : Area) (line : Line) : Canvas :=
  if a.isEmpty then c else c.putSpans a.x a.y a.right line

/-- Lines from the top of an area down, each at the left, as many as there is room for. -/
def putLines (c : Canvas) (a : Area) (lines : List Line) : Canvas :=
  ((lines.take a.height).zipIdx).foldl (fun c (line, i) => c.putLine (a.line i) line) c

end Canvas

end ClusterBoard.Screen
