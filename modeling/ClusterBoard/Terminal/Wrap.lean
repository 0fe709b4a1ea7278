import ClusterBoard.Terminal.Style

/-!
# Wrapping painted text

A cell that is too wide is wrapped between words; a word that is wider than the whole line is cut.
The width that a line has used up is counted from the last wrap: a line feed of the text itself does
not start a new count, so a line after one has less room.
-/

namespace ClusterBoard.Terminal

/-- A run of characters in one style. -/
structure Block where
  style : Style
  chars : List Char
  deriving DecidableEq, Repr

/-- The blocks of a text in parts: each part that is shown makes one, with the control sequences
before it. What is left at the end makes one of its own. -/
def blocksFrom (style : Style) (controls : List Char) : List Part → List Block
  | [] => if controls.isEmpty then [] else [⟨style, controls⟩]
  | p :: rest =>
    match p.kind with
    | .text => ⟨style, controls ++ p.chars⟩ :: blocksFrom style [] rest
    | .style => blocksFrom (style.after p) controls rest
    | _ => blocksFrom style (controls ++ p.chars) rest

/-- The blocks of a painted text. -/
def blocksOf (cs : List Char) : List Block := blocksFrom .plain [] (parts cs)

/-- How much of a text that is nothing but a link was read. -/
inductive LinkStage where
  | start
  | opened (command : List Char)
  | shown (command : List Char)
  | closed (command : List Char)
  | other
  deriving DecidableEq, Repr

/-- The stage after one more part. -/
def LinkStage.next (stage : LinkStage) (p : Part) : LinkStage :=
  match p.kind, stage with
  | .command, .start => .opened p.chars
  | .command, .shown command => .closed command
  | .command, _ => .other
  | .text, .opened command => .shown command
  | .text, .shown command => .shown command
  | .text, _ => .other
  | _, stage => stage

/-- The address of a link's command. -/
def linkAddress? (command : List Char) : Option (List Char) :=
  match command with
  | '\x1b' :: ']' :: '8' :: ';' :: ';' :: rest =>
    if rest.getLast? = some escape then some rest.dropLast else none
  | _ => none

/-- The address of a text that is nothing but a link. -/
def wholeLink? (cs : List Char) : Option (List Char) :=
  match (parts cs).foldl LinkStage.next .start with
  | .opened command | .shown command | .closed command => linkAddress? command
  | .start | .other => none

/-- What opens and closes a link to an address. -/
def linkEnds : Option (List Char) → List Char × List Char
  | none => ([], [])
  | some address =>
    let command (target : List Char) : List Char :=
      escape :: "]8;;".toList ++ target ++ [escape, '\\']
    (command address, command [])

/-- The text without commands and plain escape sequences. -/
def withoutCommands (cs : List Char) : List Char :=
  (parts cs).flatMap fun p => if p.kind = .command || p.kind = .escape then [] else p.chars

/-- A wrap that is under way. -/
structure Wrapping where
  /-- What stands before and after each piece of a line: the ends of a link. -/
  before : List Char
  after : List Char
  /-- What is written, last character first. -/
  written : List Char
  /-- The columns used since the last wrap. -/
  used : Nat
  /-- The blocks that are left to write. -/
  blocks : List Block
  /-- Whether the first of them is begun. -/
  begun : Bool

namespace Wrapping

/-- Writes characters as they are. -/
def write (w : Wrapping) (cs : List Char) : Wrapping :=
  { w with written := cs.reverse ++ w.written }

/-- The columns left on the line. -/
def room (width : Nat) (w : Wrapping) : Nat := width - w.used

/-- The style of the block that is begun. -/
def open? (w : Wrapping) : Option Style :=
  if w.begun then w.blocks.head?.map Block.style else none

/-- Fills the line with spaces and leaves the open style. -/
def closeLine (width : Nat) (w : Wrapping) : Wrapping :=
  w.write ((w.open?.map Style.leave).getD [] ++ w.after ++ List.replicate (w.room width) ' ')

/-- Goes to the next line. -/
def wrap (width : Nat) (w : Wrapping) : Wrapping :=
  let closed :=
    (w.closeLine width).write ('\n' :: w.before ++ (w.open?.map Style.enter).getD [])
  { closed with used := 0 }

/-- Stands in the columns that a wide character does not fit into. -/
def replacement : Char := '\uFFFD'

/-- Writes a character that is known to fit. -/
def putFitting (c : Char) (w : Wrapping) : Wrapping :=
  { w.write [c] with used := w.used + Text.charWidth c }

/-- Writes a character, on a new line if this one is full. -/
def putCut (width : Nat) (c : Char) (w : Wrapping) : Wrapping :=
  let w := if w.room width = 0 then { w.write ['\n'] with used := 0 } else w
  if w.used + Text.charWidth c ≤ width then w.putFitting c
  else { w.write (List.replicate (w.room width) replacement) with used := width }

/-- Writes the next character of the blocks by `put`, entering and leaving its block. -/
def step (put : Char → Wrapping → Wrapping) (w : Wrapping) : Wrapping :=
  match w.blocks with
  | [] => w
  | ⟨_, []⟩ :: rest => { w with blocks := rest, begun := false }
  | ⟨style, c :: cs⟩ :: rest =>
    let w := if w.begun then w else w.write (w.before ++ style.enter)
    let w := put c w
    if cs.isEmpty then { w.write (style.leave ++ w.after) with blocks := rest, begun := false }
    else { w with blocks := ⟨style, cs⟩ :: rest, begun := true }

/-- Writes the next `count` characters. -/
def steps (put : Char → Wrapping → Wrapping) : Nat → Wrapping → Wrapping
  | 0, w => w
  | count + 1, w => steps put count (w.step put)

/-- Writes a word and the `extra` characters after it. -/
def word (width chars columns extra : Nat) (w : Wrapping) : Wrapping :=
  if chars = 0 then
    let w := if extra ≤ w.room width then w else w.wrap width
    w.steps putFitting extra
  else if width < columns then w.steps (putCut width) (chars + extra)
  else
    let w := if columns ≤ w.room width then w else w.wrap width
    (w.steps putFitting chars).steps (putCut width) extra

end Wrapping

/-- The text wrapped to a width. Words are measured by what is shown, but taken from all that is
left of the text, control sequences included. -/
def wrapText (width : Nat) (cs : List Char) : List Char :=
  if width = 0 then []
  else
    let (before, after) := linkEnds (wholeLink? cs)
    let cs := withoutCommands cs
    let start : Wrapping := ⟨before, after, [], 0, blocksOf cs, false⟩
    let (w, chars, columns) := (shown cs).foldl
      (fun (w, chars, columns) c =>
        if c = ' ' || c = '\n' then (w.word width chars columns 1, 0, 0)
        else (w, chars + 1, columns + Text.charWidth c)) (start, 0, 0)
    let w := if chars = 0 then w else (w.word width chars columns 0).closeLine width
    w.written.reverse

end ClusterBoard.Terminal
