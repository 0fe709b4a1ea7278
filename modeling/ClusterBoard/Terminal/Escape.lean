import ClusterBoard.Terminal.Paint
import ClusterBoard.Text.Width

/-!
# Escape sequences

A text for a terminal consists of what is shown and of escape sequences. `parts` takes it apart. A
reader of such a text counts how much of it is shown; where a sequence is broken off, what comes
after it is measured from the start of the broken sequence.
-/

namespace ClusterBoard.Terminal

/-- The kinds of parts of a text. -/
inductive PartKind where
  /-- What is shown. -/
  | text
  /-- A control sequence that changes colours or emphasis. -/
  | style
  /-- Any other control sequence. -/
  | control
  /-- A command to the operating system, such as a link or a title. -/
  | command
  /-- Any other escape sequence. -/
  | escape
  deriving DecidableEq, Repr

/-- A part of a text. -/
structure Part where
  kind : PartKind
  chars : List Char
  deriving DecidableEq, Repr

/-- How far a control sequence has come. -/
inductive ControlStage where
  | start
  | parameters
  | marks
  deriving DecidableEq, Repr

/-- What a reader of a text is in the middle of. -/
inductive Reading where
  | text
  | escape
  /-- An escape sequence with marks before its last character. -/
  | escapeMarks
  | control (stage : ControlStage) (marks separators : Nat)
  /-- A control sequence that is not well-formed. -/
  | malformed
  /-- A string that is not shown. -/
  | string
  | command
  deriving DecidableEq, Repr

namespace Reading

/-- The kind of a control sequence that ends in a character, if it is one that counts. -/
def controlKind? (marks separators : Nat) (last : Char) : Option PartKind :=
  if 2 ≤ marks || 32 ≤ separators then none
  else if last = 'm' && marks = 0 then some .style
  else some .control

/-- What comes after the character that follows an escape character. -/
def afterEscape (c : Char) : Reading × Option PartKind :=
  let n := c.toNat
  if n < 0x30 then (.escapeMarks, none)
  else if c = '[' then (.control .start 0 0, none)
  else if c = ']' then (.command, none)
  else if c = 'P' || c = 'X' || c = '^' || c = '_' then (.string, none)
  else if n < 0x7F then (.text, some .escape)
  else (.escape, none)

/-- What comes after a character of a control sequence. -/
def afterControl (stage : ControlStage) (marks separators : Nat) (c : Char) :
    Reading × Option PartKind :=
  let n := c.toNat
  if n < 0x30 then (.control .marks (marks + 1) separators, none)
  else if n < 0x40 then
    if stage = .marks || (stage = .parameters && 0x3C ≤ n) then (.malformed, none)
    else if 0x3C ≤ n then (.control .parameters (marks + 1) separators, none)
    else
      let added := if c = ':' || c = ';' then 1 else 0
      (.control .parameters marks (separators + added), none)
  else if n < 0x7F then (.text, controlKind? marks separators c)
  else (.control stage marks separators, none)

/-- What comes after a character: whether the character counts as shown, and the kind of the part
that ends with it. -/
def next (r : Reading) (c : Char) : Reading × Bool × Option PartKind :=
  let n := c.toNat
  let broken := if r = .command then some .command else none
  let quiet (step : Reading × Option PartKind) := (step.1, false, step.2)
  if c = Terminal.escape then (.escape, false, broken)
  else if n = 0x18 || n = 0x1A then (.text, true, broken)
  else
    match r with
    | .text => (.text, true, none)
    | .command => quiet (if n = 0x07 then (.text, some .command) else (.command, none))
    | .string => quiet (.string, none)
    | .escape => if n < 0x20 then (r, true, none) else quiet (afterEscape c)
    | .escapeMarks =>
      if n < 0x20 then (r, true, none)
      else quiet (if 0x30 ≤ n && n < 0x7F then (.text, some .escape) else (r, none))
    | .malformed =>
      if n < 0x20 then (r, true, none)
      else quiet (if 0x40 ≤ n && n < 0x7F then (.text, none) else (r, none))
    | .control stage marks separators =>
      if n < 0x20 then (r, true, none) else quiet (afterControl stage marks separators c)

end Reading

/-- The first characters that together have `bytes` bytes, and the others. -/
def splitBytes : Nat → List Char → List Char × List Char
  | _, [] => ([], [])
  | bytes, c :: cs =>
    if bytes = 0 then ([], c :: cs)
    else
      let (front, rest) := splitBytes (bytes - c.utf8Size) cs
      (c :: front, rest)

/-- The parts of a text that goes on after `pending`, last character first, of which `count` bytes
were counted as shown. What is left at the end is text if anything of it counts. -/
def partsFrom (r : Reading) (pending : List Char) (count : Nat) : List Char → List Part
  | [] => if count = 0 then [] else [⟨.text, pending.reverse⟩]
  | c :: cs =>
    let (after, isShown, kind?) := r.next c
    let pending := c :: pending
    let count := if isShown then count + c.utf8Size else count
    match kind? with
    | none => partsFrom after pending count cs
    | some kind =>
      let (front, rest) := splitBytes count pending.reverse
      let text : List Part := if count = 0 then [] else [⟨.text, front⟩]
      text ++ ⟨kind, rest⟩ :: partsFrom after [] 0 cs

/-- The parts of a text. -/
def parts (cs : List Char) : List Part := partsFrom .text [] 0 cs

/-- The characters that are shown. -/
def shown (cs : List Char) : List Char :=
  (parts cs).flatMap fun p => if p.kind = .text then p.chars else []

/-- The columns that a line takes. -/
def lineWidth (cs : List Char) : Nat := Text.charsWidth (shown cs)

end ClusterBoard.Terminal
