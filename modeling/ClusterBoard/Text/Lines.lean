import ClusterBoard.Text.Blank

/-!
# Lines of a text

A line ends at a line feed or at a carriage return before one; the last line may lack its end.
Cells of tables and pages show a text cut to a number of characters (`truncate`) or of lines
(`headLines`), or folded onto one line (`singleLine`).
-/

namespace ClusterBoard.Text

/-- The lines without their ends. -/
def lines : List Char → List (List Char)
  | [] => []
  | '\n' :: rest => [] :: lines rest
  | '\r' :: '\n' :: rest => [] :: lines rest
  | c :: rest =>
    match lines rest with
    | [] => [[c]]
    | line :: more => (c :: line) :: more

/-- The pieces between the separators; there is always at least one. -/
def splitOn (separator : Char) : List Char → List (List Char)
  | [] => [[]]
  | c :: rest =>
    if c = separator then [] :: splitOn separator rest
    else
      match splitOn separator rest with
      | [] => [[c]]
      | piece :: more => (c :: piece) :: more

/-- The pieces with a separator between each two. -/
def joinWith (separator : List Char) : List (List Char) → List Char
  | [] => []
  | [piece] => piece
  | piece :: rest => piece ++ separator ++ joinWith separator rest

/-- The strings with a separator between each two. -/
def join (separator : String) (pieces : List String) : String :=
  String.ofList (joinWith separator.toList (pieces.map String.toList))

/-- The number of lines. -/
def lineCount (cs : List Char) : Nat := (lines cs).length

/-- The text, or its start with an ellipsis so that it has `limit` characters. -/
def truncate (text : String) (limit : Nat) : String :=
  let cs := text.toList
  if cs.length ≤ limit then text
  else if limit ≤ 3 then String.ofList (cs.take limit)
  else String.ofList (cs.take (limit - 3) ++ ['.', '.', '.'])

/-- The line that stands for dropped lines. -/
def droppedNote (count : Nat) : List Char :=
  "… ".toList ++ Nat.toDigits 10 count ++ " more line(s)".toList

/-- The text, or its first `limit` lines and a note of how many follow. -/
def headLinesOf (cs : List Char) (limit : Nat) : List Char :=
  let all := lines cs
  if all.length ≤ limit then cs
  else joinWith ['\n'] (all.take limit ++ [droppedNote (all.length - limit)])

/-- The text, or its first `limit` lines and a note of how many follow. -/
def headLines (text : String) (limit : Nat) : String :=
  String.ofList (headLinesOf text.toList limit)

/-- The trimmed lines that are not empty, with a space between each two. -/
def singleLineOf (cs : List Char) : List Char :=
  joinWith [' '] (((lines cs).map trim).filter (!·.isEmpty))

/-- The trimmed lines that are not empty, with a space between each two. -/
def singleLine (text : String) : String := String.ofList (singleLineOf text.toList)

end ClusterBoard.Text
