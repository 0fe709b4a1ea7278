import ClusterBoard.Text.Lines

/-!
# Markup and text

A page is a list of pieces: markup, which is written as it is, and text, which is escaped. Escaping
replaces each of the five special characters by its entity, one character after the other, the
ampersand first; `escapeOnce` states the same in one pass.
-/

namespace ClusterBoard.Page

/-- Every occurrence of a character replaced by a text. -/
def replaceChar (target : Char) (replacement : String) (cs : List Char) : List Char :=
  cs.flatMap fun c => if c = target then replacement.toList else [c]

/-- The text with the special characters of markup replaced by entities. -/
def escapeChars (cs : List Char) : List Char :=
  replaceChar '\'' "&#39;" <| replaceChar '"' "&quot;" <| replaceChar '>' "&gt;" <|
    replaceChar '<' "&lt;" <| replaceChar '&' "&amp;" cs

/-- What stands for a character in escaped text. -/
def entity (c : Char) : List Char :=
  if c = '&' then "&amp;".toList
  else if c = '<' then "&lt;".toList
  else if c = '>' then "&gt;".toList
  else if c = '"' then "&quot;".toList
  else if c = '\'' then "&#39;".toList
  else [c]

/-- The text with each character replaced by what stands for it. -/
def escapeOnce (cs : List Char) : List Char := cs.flatMap entity

/-- The text with the special characters of markup replaced by entities. -/
def escape (text : String) : String := String.ofList (escapeChars text.toList)

/-- A part of a page. -/
inductive Piece where
  | markup (source : String)
  | text (content : String)
  deriving DecidableEq, Repr, Inhabited

/-- A part of a page as it is written. -/
def Piece.render : Piece → String
  | .markup source => source
  | .text content => escape content

/-- The parts of a page, one after the other. -/
def render (pieces : List Piece) : String :=
  pieces.foldl (fun written piece => written ++ piece.render) ""

end ClusterBoard.Page
