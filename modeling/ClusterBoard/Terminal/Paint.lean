/-!
# Colours and emphasis on a terminal

A text is painted by an escape sequence before it and one after it.
-/

namespace ClusterBoard.Terminal

/-- Starts an escape sequence. -/
def escape : Char := '\x1b'

/-- The escape sequence of codes. -/
def sequenceOf (codes : List Nat) : List Char :=
  let digits := (codes.map (Nat.toDigits 10)).intersperse [';']
  escape :: '[' :: digits.flatten ++ ['m']

/-- The escape sequence of a code. -/
def sequence (code : Nat) : List Char := sequenceOf [code]

/-- A way to paint: the codes before and after the text. -/
structure Paint where
  start : Nat
  stop : Nat
  deriving DecidableEq, Repr

namespace Paint

/-- The paints; colours end with the code of the terminal's own colour, emphasis with a reset. -/
def red : Paint := ⟨31, 39⟩
def green : Paint := ⟨32, 39⟩
def yellow : Paint := ⟨33, 39⟩
def blue : Paint := ⟨34, 39⟩
def cyan : Paint := ⟨36, 39⟩
def bold : Paint := ⟨1, 0⟩
def dimmed : Paint := ⟨2, 0⟩
def underline : Paint := ⟨4, 0⟩

/-- The painted text. -/
def on (paint : Paint) (text : String) : String :=
  String.ofList (sequence paint.start ++ text.toList ++ sequence paint.stop)

end Paint

end ClusterBoard.Terminal
