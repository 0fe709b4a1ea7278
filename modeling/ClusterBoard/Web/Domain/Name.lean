import ClusterBoard.Text.Composition
import ClusterBoard.Web.Domain.Direction
import ClusterBoard.Web.Domain.Joining
import ClusterBoard.Web.Domain.Spelling
import ClusterBoard.Web.Percent
import ClusterBoard.Web.Punycode

/-!
# Domain names

A domain name is a list of labels with points between them. It is first spelled in the one way that
stands for all others, then each label is checked and written in ASCII: `ascii?`.
-/

namespace ClusterBoard.Web.Domain

open Text

/-- What no domain name may hold. -/
def forbidden (c : Char) : Bool :=
  c.toNat ≤ 0x20 || c.toNat = 0x7F || Percent.isIn "%#/:<>?@[\\]^|" c

/-- The one spelling of a name; none if it holds a character that is refused. -/
def spelled (cs : List Char) : Option (List Char) :=
  (cs.mapM spelling?).map fun texts => composed texts.flatten

/-- Whether a text is spelled in the one way already. -/
def isSpelled (cs : List Char) : Bool :=
  cs.all (fun c => spelling? c = some [c]) && composed cs = cs

/-- Whether a label may stand in a name: no mark comes first, and joiners stand where they may. -/
def mayBeLabel (label : List Char) : Bool := !label.head?.any isMark && joinersStand label

/-- What a label in ASCII starts with if it stands for another one. -/
def encodedMark : List Char := ['x', 'n', '-', '-']

/-- The longest label that is encoded, and the longest text that is decoded to one. -/
def lengthLimits : Nat × Nat := (1000, 2000)

/-- A label. -/
structure Label where
  /-- What is read. -/
  text : List Char
  /-- What is written, in ASCII. -/
  written : List Char
  deriving DecidableEq, Repr

namespace Label

/-- Whether a text is ASCII. -/
def isAscii (cs : List Char) : Bool := cs.all (·.toNat < 0x80)

/-- The label of a text in the one spelling. What claims to be encoded has to stand for a label that
could not be written otherwise. -/
def ofSpelled? (cs : List Char) : Option Label :=
  if isAscii cs then
    if encodedMark.isPrefixOf cs then
      let digits := cs.drop encodedMark.length
      if lengthLimits.2 < digits.length then none
      else
        ((Punycode.decode? digits).filter fun text =>
          !isAscii text && isSpelled text && mayBeLabel text).map fun text => ⟨text, cs⟩
    else some ⟨cs, cs⟩
  else if encodedMark.isPrefixOf cs || !mayBeLabel cs || lengthLimits.1 < cs.length then none
  else some ⟨cs, encodedMark ++ Punycode.encode cs⟩

/-- Whether a label holds a letter or a digit that goes from right to left. -/
def isFromRight (label : Label) : Bool :=
  label.text.any fun c => (Direction.ofChar c).isFromRight

end Label

/-- Whether every label of a name reads in one direction, where that is asked for. -/
def readsWell (labels : List Label) : Bool :=
  !labels.any Label.isFromRight || labels.all fun label => readsOneWay label.text

/-- A domain name in small letters and ASCII. -/
def ascii? (cs : List Char) : Option (List Char) := do
  let labels ← (splitOn '.' (← spelled cs)).mapM Label.ofSpelled?
  let name := joinWith ['.'] (labels.map Label.written)
  if readsWell labels && !name.any forbidden then some name else none

end ClusterBoard.Web.Domain
