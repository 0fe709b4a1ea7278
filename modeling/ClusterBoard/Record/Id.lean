import ClusterBoard.Text.Blank
import ClusterBoard.Text.Unsigned

/-!
# Record IDs

An ID is an arbitrary text. One that is a number, white space at its ends aside, orders by that
number and after every other ID; ties and all other IDs order by the text. Lists show the highest
ID first (`sortDescending`).
-/

namespace ClusterBoard

/-- An ID as it stands in the payload. -/
structure RecordId where
  text : String
  deriving DecidableEq, Repr, Inhabited

namespace RecordId

/-- Numbers below this bound order as numbers. -/
def numberBound : Nat := Nat.pow 2 128

/-- The number of a numeric ID. -/
def number? (id : RecordId) : Option Nat :=
  Text.unsignedBelow? numberBound (Text.trim id.text.toList)

/-- Whether the ID orders as a number. -/
def isNumeric (id : RecordId) : Bool := id.number?.isSome

/-- Numbers come after texts, smaller numbers first; equal numbers and texts go by code point. -/
def compare (a b : RecordId) : Ordering :=
  match a.number?, b.number? with
  | some m, some n => (Ord.compare m n).then (Ord.compare a.text b.text)
  | some _, none => .gt
  | none, some _ => .lt
  | none, none => Ord.compare a.text b.text

instance : Ord RecordId := ⟨RecordId.compare⟩

/-- Whether `a` may stand before `b` in a list with the highest ID first. -/
def notBelow (a b : RecordId) : Bool := compare a b != .lt

end RecordId

/-- The items with the highest ID first; items with equal IDs keep their order. -/
def sortDescending {α : Type} (id : α → RecordId) (items : List α) : List α :=
  items.mergeSort fun a b => (id a).notBelow (id b)

end ClusterBoard
