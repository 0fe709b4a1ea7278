import ClusterBoard.Record.Job
import ClusterBoard.Record.Node

/-!
# Collections of records

A collection is an object that maps IDs to records. It decodes to the records with the highest ID
first, whatever the order of the object's keys; a payload of any other kind is the only error.
-/

namespace ClusterBoard

/-- A kind of record that is read from an ID, which it keeps, and a value. -/
class Record (α : Type) where
  ofJson : RecordId → Json → α
  id : α → RecordId
  id_ofJson : ∀ key value, id (ofJson key value) = key

instance : Record JobRecord := ⟨JobRecord.ofJson, JobRecord.id, JobRecord.id_ofJson⟩

instance : Record NodeRecord := ⟨NodeRecord.ofJson, NodeRecord.id, NodeRecord.id_ofJson⟩

/-- A payload that is not an object of records; `found` is its kind. -/
structure CollectionError where
  found : String
  deriving DecidableEq, Repr

/-- The error in words. -/
def CollectionError.message (e : CollectionError) : String :=
  s!"collection payload is {e.found}, expected an object keyed by id"

/-- Records of one kind, highest ID first. -/
structure Collection (α : Type) where
  records : List α
  deriving Repr, Inhabited

namespace Collection

/-- No records. -/
def empty {α : Type} : Collection α := ⟨[]⟩

/-- The collection of records in any order. -/
def ofRecords {α : Type} [Record α] (records : List α) : Collection α :=
  ⟨sortDescending Record.id records⟩

/-- The collection of a payload. -/
def ofJson {α : Type} [Record α] : Json → Except CollectionError (Collection α)
  | .object fields =>
    .ok (ofRecords (fields.map fun (id, value) => Record.ofJson ⟨id⟩ value))
  | other => .error ⟨other.kind⟩

/-- The record with an ID. -/
def find? {α : Type} [Record α] (c : Collection α) (id : String) : Option α :=
  c.records.find? fun r => (Record.id r).text == id

/-- The number of records. -/
def size {α : Type} (c : Collection α) : Nat := c.records.length

/-- Whether there are no records. -/
def isEmpty {α : Type} (c : Collection α) : Bool := c.records.isEmpty

end Collection

end ClusterBoard
