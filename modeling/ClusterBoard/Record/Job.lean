import ClusterBoard.Record.Id
import ClusterBoard.Record.Lookup
import ClusterBoard.Record.State

/-!
# Job records

`JobRecord.ofJson` resolves every field that the board shows. It never fails: a field that cannot
be read takes its default and leaves a defect.
-/

namespace ClusterBoard

/-- The owner of a job that names none. -/
def unknownUser : String := "Unknown"

/-- The names of a physical node, as they were when a run was placed on it. -/
structure NodeSnapshot where
  /-- The logical name, under which the ranks of the node are reached. -/
  logical : Option String
  physical : Option String
  k8s : Option String
  deriving DecidableEq, Repr, Inhabited

/-- The nodes of a job's current run. -/
inductive NodeSnapshots where
  /-- The nodes in payload order, at least one, each with its key. -/
  | nodes (entries : List (String × NodeSnapshot))
  | empty
  /-- There is no usable map of nodes. -/
  | unavailable
  deriving DecidableEq, Repr, Inhabited

/-- The number of nodes that a run holds. -/
def NodeSnapshots.count : NodeSnapshots → Nat
  | .nodes entries => entries.length
  | .empty => 0
  | .unavailable => 0

/-- A job with every field that the board shows. -/
structure JobRecord where
  id : RecordId
  user : String
  /-- The raw specification, if the record has one. -/
  spec : Option Json
  state : JobState
  snapshots : NodeSnapshots
  /-- The raw history of states, if the record has one. -/
  history : Option Json
  /-- The fields that took their default. -/
  defects : List Defect
  deriving Repr, Inhabited

namespace JobRecord

def userField : String := "spec.userName"

def specField : String := "spec"

def stateField : String := "status.slurmJobRunCurrentStatus.state"

def snapshotsField : String := "status.slurmJobRunCurrentStatus.physicalNodeSnapshots"

def historyField : String := "status.slurmJobRunStatusHistory"

/-- The owner: a string that is not empty. -/
def readUser (record : Json) : Except Defect String := lookupText record userField

def readSpec (record : Json) : Except Defect Json := lookup record specField

/-- The state of the current run; null counts as missing. -/
def readState (record : Json) : Except Defect JobState := do
  let raw ← lookupPresent record stateField
  match JobState.ofJson? raw with
  | some state => .ok state
  | none => .error (.missing stateField)

def readHistory (record : Json) : Except Defect Json := lookup record historyField

/-- Adds a defect to those found so far. -/
def note (defect : Defect) : StateM (List Defect) Unit := modify (· ++ [defect])

/-- A name of a snapshot entry; a value that is no string is named by its JSON text and leaves a
defect. -/
def readSnapshotName (entry : Json) (key : String) : StateM (List Defect) (Option String) :=
  match entry.get? key with
  | none => pure none
  | some .null => pure none
  | some (.string name) => pure (some name)
  | some other => do
    note (.wrongType ("physicalNodeSnapshots.*." ++ key) "a string" other.kind)
    pure (some other.compact)

/-- The names of a snapshot entry. -/
def readSnapshot (entry : Json) : StateM (List Defect) NodeSnapshot := do
  let logical ← readSnapshotName entry "slurmNodeName"
  let physical ← readSnapshotName entry "physicalNodeName"
  let k8s ← readSnapshotName entry "k8sNodeName"
  pure ⟨logical, physical, k8s⟩

/-- The entries of a snapshot map, in order. -/
def readEntries : Json.Fields → StateM (List Defect) (List (String × NodeSnapshot))
  | [] => pure []
  | (key, entry) :: rest => do
    let snapshot ← readSnapshot entry
    let entries ← readEntries rest
    pure ((key, snapshot) :: entries)

/-- The nodes of the current run; the defects of single entries are added to those found so far.
Null and the empty map are no nodes; every entry has to be an object. -/
def readSnapshotsInPlace (record : Json) : StateM (List Defect) (Except Defect NodeSnapshots) :=
  match lookup record snapshotsField with
  | .error defect => pure (.error defect)
  | .ok .null => pure (.ok .empty)
  | .ok (.object []) => pure (.ok .empty)
  | .ok (.object fields) =>
    match fields.find? fun (_, entry) => !entry.isObject with
    | some (_, entry) =>
      pure (.error (.wrongType snapshotsField "a map of node snapshots" entry.kind))
    | none => do
      let entries ← readEntries fields
      pure (.ok (.nodes entries))
  | .ok other => pure (.error (.wrongType snapshotsField "an object" other.kind))

/-- The nodes of the current run and the defects of single entries. -/
def readSnapshots (record : Json) : Except Defect (NodeSnapshots × List Defect) :=
  let (outcome, defects) := (readSnapshotsInPlace record).run []
  outcome.map (·, defects)

/-- The value that was read; or the default, and the defect is added to those found so far. -/
def orDefault {α : Type} (default : α) : Except Defect α → StateM (List Defect) α
  | .ok value => pure value
  | .error defect => do
    note defect
    pure default

/-- The record of an object, with the defects found on the way. -/
def ofObject (id : RecordId) (value : Json) : StateM (List Defect) JobRecord := do
  let user ← orDefault unknownUser (readUser value)
  let spec ← orDefault none ((readSpec value).map some)
  let state ← orDefault .removed (readState value)
  let snapshots ← orDefault .unavailable (← readSnapshotsInPlace value)
  let history ← orDefault none ((readHistory value).map some)
  pure { id, user, spec, state, snapshots, history, defects := ← get }

/-- The record of a job with the given ID. -/
def ofJson (id : RecordId) (value : Json) : JobRecord :=
  if value.isObject then ((ofObject id value).run []).1
  else
    { id
      user := unknownUser
      spec := none
      state := .removed
      snapshots := .unavailable
      history := none
      defects := [.notAnObject value.kind] }

@[simp] theorem id_ofJson (id : RecordId) (value : Json) : (ofJson id value).id = id := by
  unfold ofJson; split <;> rfl

/-- The number of nodes of the current run. -/
def nodeCount (job : JobRecord) : Nat := job.snapshots.count

end JobRecord

end ClusterBoard
