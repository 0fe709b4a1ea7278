import ClusterBoard.Record.Id
import ClusterBoard.Record.Lookup
import ClusterBoard.Record.State

/-!
# Node records

`NodeRecord.ofJson` resolves the name, the goal state and the two status blocks of a node. It never
fails. A status block leaves a defect if it is missing or `null`, if it cannot be reached, or if its
`removed` is neither a boolean nor `null`. A block that is not an object has no `removed`, so it
leaves none.
-/

namespace ClusterBoard

/-- One of the two status blocks of a node. -/
structure StatusBlock where
  /-- The raw block, if the record has one. -/
  raw : Option Json
  removed : Bool
  deriving Repr, Inhabited

namespace StatusBlock

/-- The block that a record lacks. -/
def unknown : StatusBlock := ⟨none, false⟩

/-- The block at a path and its defects. Without a `removed` member nothing was removed. -/
def read (record : Json) (field : String) : StatusBlock × List Defect :=
  match lookupPresent record field with
  | .ok raw =>
    match raw.get? "removed" with
    | none => (⟨some raw, false⟩, [])
    | some .null => (⟨some raw, false⟩, [])
    | some (.bool removed) => (⟨some raw, removed⟩, [])
    | some other =>
      (⟨some raw, false⟩, [.wrongType field "a boolean `removed` flag" other.kind])
  | .error defect => (unknown, [defect])

/-- Whether the record has the block. -/
def isKnown (block : StatusBlock) : Bool := block.raw.isSome

/-- A block that is missing or says that the node was removed is flagged. -/
def tone (block : StatusBlock) : Tone :=
  if block.raw.isNone || block.removed then .alert else .normal

end StatusBlock

/-- A node with every field that the board shows. -/
structure NodeRecord where
  id : RecordId
  name : String
  /-- The raw specification, if the record has one. -/
  spec : Option Json
  goal : GoalState
  k8s : StatusBlock
  slurm : StatusBlock
  /-- The fields that took their default. -/
  defects : List Defect
  deriving Repr, Inhabited

namespace NodeRecord

def nameField : String := "metadata.name"

def specField : String := "spec"

def goalField : String := "spec.slurmNodeSpec.goalState"

/-- The older path of the goal state. -/
def legacyGoalField : String := "spec.goalState"

def k8sField : String := "status.k8sNodeStatus"

def slurmField : String := "status.slurmNodeStatus"

/-- The name: a string that is not empty. -/
def readName (record : Json) : Except Defect String := lookupText record nameField

/-- The goal state, at its path or at the older one. -/
def readGoal (record : Json) : Except Defect GoalState :=
  let raw :=
    match lookupPresent record goalField with
    | .ok raw => some raw
    | .error _ => (lookupPresent record legacyGoalField).toOption
  match raw with
  | none => .error (.missing goalField)
  | some (.string name) => .ok (.ofName name)
  | some other => .error (.wrongType goalField "a string" other.kind)

/-- The record of a node with the given ID. -/
def ofJson (id : RecordId) (value : Json) : NodeRecord :=
  if value.isObject then
    let (name, nameDefects) :=
      match readName value with
      | .ok name => (name, [])
      | .error defect => (id.text, [defect])
    let (goal, goalDefects) :=
      match readGoal value with
      | .ok goal => (goal, [])
      | .error defect => (default, [defect])
    let (k8s, k8sDefects) := StatusBlock.read value k8sField
    let (slurm, slurmDefects) := StatusBlock.read value slurmField
    { id, name, spec := (lookup value specField).toOption, goal, k8s, slurm
      defects := nameDefects ++ goalDefects ++ k8sDefects ++ slurmDefects }
  else
    { id
      name := id.text
      spec := none
      goal := default
      k8s := .unknown
      slurm := .unknown
      defects := [.notAnObject value.kind] }

@[simp] theorem id_ofJson (id : RecordId) (value : Json) : (ofJson id value).id = id := by
  unfold ofJson; split <;> rfl

/-- The emphasis of the specification: a node that is to be down is flagged. -/
def specTone (node : NodeRecord) : Tone := node.goal.tone

end NodeRecord

end ClusterBoard
