import ClusterBoard.Json.Printer

/-!
# States

The state of a job run and the goal state of a node, with the emphasis that each asks for.
-/

namespace ClusterBoard

/-- The emphasis of a cell. -/
inductive Tone where
  | normal
  | good
  | alert
  deriving DecidableEq, Repr, Inhabited

/-- The colour that a tone has on a page, if it is not the page's own. -/
def Tone.cssColor? : Tone → Option String
  | .normal => none
  | .good => some "green"
  | .alert => some "red"

/-- The state of a job run. A job whose record carries no state counts as removed. -/
inductive JobState where
  | running
  | removed
  | other (text : String)
  deriving DecidableEq, Repr, Inhabited

namespace JobState

/-- The state that a server names so. -/
def ofName (name : String) : JobState :=
  if name = "RUNNING" then .running
  else if name = "REMOVED" then .removed
  else .other name

/-- The state of a value: a string names it, null is none, and any other value stands for itself
as JSON text. -/
def ofJson? : Json → Option JobState
  | .null => none
  | .string name => some (ofName name)
  | value => some (.other value.compact)

/-- The state's name. -/
def text : JobState → String
  | .running => "RUNNING"
  | .removed => "REMOVED"
  | .other text => text

/-- Whether the job runs. -/
def isRunning : JobState → Bool
  | .running => true
  | _ => false

/-- Running jobs look good, removed ones alert. -/
def tone : JobState → Tone
  | .running => .good
  | .removed => .alert
  | .other _ => .normal

end JobState

/-- What the operator wants of a node. -/
inductive GoalState where
  | up
  | down
  | other (text : String)
  deriving DecidableEq, Repr

instance : Inhabited GoalState := ⟨.up⟩

namespace GoalState

/-- The goal that a server names so. -/
def ofName (name : String) : GoalState :=
  if name = "up" then .up
  else if name = "down" then .down
  else .other name

/-- The goal's name. -/
def text : GoalState → String
  | .up => "up"
  | .down => "down"
  | .other text => text

/-- A node that is to be down is flagged. -/
def tone : GoalState → Tone
  | .down => .alert
  | _ => .normal

end GoalState

end ClusterBoard
