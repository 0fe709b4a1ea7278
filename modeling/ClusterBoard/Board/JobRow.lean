import ClusterBoard.Board.NodeList

/-!
# Rows of the jobs table
-/

namespace ClusterBoard

/-- A text and its emphasis. -/
structure Cell where
  text : String
  tone : Tone
  deriving DecidableEq, Repr, Inhabited

/-- A raw value one item a line, or the placeholder if the record has none. -/
def prettyOr (placeholder : String) : Option Json → String
  | some value => value.pretty
  | none => placeholder

/-- One row of the jobs table. -/
structure JobRow where
  id : RecordId
  state : Cell
  spec : String
  nodes : Collapsible NodeListView
  history : Collapsible String
  deriving DecidableEq, Repr, Inhabited

namespace JobRow

/-- The row of a job: the node list open, the history closed. -/
def ofJob (job : JobRecord) : JobRow :=
  { id := job.id
    state := ⟨job.state.text, job.state.tone⟩
    spec := prettyOr notAvailable job.spec
    nodes := nodeListCell job.snapshots
    history := ⟨prettyOr notAvailable job.history, .hidden⟩ }

/-- The row with its node list toggled. -/
def toggleNodes (row : JobRow) : JobRow := { row with nodes := row.nodes.toggle }

/-- The row with its history toggled. -/
def toggleHistory (row : JobRow) : JobRow := { row with history := row.history.toggle }

end JobRow

end ClusterBoard
