import ClusterBoard.Board.JobRow
import ClusterBoard.Record.Collection

/-!
# The nodes table

Every node is one row, highest ID first. A row asks for attention if one of its cells is flagged.
-/

namespace ClusterBoard

/-- What is shown for a status block that a node does not carry. -/
def unknownStatus : String := "UNKNOWN"

/-- One row of the nodes table. -/
structure NodeRow where
  id : RecordId
  name : String
  spec : Cell
  k8s : Cell
  slurm : Cell
  deriving DecidableEq, Repr, Inhabited

namespace NodeRow

/-- The cell of a status block. -/
def statusCell (block : StatusBlock) : Cell := ⟨prettyOr unknownStatus block.raw, block.tone⟩

/-- The row of a node. -/
def ofNode (node : NodeRecord) : NodeRow :=
  { id := node.id
    name := node.name
    spec := ⟨prettyOr notAvailable node.spec, node.specTone⟩
    k8s := statusCell node.k8s
    slurm := statusCell node.slurm }

/-- Whether a cell is flagged. -/
def needsAttention (row : NodeRow) : Bool :=
  [row.spec, row.k8s, row.slurm].any fun cell => cell.tone == .alert

end NodeRow

/-- The nodes table. -/
structure NodeTable where
  rows : List NodeRow
  deriving DecidableEq, Repr, Inhabited

namespace NodeTable

/-- No nodes. -/
def empty : NodeTable := ⟨[]⟩

/-- The table of a collection. -/
def ofNodes (nodes : Collection NodeRecord) : NodeTable := ⟨nodes.records.map NodeRow.ofNode⟩

/-- How many nodes there are and how many of them are flagged, if there are any. -/
def summary? (table : NodeTable) : Option String :=
  if table.rows.isEmpty then none
  else
    let flagged := (table.rows.filter NodeRow.needsAttention).length
    some s!"{table.rows.length} nodes, {flagged} flagged"

end NodeTable

end ClusterBoard
