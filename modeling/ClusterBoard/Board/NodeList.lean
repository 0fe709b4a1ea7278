import ClusterBoard.Board.Disclosure
import ClusterBoard.Record.Job

/-!
# The nodes of a job

A job row lists the nodes of the current run, one a line. Each node with a logical name has eight
ranks, whose services are reached through the server's proxy under that name and a port.
-/

namespace ClusterBoard

/-- The number of ranks of a node. -/
def rankCount : Nat := 8

/-- The port of rank 0; the other ranks follow it. -/
def rankBasePort : Nat := 3724

/-- The path of the proxy in front of the ranks. -/
def proxyBase : String := "api/proxy"

/-- The port of a rank; ports have sixteen bits. -/
def rankPort (rank : Nat) : Nat := (rankBasePort + rank) % Nat.pow 2 16

/-- The link of a rank, relative to the server. -/
def rankHref (logical : String) (rank : Nat) : String :=
  proxyBase ++ "/" ++ logical ++ ":" ++ toString (rankPort rank) ++ "/"

/-- A link to the service of one rank of a node. -/
structure RankLink where
  rank : Nat
  port : Nat
  href : String
  deriving DecidableEq, Repr, Inhabited

/-- The links of all ranks under a logical name. -/
def rankLinks (logical : String) : List RankLink :=
  (List.range rankCount).map fun rank => ⟨rank, rankPort rank, rankHref logical rank⟩

/-- One node of a run. Without a logical name there is nothing to link to. -/
structure NodeLine where
  logical : Option String
  physical : Option String
  ranks : List RankLink
  deriving DecidableEq, Repr, Inhabited

/-- What the node cell of a job shows. -/
inductive NodeListView where
  | nodes (lines : List NodeLine)
  | noData
  | unavailable
  deriving DecidableEq, Repr, Inhabited

/-- What is shown for a value that the record does not carry. -/
def notAvailable : String := "N/A"

/-- What is shown for a run without nodes. -/
def noDataText : String := "No data available"

namespace NodeListView

/-- What is shown in place of a list. -/
def placeholder? : NodeListView → Option String
  | .nodes _ => none
  | .noData => some noDataText
  | .unavailable => some notAvailable

/-- The line of a snapshot. -/
def lineOf (snapshot : NodeSnapshot) : NodeLine :=
  { logical := snapshot.logical
    physical := snapshot.physical
    ranks := (snapshot.logical.map rankLinks).getD [] }

/-- The lines of the snapshots, in order. -/
def ofSnapshots : NodeSnapshots → NodeListView
  | .nodes entries => .nodes (entries.map fun (_, snapshot) => lineOf snapshot)
  | .empty => .noData
  | .unavailable => .unavailable

end NodeListView

/-- The node cell of a job, at first open. -/
def nodeListCell (snapshots : NodeSnapshots) : Collapsible NodeListView :=
  ⟨.ofSnapshots snapshots, .shown⟩

end ClusterBoard
