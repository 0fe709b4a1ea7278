import ClusterBoard.Board.Grouping

/-!
# Choosing a user

The navigation lists the users with the most nodes first; users with equally many stay in the order
of their first job. Moving on from the last user leads to the first, and back.
-/

namespace ClusterBoard

/-- A user that can be chosen. -/
structure NavEntry where
  user : String
  nodeCount : Nat
  deriving DecidableEq, Repr, Inhabited

/-- The label of an entry, such as `alice (12 nodes)`. -/
def NavEntry.label (entry : NavEntry) : String := s!"{entry.user} ({entry.nodeCount} nodes)"

/-- The users that can be chosen, in order. -/
structure Navigation where
  entries : List NavEntry
  deriving DecidableEq, Repr, Inhabited

namespace Navigation

/-- Nobody to choose. -/
def empty : Navigation := ⟨[]⟩

/-- The users of a grouping, most nodes first. -/
def ofGrouping (g : Grouping) : Navigation :=
  ⟨(g.groups.map fun group => ⟨group.user, group.nodeCount⟩).mergeSort
    fun a b => b.nodeCount ≤ a.nodeCount⟩

/-- Whether there is nobody to choose. -/
def isEmpty (nav : Navigation) : Bool := nav.entries.isEmpty

/-- The place of a user. -/
def position? (nav : Navigation) (user : String) : Option Nat :=
  nav.entries.findIdx? (·.user == user)

/-- The user at a place. -/
def userAt? (nav : Navigation) (place : Nat) : Option String :=
  nav.entries[place]?.map NavEntry.user

/-- The user after `current`, round the end; the first one if `current` is not listed. -/
def nextUser? (nav : Navigation) (current : Option String) : Option String :=
  match current.bind nav.position? with
  | some place => nav.userAt? ((place + 1) % nav.entries.length)
  | none => nav.userAt? 0

/-- The user before `current`, round the start; the last one if `current` is not listed. -/
def previousUser? (nav : Navigation) (current : Option String) : Option String :=
  let count := nav.entries.length
  match current.bind nav.position? with
  | some place => nav.userAt? ((place + count - 1) % count)
  | none => nav.userAt? (count - 1)

end Navigation

end ClusterBoard
