import ClusterBoard.Record.Collection

/-!
# Jobs by user

`Grouping.ofJobs` puts the jobs of a collection into one group for each user, in the order in which
the users first appear. The first user with the most nodes is the one shown at first.
-/

namespace ClusterBoard

/-- The jobs of one user, as places in the collection. -/
structure UserGroup where
  user : String
  jobs : List Nat
  /-- The nodes of all the jobs together. -/
  nodeCount : Nat
  deriving DecidableEq, Repr, Inhabited

/-- The jobs of a collection, by user. -/
structure Grouping where
  /-- In the order in which the users first appear. -/
  groups : List UserGroup
  /-- The place of each user's group. -/
  index : List (String × Nat)
  focusedUser : Option String
  deriving DecidableEq, Repr, Inhabited

namespace UserGroup

/-- The number of jobs. -/
def size (group : UserGroup) : Nat := group.jobs.length

/-- The group with one more job. -/
def add (group : UserGroup) (place nodes : Nat) : UserGroup :=
  { group with jobs := group.jobs ++ [place], nodeCount := group.nodeCount + nodes }

/-- The first group with the most nodes. -/
def firstLargest? : List UserGroup → Option UserGroup
  | [] => none
  | group :: rest =>
    some (rest.foldl (fun best g => if best.nodeCount < g.nodeCount then g else best) group)

end UserGroup

/-- The groups of the jobs seen so far, and where each user's group stands. -/
structure Tally where
  groups : List UserGroup
  index : List (String × Nat)

namespace Tally

/-- No jobs seen. -/
def empty : Tally := ⟨[], []⟩

/-- Adds a job to its user's group; a new user gets a new group, the last one. -/
def add (t : Tally) (place : Nat) (job : JobRecord) : Tally :=
  match t.index.lookup job.user with
  | some slot => { t with groups := t.groups.modify slot (·.add place job.nodeCount) }
  | none =>
    { groups := t.groups ++ [⟨job.user, [place], job.nodeCount⟩]
      index := (job.user, t.groups.length) :: t.index }

/-- The tally of a list of jobs. -/
def ofList (jobs : List JobRecord) : Tally :=
  jobs.zipIdx.foldl (fun t (job, place) => t.add place job) .empty

end Tally

namespace Grouping

/-- No jobs. -/
def empty : Grouping := ⟨[], [], none⟩

/-- The groups of a collection and the user to show first. -/
def ofJobs (jobs : Collection JobRecord) : Grouping :=
  let t := Tally.ofList jobs.records
  ⟨t.groups, t.index, (UserGroup.firstLargest? t.groups).map UserGroup.user⟩

/-- The group of a user. -/
def group? (g : Grouping) (user : String) : Option UserGroup :=
  (g.index.lookup user).bind fun slot => g.groups[slot]?

/-- The number of nodes of a user. -/
def nodeCount? (g : Grouping) (user : String) : Option Nat := (g.group? user).map (·.nodeCount)

/-- Whether there are no jobs. -/
def isEmpty (g : Grouping) : Bool := g.groups.isEmpty

/-- The number of jobs in all groups. -/
def totalJobs (g : Grouping) : Nat := g.groups.foldr (fun group n => group.size + n) 0

end Grouping

end ClusterBoard
