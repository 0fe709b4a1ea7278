import ClusterBoard.Board.JobRow
import ClusterBoard.Board.Navigation

/-!
# Paging through a user's jobs

A `Pager` holds the loaded jobs, what is derived from them, and which page of which user is shown.
Moves that have nowhere to go are `none`; what is drawn is a function of the pager (`Pager.view`).
-/

namespace ClusterBoard

/-- The number of jobs on a full page. -/
def pageSize : Nat := 100

/-- One page of the jobs table. -/
structure PageView where
  rows : List JobRow
  /-- The user, the number of nodes and the page, if a known user is shown. -/
  status : Option String
  page : Nat
  totalPages : Nat
  previousDisabled : Bool
  nextDisabled : Bool
  deriving DecidableEq, Repr, Inhabited

/-- The page of no user. -/
def PageView.blank (page : Nat) : PageView := ⟨[], none, page, 0, true, true⟩

/-- The number of pages that hold `count` jobs. -/
def pageCount (count : Nat) : Nat := (count + pageSize - 1) / pageSize

/-- The loaded jobs and the page that is shown. -/
structure Pager where
  jobs : Collection JobRecord
  grouping : Grouping
  navigation : Navigation
  user : Option String
  /-- Counted from 1. -/
  page : Nat
  deriving Repr, Inhabited

namespace Pager

/-- Nothing loaded. -/
def initial : Pager := ⟨.empty, .empty, .empty, none, 1⟩

/-- Fresh jobs: the first page of the user with the most nodes. -/
def ofJobs (jobs : Collection JobRecord) : Pager :=
  let grouping := Grouping.ofJobs jobs
  ⟨jobs, grouping, .ofGrouping grouping, grouping.focusedUser, 1⟩

/-- The group of the shown user. -/
def group? (p : Pager) : Option UserGroup := p.user.bind p.grouping.group?

/-- The number of pages of the shown user; none for a user without jobs. -/
def totalPages (p : Pager) : Nat := (p.group?.map fun g => pageCount g.size).getD 0

/-- Whether a user has jobs. -/
def knows (p : Pager) (user : String) : Bool := (p.grouping.group? user).isSome

/-- Fresh jobs, keeping the user and the page as far as the user still has jobs. -/
def refresh (p : Pager) (jobs : Collection JobRecord) : Pager :=
  let fresh := ofJobs jobs
  match p.user with
  | none => fresh
  | some user =>
    if fresh.knows user then
      let kept := { fresh with user := some user }
      { kept with page := max 1 (min p.page (max 1 kept.totalPages)) }
    else fresh

/-- The first page of a user, known or not. -/
def select (p : Pager) (user : String) : Pager := { p with user := some user, page := 1 }

/-- The next user's first page. -/
def nextUser? (p : Pager) : Option Pager := (p.navigation.nextUser? p.user).map p.select

/-- The previous user's first page. -/
def previousUser? (p : Pager) : Option Pager := (p.navigation.previousUser? p.user).map p.select

/-- One page back, unless the page is the first. -/
def previousPage? (p : Pager) : Option Pager :=
  if 1 < p.page then some { p with page := p.page - 1 } else none

/-- One page on, unless the page is the last. -/
def nextPage? (p : Pager) : Option Pager :=
  if p.page < p.totalPages then some { p with page := p.page + 1 } else none

/-- Any page, whether it exists or not. -/
def atPage (p : Pager) (page : Nat) : Pager := { p with page }

/-- Where a page starts in a user's jobs. -/
def pageStart (page : Nat) : Nat := (page - 1) * pageSize

/-- Where a page ends in a user's `count` jobs. -/
def pageEnd (page count : Nat) : Nat := min (pageStart page + pageSize) count

/-- The places of the jobs on a page of a group; none on a page that does not exist. -/
def placesOn (group : UserGroup) (page : Nat) : List Nat :=
  if page = 0 ∨ group.size ≤ pageStart page then []
  else group.jobs.extract (pageStart page) (pageEnd page group.size)

/-- The rows at places of the collection. -/
def rowsAt (p : Pager) (places : List Nat) : List JobRow :=
  places.filterMap fun place => p.jobs.records[place]?.map JobRow.ofJob

/-- The page that is shown. -/
def view (p : Pager) : PageView :=
  match p.user, p.group? with
  | some user, some group =>
    let total := pageCount group.size
    { rows := p.rowsAt (placesOn group p.page)
      status := some s!"{user} ({group.nodeCount} nodes): Page {p.page} of {total}"
      page := p.page
      totalPages := total
      previousDisabled := p.page = 1
      nextDisabled := p.page = total }
  | _, _ => .blank p.page

end Pager

end ClusterBoard
