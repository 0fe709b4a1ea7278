import Mathlib
import ClusterBoard.Proofs.Console.Tabs
import ClusterBoard.Proofs.Web.RankLinks

/-!
# No two ranks share a link

A cell of nodes has one line for each snapshot, and a line has the links of the eight ranks under
the node's logical name, or none without a name (`NodeLine.Shows`). A link ends in a colon, the port
and a slash, and a port has no colon. So the last colon of a link tells the name and the port,
whatever stands in the name (`rankHref_inj`), and links of the board have the same text only if they
are for the same name and rank (`nodeListCell_links_distinct`).
-/

namespace ClusterBoard

/-! ## The lines of a cell -/

/-- A line stands for a snapshot: it has its names, and links under its logical name. -/
structure NodeLine.Shows (line : NodeLine) (snapshot : NodeSnapshot) : Prop where
  logical_eq : line.logical = snapshot.logical
  physical_eq : line.physical = snapshot.physical
  ranks_of_none : snapshot.logical = none → line.ranks = []
  ranks_of_some : ∀ name, snapshot.logical = some name → line.ranks =
    [⟨0, 3724, rankHref name 0⟩, ⟨1, 3725, rankHref name 1⟩, ⟨2, 3726, rankHref name 2⟩,
      ⟨3, 3727, rankHref name 3⟩, ⟨4, 3728, rankHref name 4⟩, ⟨5, 3729, rankHref name 5⟩,
      ⟨6, 3730, rankHref name 6⟩, ⟨7, 3731, rankHref name 7⟩]

theorem NodeListView.lineOf_shows (snapshot : NodeSnapshot) :
    (lineOf snapshot).Shows snapshot where
  logical_eq := rfl
  physical_eq := rfl
  ranks_of_none := fun h => by rw [lineOf, h]; rfl
  ranks_of_some := fun name h => by rw [lineOf, h]; rfl

/-- A line of some job's nodes. -/
def NodeLine.IsListed (line : NodeLine) : Prop :=
  ∃ snapshots lines, (nodeListCell snapshots).content = .nodes lines ∧ line ∈ lines

/-- Every row of a page lists the nodes of a job, whichever of its cells were opened or closed. -/
theorem JobRow.isListed_of_mem {p : Pager} {page : PageView} (hpage : page.asRendered = p.view)
    {row : JobRow} (hrow : row ∈ page.rows) {lines : List NodeLine}
    (hlines : row.nodes.content = .nodes lines) {line : NodeLine} (hline : line ∈ lines) :
    line.IsListed := by
  have hmem : row.asRendered ∈ p.view.rows := hpage ▸ List.mem_map_of_mem hrow
  rw [Pager.rows_view] at hmem
  obtain ⟨job, -, hjob⟩ := List.mem_map.mp hmem
  have hcontent : (JobRow.ofJob job).nodes.content = row.nodes.content :=
    congrArg (fun row => row.nodes.content) hjob
  exact ⟨job.snapshots, lines, hcontent.trans hlines, hline⟩

namespace Web

/-! ## The text of a link -/

section Text

variable {name other : String} {r s : Nat}

theorem toList_rankHref (name : String) (rank : Nat) : (rankHref name rank).toList =
    "api/proxy/".toList ++
      (name.toList ++ ':' :: ((toString (rankPort rank)).toList ++ ['/'])) := by
  simp [rankHref, proxyBase]

theorem colon_not_mem_port (port : Nat) : ':' ∉ (toString port).toList ++ ['/'] := by
  intro h
  rcases List.mem_append.mp h with hdigit | hslash
  · exact Text.not_mem_toString (by decide) port hdigit
  · exact absurd (List.mem_singleton.mp hslash) (by decide)

/-- Ranks are words of sixteen bits, and so are ports. -/
theorem rankPort_inj (hr : r < Nat.pow 2 16) (hs : s < Nat.pow 2 16) :
    rankPort r = rankPort s ↔ r = s := by
  have hwords : Nat.pow 2 16 = 65536 := rfl
  unfold rankPort rankBasePort
  rw [hwords] at hr hs ⊢
  omega

/-- A link tells the name and the rank. -/
theorem rankHref_inj (hr : r < Nat.pow 2 16) (hs : s < Nat.pow 2 16) :
    rankHref name r = rankHref other s ↔ name = other ∧ r = s := by
  rw [← String.toList_inj, toList_rankHref, toList_rankHref, List.append_cancel_left_eq,
    Text.append_cons_inj (colon_not_mem_port _) (colon_not_mem_port _), List.append_cancel_right_eq,
    String.toList_inj, String.toList_inj, ← rankPort_inj hr hs]
  exact and_congr_right fun _ => Nat.repr_inj

end Text

/-! ## The links of listed nodes -/

theorem exists_rank_of_isListed {line : NodeLine} {link : RankLink} (hline : line.IsListed)
    (hlink : link ∈ line.ranks) : ∃ name rank, line.logical = some name ∧ rank < Nat.pow 2 16 ∧
      link = ⟨rank, rankPort rank, rankHref name rank⟩ := by
  obtain ⟨snapshots, lines, hlines, hmem⟩ := hline
  obtain ⟨name, hname, hlinks⟩ := exists_of_mem_ranks hlines hmem hlink
  obtain ⟨rank, hrank, rfl⟩ := List.mem_map.mp hlinks
  have hbound : rankCount ≤ Nat.pow 2 16 := by decide
  exact ⟨name, rank, hname, (List.mem_range.mp hrank).trans_le hbound, rfl⟩

theorem href_eq_iff {line other : NodeLine} {link next : RankLink} (hline : line.IsListed)
    (hother : other.IsListed) (hlink : link ∈ line.ranks) (hnext : next ∈ other.ranks) :
    link.href = next.href ↔ line.logical = other.logical ∧ link.rank = next.rank := by
  obtain ⟨name, rank, hname, hrank, rfl⟩ := exists_rank_of_isListed hline hlink
  obtain ⟨name', rank', hname', hrank', rfl⟩ := exists_rank_of_isListed hother hnext
  rw [hname, hname', Option.some_inj]
  exact rankHref_inj hrank hrank'

/-! ## The theorem -/

/-- **No two ranks share a link.** A cell of nodes has a line for each snapshot, in order, with the
links of eight ranks if there is a logical name. For all names and ranks a link tells both, so two
links of listed nodes, and all nodes on all pages are listed, have the same text exactly if the
logical names and the ranks are the same. -/
theorem nodeListCell_links_distinct :
    (∀ entries : List (String × NodeSnapshot), ∃ lines,
      (nodeListCell (.nodes entries)).content = .nodes lines ∧
        List.Forall₂ (fun entry line => line.Shows entry.2) entries lines) ∧
    (∀ (name other : String) (r s : UInt16),
      rankHref name r.toNat = rankHref other s.toNat ↔ name = other ∧ r = s) ∧
    (∀ line other : NodeLine, line.IsListed → other.IsListed →
      ∀ link ∈ line.ranks, ∀ next ∈ other.ranks,
        (link.href = next.href ↔ line.logical = other.logical ∧ link.rank = next.rank)) ∧
    ∀ (p : Pager) (page : PageView), page.asRendered = p.view → ∀ row ∈ page.rows,
      ∀ lines, row.nodes.content = .nodes lines → ∀ line ∈ lines, line.IsListed := by
  refine ⟨?_, ?_, ?_, ?_⟩
  · intro entries
    refine ⟨_, rfl, List.forall₂_map_right_iff.mpr (List.forall₂_same.mpr fun entry _ => ?_)⟩
    exact NodeListView.lineOf_shows entry.2
  · intro name other r s
    rw [rankHref_inj r.toNat_lt s.toNat_lt, UInt16.toNat_inj]
  · exact fun line other hline hother link hlink next hnext =>
      href_eq_iff hline hother hlink hnext
  · exact fun p page hpage row hrow lines hlines line hline =>
      JobRow.isListed_of_mem hpage hrow hlines hline

/-- A node whose name ends as a link does. -/
theorem nodeListCell_links_distinct_colon :
    let line : NodeLine := NodeListView.lineOf ⟨some "a", none, none⟩
    let other : NodeLine := NodeListView.lineOf ⟨some "a:3724/", none, none⟩
    line.IsListed ∧ other.IsListed ∧ ⟨0, 3724, "api/proxy/a:3724/"⟩ ∈ line.ranks ∧
      ⟨0, 3724, "api/proxy/a:3724/:3724/"⟩ ∈ other.ranks ∧
        "api/proxy/a:3724/" ≠ "api/proxy/a:3724/:3724/" := by
  intro line other
  have hlisted (name : String) : (NodeListView.lineOf ⟨some name, none, none⟩).IsListed :=
    ⟨.nodes [("1", ⟨some name, none, none⟩)], _, rfl, List.mem_singleton_self _⟩
  have hlink : ⟨0, 3724, "api/proxy/a:3724/"⟩ ∈ line.ranks := head_mem_rankLinks "a"
  have hnext : ⟨0, 3724, "api/proxy/a:3724/:3724/"⟩ ∈ other.ranks := head_mem_rankLinks "a:3724/"
  have hiff := nodeListCell_links_distinct.2.2.1 line other (hlisted "a") (hlisted "a:3724/")
    _ hlink _ hnext
  refine ⟨hlisted "a", hlisted "a:3724/", hlink, hnext, fun heq => ?_⟩
  obtain ⟨hname, -⟩ := hiff.mp heq
  exact absurd hname (by decide)

end Web

end ClusterBoard
