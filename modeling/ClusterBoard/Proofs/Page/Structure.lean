import Mathlib
import ClusterBoard.Proofs.Page.ErrorRegion
import ClusterBoard.Proofs.Page.Escaping

/-!
# The structure of the pages

Tags and attribute values begin and end with `<`, `>` and the two quotes (`delimiters`). Escaping
leaves none of them in a text (`delimiters_escape`), so all delimiters of a page come from its
markup (`delimiters_render`). What is in the markup depends on the shape of what is shown alone: how
many rows, lines, links and buttons there are, and in which state. So pages of one shape have the
same delimiters in the same order, whatever their texts (`delimiters_eq_of_shape_eq`).
-/

namespace ClusterBoard.Page

/-! ## Pieces -/

/-- The delimiters that a piece brings; a text brings none. -/
def Piece.delimiters : Piece → List Char
  | .markup source => Page.delimiters source
  | .text _ => []

/-- The delimiters of the markup among pieces. -/
def skeleton (pieces : List Piece) : List Char := pieces.flatMap Piece.delimiters

theorem skeleton_append (a b : List Piece) : skeleton (a ++ b) = skeleton a ++ skeleton b :=
  List.flatMap_append

theorem skeleton_cons (piece : Piece) (pieces : List Piece) :
    skeleton (piece :: pieces) = piece.delimiters ++ skeleton pieces := rfl

theorem Piece.delimiters_render (piece : Piece) :
    Page.delimiters piece.render = piece.delimiters := by
  cases piece with
  | markup source => rfl
  | text content => exact delimiters_escape content

/-- All delimiters of what is written come from its markup. -/
theorem delimiters_render (pieces : List Piece) : delimiters (render pieces) = skeleton pieces := by
  induction pieces with
  | nil => rfl
  | cons piece pieces ih =>
    rw [render_cons, delimiters_append, piece.delimiters_render, ih, skeleton_cons]

/-- What is written of items one by one has the same skeleton for items of the same shapes. -/
theorem skeleton_flatMap_eq {α σ : Type} {shape shape' : α → σ} {write write' : α → List Piece}
    (hwrite : ∀ x y, shape x = shape' y → skeleton (write x) = skeleton (write' y)) :
    ∀ {xs ys : List α}, xs.map shape = ys.map shape' →
      skeleton (xs.flatMap write) = skeleton (ys.flatMap write')
  | [], [], _ => rfl
  | x :: xs, y :: ys, h => by
    obtain ⟨hxy, hrest⟩ := List.cons.inj h
    rw [List.flatMap_cons, List.flatMap_cons, skeleton_append, skeleton_append, hwrite x y hxy,
      skeleton_flatMap_eq hwrite hrest]

/-! ## Shapes -/

/-- The shape of a node list: its kind, and the number of ranks on each line. -/
inductive NodeListShape where
  | nodes (ranks : List Nat)
  | noData
  | unavailable
  deriving DecidableEq

/-- The shape of a node list. -/
def nodeListShape : NodeListView → NodeListShape
  | .nodes lines => .nodes (lines.map fun line => line.ranks.length)
  | .noData => .noData
  | .unavailable => .unavailable

/-- The shape of a row of the jobs table. -/
structure JobRowShape where
  tone : Tone
  nodes : NodeListShape
  nodesState : Disclosure
  historyState : Disclosure
  deriving DecidableEq

/-- The shape of a row of the jobs table. -/
def jobRowShape (row : JobRow) : JobRowShape :=
  ⟨row.state.tone, nodeListShape row.nodes.content, row.nodes.state, row.history.state⟩

/-- The shape of the jobs page. -/
structure JobsShape where
  /-- Which of the users' buttons are selected. -/
  selected : List Bool
  rows : List JobRowShape
  previousDisabled : Bool
  nextDisabled : Bool
  deriving DecidableEq

/-- The shape of the jobs page. -/
def jobsShape (nav : Navigation) (focused : Option String) (view : PageView) : JobsShape :=
  ⟨nav.entries.map fun entry => decide (focused = some entry.user), view.rows.map jobRowShape,
    view.previousDisabled, view.nextDisabled⟩

/-- The shape of a row of the nodes table: the tones of its cells. -/
def nodeRowShape (row : NodeRow) : Tone × Tone × Tone :=
  (row.spec.tone, row.k8s.tone, row.slurm.tone)

/-- The shape of the nodes page. -/
def nodesShape (table : NodeTable) : List (Tone × Tone × Tone) := table.rows.map nodeRowShape

/-! ## The parts of the pages -/

theorem skeleton_document (title : String) {body body' : List Piece}
    (h : skeleton body = skeleton body') :
    skeleton (document title body) = skeleton (document title body') := by
  unfold document
  rw [skeleton_append, skeleton_append, skeleton_append, skeleton_append, h]

theorem skeleton_errorRegion (error error' : Option String) :
    skeleton (errorRegion error) = skeleton (errorRegion error') := rfl

theorem skeleton_preformatted (text text' : String) :
    skeleton (preformatted text) = skeleton (preformatted text') := rfl

theorem skeleton_cellOf {tone tone' : Tone} (h : tone = tone') (text text' : String) :
    skeleton (cellOf tone text) = skeleton (cellOf tone' text') := by
  rw [h]
  rfl

/-- A missing block is told by its text, but in quotes or not, a cell has the same markup. -/
theorem skeleton_statusCell {a b : Cell} (h : a.tone = b.tone) :
    skeleton (statusCell a) = skeleton (statusCell b) := by
  unfold statusCell
  split_ifs <;> exact skeleton_cellOf h _ _

theorem skeleton_historyCell {a b : Collapsible String} (h : a.state = b.state) :
    skeleton (historyCell a) = skeleton (historyCell b) := by
  unfold historyCell
  rw [h]
  rfl

theorem skeleton_rankLink (a b : RankLink) : skeleton (rankLink a) = skeleton (rankLink b) := by
  simp only [rankLink, skeleton_cons, Piece.delimiters, delimiters_toString]

theorem skeleton_nodeLine {a b : NodeLine} (h : a.ranks.length = b.ranks.length) :
    skeleton (nodeLine a) = skeleton (nodeLine b) := by
  have hcount : (a.ranks.map fun _ => ()) = b.ranks.map fun _ => () := by
    rw [List.map_const', List.map_const', h]
  have hlinks : skeleton (a.ranks.flatMap rankLink) = skeleton (b.ranks.flatMap rankLink) :=
    skeleton_flatMap_eq (fun x y _ => skeleton_rankLink x y) hcount
  unfold nodeLine
  rw [skeleton_append, skeleton_append, skeleton_append, skeleton_append, hlinks]
  rfl

theorem skeleton_nodeListBody {a b : NodeListView} (h : nodeListShape a = nodeListShape b) :
    skeleton (nodeListBody a) = skeleton (nodeListBody b) := by
  cases a with
  | nodes lines =>
    cases b with
    | nodes lines' =>
      exact skeleton_flatMap_eq (fun _ _ => skeleton_nodeLine) (NodeListShape.nodes.inj h)
    | noData => cases h
    | unavailable => cases h
  | noData =>
    cases b with
    | noData => rfl
    | _ => cases h
  | unavailable =>
    cases b with
    | unavailable => rfl
    | _ => cases h

theorem skeleton_nodeListCell {a b : Collapsible NodeListView}
    (h : nodeListShape a.content = nodeListShape b.content) (hs : a.state = b.state) :
    skeleton (nodeListCell a) = skeleton (nodeListCell b) := by
  unfold nodeListCell
  simp only [skeleton_append, skeleton_cons, List.cons_append]
  rw [hs, skeleton_nodeListBody h]

theorem skeleton_jobRow {a b : JobRow} (h : jobRowShape a = jobRowShape b) :
    skeleton (jobRow a) = skeleton (jobRow b) := by
  obtain ⟨htone, hnodes, hstate, hhistory⟩ := JobRowShape.mk.inj h
  unfold jobRow quotedCell
  simp only [skeleton_append, skeleton_cons, List.cons_append]
  rw [skeleton_cellOf htone _ (String.ofList (Json.quotedChars b.state.text)),
    skeleton_preformatted a.spec b.spec, skeleton_nodeListCell hnodes hstate,
    skeleton_historyCell hhistory]
  rfl

theorem skeleton_navButton (focused focused' : Option String) (a b : NavEntry)
    (h : decide (focused = some a.user) = decide (focused' = some b.user)) :
    skeleton (navButton focused a) = skeleton (navButton focused' b) := by
  unfold navButton
  simp only [decide_eq_decide.mp h]
  rfl

theorem skeleton_navigationRegion {nav nav' : Navigation} {focused focused' : Option String}
    (h : nav.entries.map (fun entry => decide (focused = some entry.user)) =
      nav'.entries.map fun entry => decide (focused' = some entry.user)) :
    skeleton (navigationRegion nav focused) = skeleton (navigationRegion nav' focused') := by
  unfold navigationRegion
  simp only [skeleton_append, skeleton_cons, List.cons_append]
  rw [skeleton_flatMap_eq (skeleton_navButton focused focused') h]

theorem skeleton_paginationRegion {view view' : PageView}
    (hprev : view.previousDisabled = view'.previousDisabled)
    (hnext : view.nextDisabled = view'.nextDisabled) :
    skeleton (paginationRegion view) = skeleton (paginationRegion view') := by
  unfold paginationRegion
  rw [hprev, hnext]
  rfl

theorem skeleton_jobsPieces {nav nav' : Navigation} {focused focused' : Option String}
    {view view' : PageView} (h : jobsShape nav focused view = jobsShape nav' focused' view')
    (error error' : Option String) :
    skeleton (jobsPieces nav focused view error) =
      skeleton (jobsPieces nav' focused' view' error') := by
  obtain ⟨hselected, hrows, hprev, hnext⟩ := JobsShape.mk.inj h
  refine skeleton_document "Jobs" ?_
  simp only [skeleton_append, skeleton_cons, List.cons_append]
  rw [skeleton_errorRegion error error', skeleton_navigationRegion hselected,
    skeleton_paginationRegion hprev hnext,
    skeleton_flatMap_eq (fun _ _ => skeleton_jobRow) hrows]

theorem skeleton_nodeRow {a b : NodeRow} (h : nodeRowShape a = nodeRowShape b) :
    skeleton (nodeRow a) = skeleton (nodeRow b) := by
  obtain ⟨hspec, hk8s, hslurm⟩ : a.spec.tone = b.spec.tone ∧ a.k8s.tone = b.k8s.tone ∧
      a.slurm.tone = b.slurm.tone := by simpa [nodeRowShape] using h
  unfold nodeRow plainCell
  simp only [skeleton_append]
  rw [skeleton_cellOf hspec _ b.spec.text, skeleton_statusCell hk8s, skeleton_statusCell hslurm]
  rfl

theorem skeleton_nodesPieces {table table' : NodeTable} (h : nodesShape table = nodesShape table')
    (error error' : Option String) :
    skeleton (nodesPieces table error) = skeleton (nodesPieces table' error') := by
  refine skeleton_document "Nodes" ?_
  simp only [skeleton_append, skeleton_cons, List.cons_append]
  rw [skeleton_errorRegion error error', skeleton_flatMap_eq (fun _ _ => skeleton_nodeRow) h]

/-! ## The theorem -/

/-- **Records cannot alter the structure of a page.** All delimiters come from the markup, and pages
of one shape have the same ones in the same order, whatever texts they show. -/
theorem delimiters_eq_of_shape_eq :
    (∀ nav focused view error,
      delimiters (jobsDocument nav focused view error) =
        skeleton (jobsPieces nav focused view error) ∧
      ∀ nav' focused' view' error', jobsShape nav focused view = jobsShape nav' focused' view' →
        delimiters (jobsDocument nav focused view error) =
          delimiters (jobsDocument nav' focused' view' error')) ∧
    ∀ table error,
      delimiters (nodesDocument table error) = skeleton (nodesPieces table error) ∧
      ∀ table' error', nodesShape table = nodesShape table' →
        delimiters (nodesDocument table error) = delimiters (nodesDocument table' error') := by
  refine ⟨fun nav focused view error =>
      ⟨delimiters_render _, fun nav' focused' view' error' h => ?_⟩,
    fun table error => ⟨delimiters_render _, fun table' error' h => ?_⟩⟩
  · rw [jobsDocument, jobsDocument, delimiters_render, delimiters_render,
      skeleton_jobsPieces h error error']
  · rw [nodesDocument, nodesDocument, delimiters_render, delimiters_render,
      skeleton_nodesPieces h error error']

/-- A jobs page with one row, on which all that comes from a record is the same text. -/
def viewOf (text : String) : PageView :=
  { rows := [{
      id := ⟨text⟩
      state := ⟨text, .good⟩
      spec := text
      nodes := ⟨.nodes [⟨some text, some text, [⟨0, 3724, text⟩]⟩], .shown⟩
      history := ⟨text, .hidden⟩ }]
    status := some text
    page := 1
    totalPages := 1
    previousDisabled := true
    nextDisabled := true }

/-- A text that closes an attribute and opens a script adds no delimiter, and neither does a block
whose text is that of a missing one. -/
theorem delimiters_eq_script :
    (∀ text text', jobsShape ⟨[⟨text, 1⟩]⟩ (some text) (viewOf text) =
      jobsShape ⟨[⟨text', 1⟩]⟩ (some text') (viewOf text')) ∧
    delimiters (jobsDocument ⟨[⟨"bob", 1⟩]⟩ (some "bob") (viewOf "bob") none) =
      delimiters (jobsDocument ⟨[⟨"\"><script>", 1⟩]⟩ (some "\"><script>") (viewOf "\"><script>")
        (some "'>")) ∧
    delimiters (nodesDocument
        ⟨[⟨⟨"1"⟩, "n", ⟨"", .normal⟩, ⟨"UNKNOWN", .alert⟩, ⟨"", .alert⟩⟩]⟩ none) =
      delimiters (nodesDocument
        ⟨[⟨⟨"2"⟩, "<n>", ⟨"<", .normal⟩, ⟨"'", .alert⟩, ⟨"UNKNOWN", .alert⟩⟩]⟩ (some ">")) := by
  have hshape : ∀ text text', jobsShape ⟨[⟨text, 1⟩]⟩ (some text) (viewOf text) =
      jobsShape ⟨[⟨text', 1⟩]⟩ (some text') (viewOf text') := by
    intro text text'
    simp [jobsShape, viewOf, jobRowShape, nodeListShape]
  exact ⟨hshape, (delimiters_eq_of_shape_eq.1 _ _ _ _).2 _ _ _ _ (hshape _ _),
    (delimiters_eq_of_shape_eq.2 _ _).2 _ _ rfl⟩

end ClusterBoard.Page
