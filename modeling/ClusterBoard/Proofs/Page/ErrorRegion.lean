import Mathlib
import ClusterBoard.Page.Document

/-!
# The region of the error message

A page is rendered piece by piece (`render_append`), and the error message is one text piece. So
pages that differ in the message alone are alike before and after it (`jobsDocument_eq`,
`nodesDocument_eq`).
-/

namespace ClusterBoard.Page

/-! ## Rendering piece by piece -/

theorem render_eq_join (pieces : List Piece) :
    render pieces = String.join (pieces.map Piece.render) := by
  unfold render String.join
  rw [List.foldl_map]

theorem render_append (a b : List Piece) : render (a ++ b) = render a ++ render b := by
  rw [render_eq_join, render_eq_join, render_eq_join, List.map_append, String.join_append]

theorem render_cons (piece : Piece) (pieces : List Piece) :
    render (piece :: pieces) = piece.render ++ render pieces := by
  rw [render_eq_join, render_eq_join, List.map_cons, String.join_cons]

/-! ## Around the message -/

/-- The region of a message, between two texts. -/
def withRegion (above message below : String) : String :=
  above ++ "<div id=\"errorMessage\">" ++ message ++ "</div>" ++ below

theorem render_errorRegion (above below : List Piece) (error : Option String) :
    render (above ++ errorRegion error ++ below) =
      withRegion (render above) (escape (error.getD "")) (render below) := by
  rw [render_append, render_append, errorRegion, render_cons, render_cons, render_cons]
  simp only [Piece.render, withRegion, render, List.foldl_nil, String.append_empty,
    String.append_assoc]

/-- Above the region stand only the head of the document and the heading. -/
theorem jobsDocument_eq : ∃ above, ∀ nav focused view, ∃ below, ∀ error,
    jobsDocument nav focused view error = withRegion above (escape (error.getD "")) below := by
  have hsplit : ∃ above, ∀ nav focused view, ∃ below, ∀ error,
      jobsPieces nav focused view error = above ++ errorRegion error ++ below :=
    ⟨[_, _, _, _, _, _], fun _ _ _ => ⟨_, fun _ => rfl⟩⟩
  obtain ⟨above, habove⟩ := hsplit
  refine ⟨render above, fun nav focused view => ?_⟩
  obtain ⟨below, h⟩ := habove nav focused view
  exact ⟨render below, fun error => by rw [jobsDocument, h, render_errorRegion]⟩

theorem nodesDocument_eq : ∃ above, ∀ table, ∃ below, ∀ error,
    nodesDocument table error = withRegion above (escape (error.getD "")) below := by
  have hsplit : ∃ above, ∀ table, ∃ below, ∀ error,
      nodesPieces table error = above ++ errorRegion error ++ below :=
    ⟨[_, _, _, _, _, _], fun _ => ⟨_, fun _ => rfl⟩⟩
  obtain ⟨above, habove⟩ := hsplit
  refine ⟨render above, fun table => ?_⟩
  obtain ⟨below, h⟩ := habove table
  exact ⟨render below, fun error => by rw [nodesDocument, h, render_errorRegion]⟩

end ClusterBoard.Page
