import Mathlib
import ClusterBoard.Proofs.Text.Numbers
import ClusterBoard.Proofs.Text.SingleLine

/-!
# The first lines of a text

`headLines` keeps a text that has few enough lines, and cuts a longer one to its first lines and a
note of how many follow. The cut text is joined again, so its lines have to be found anew: a line
feed after a line ends it there (`lines_append_feed`), and takes with it a carriage return that the
line ended in. Joining therefore adds no line and loses none (`lines_joinWith`), and a cut text has
one line more than the limit, of which the last one is the note (`lines_headLinesOf`).
-/

namespace ClusterBoard.Text

variable {a cs last : List Char} {limit : Nat}

/-! ## Counting lines -/

theorem lineCount_pos (h : cs ≠ []) : 0 < lineCount cs := by
  unfold lineCount
  induction cs with
  | nil => exact absurd rfl h
  | cons c cs ih =>
    rcases lines_cons_cases c cs with ⟨-, hlines⟩ | ⟨-, hhead, hlines⟩ | ⟨-, hlines⟩
    · rw [hlines]
      exact Nat.succ_pos _
    · -- The carriage return belongs to the end of a line, so there is one.
      rw [hlines]
      exact ih fun hnil => by simp [hnil] at hhead
    · rw [hlines]
      cases lines cs <;> exact Nat.succ_pos _

theorem lineCount_le_of_not_mem (h : '\n' ∉ cs) : lineCount cs ≤ 1 := by
  by_cases hne : cs = []
  · rw [hne]
    exact Nat.zero_le 1
  · rw [lineCount, lines_of_not_mem hne h, List.length_singleton]

/-! ## Lines joined again -/

/-- The line without a carriage return at its end. -/
def withoutReturn : List Char → List Char
  | [] => []
  | ['\r'] => []
  | c :: rest => c :: withoutReturn rest

theorem withoutReturn_cons {c : Char} (h : ¬ (c = '\r' ∧ a = [])) :
    withoutReturn (c :: a) = c :: withoutReturn a := by
  rw [withoutReturn]
  rintro rfl rfl
  exact h ⟨rfl, rfl⟩

/-- A line feed ends the line before it, together with a carriage return. -/
theorem lines_append_feed (h : '\n' ∉ a) (rest : List Char) :
    lines (a ++ '\n' :: rest) = withoutReturn a :: lines rest := by
  induction a with
  | nil => rfl
  | cons c a ih =>
    rw [List.mem_cons, not_or] at h
    by_cases hend : c = '\r' ∧ a = []
    · obtain ⟨rfl, rfl⟩ := hend
      rfl
    rw [withoutReturn_cons hend, List.cons_append]
    rcases lines_cons_cases c (a ++ '\n' :: rest) with ⟨rfl, -⟩ | ⟨rfl, hhead, -⟩ | ⟨-, hlines⟩
    · exact absurd rfl h.1
    · -- A line feed next would stand in `a`.
      have hne : a ≠ [] := fun hnil => hend ⟨rfl, hnil⟩
      rw [List.head?_append_of_ne_nil _ hne] at hhead
      exact absurd (List.mem_of_mem_head? hhead) h.2
    · rw [hlines, ih h.2]
      rfl

theorem lines_joinWith {pieces : List (List Char)} (h : ∀ piece ∈ pieces, '\n' ∉ piece)
    (hne : last ≠ []) (hlast : '\n' ∉ last) :
    lines (joinWith ['\n'] (pieces ++ [last])) = pieces.map withoutReturn ++ [last] := by
  induction pieces with
  | nil => exact lines_of_not_mem hne hlast
  | cons piece pieces ih =>
    obtain ⟨hpiece, hpieces⟩ := List.forall_mem_cons.mp h
    have hrest : pieces ++ [last] ≠ [] := by simp
    obtain ⟨next, more, hmore⟩ := List.exists_cons_of_ne_nil hrest
    rw [List.cons_append, hmore, joinWith_cons_cons, ← hmore, List.singleton_append,
      lines_append_feed hpiece, ih hpieces, List.map_cons, List.cons_append]

/-! ## Cut texts -/

theorem droppedNote_ne_nil (count : Nat) : droppedNote count ≠ [] := by
  simp [droppedNote]

theorem feed_not_mem_droppedNote (count : Nat) : '\n' ∉ droppedNote count := by
  simp [droppedNote, not_mem_toDigits]

theorem droppedNote_eq (count : Nat) :
    droppedNote count = ("… " ++ toString count ++ " more line(s)").toList := by
  rw [String.toList_append, String.toList_append, droppedNote]
  exact congrArg (_ ++ · ++ _) (Nat.toList_repr (n := count)).symm

theorem headLinesOf_of_fits (h : lineCount cs ≤ limit) : headLinesOf cs limit = cs := if_pos h

theorem lines_headLinesOf (h : limit < lineCount cs) : lines (headLinesOf cs limit) =
    ((lines cs).take limit).map withoutReturn ++ [droppedNote (lineCount cs - limit)] := by
  have hcut : headLinesOf cs limit =
      joinWith ['\n'] ((lines cs).take limit ++ [droppedNote (lineCount cs - limit)]) :=
    if_neg (Nat.not_le_of_lt h)
  have hkept : ∀ line ∈ (lines cs).take limit, '\n' ∉ line := fun line hline =>
    not_mem_of_mem_lines cs line (List.mem_of_mem_take hline)
  rw [hcut, lines_joinWith hkept (droppedNote_ne_nil _) (feed_not_mem_droppedNote _)]

/-- A line that ends in a carriage return loses it, since the line feed comes right after it now. -/
example : lines "a\r\r\nb".toList = ["a\r".toList, "b".toList] ∧
    lines (headLinesOf "a\r\r\nb".toList 1) = ["a".toList, droppedNote 1] := by decide

theorem toList_headLines (text : String) (limit : Nat) :
    (headLines text limit).toList = headLinesOf text.toList limit := String.toList_ofList

theorem lineCount_headLines (text : String) (limit : Nat) :
    lineCount (headLines text limit).toList = min (lineCount text.toList) (limit + 1) := by
  rw [toList_headLines]
  rcases Nat.lt_or_ge limit (lineCount text.toList) with h | h
  · rw [lineCount, lines_headLinesOf h, List.length_append, List.length_map,
      List.length_take_of_le h.le, List.length_singleton]
    exact (Nat.min_eq_right h).symm
  · rw [headLinesOf_of_fits h]
    exact (Nat.min_eq_left (Nat.le_succ_of_le h)).symm

end ClusterBoard.Text
