import Mathlib
import ClusterBoard.Text.Lines

/-!
# Pieces between separators

Splitting a text that is joined of two at a separator gives the pieces of both (`splitOn_append`),
so the last separator of a text tells its two sides (`append_cons_inj`). Pieces that were joined are
found again if none of them holds the separator (`splitOn_joinWith`).
-/

namespace ClusterBoard.Text

variable {separator : Char} {cs : List Char}

theorem splitOn_cons_self (separator : Char) (cs : List Char) :
    splitOn separator (separator :: cs) = [] :: splitOn separator cs := if_pos rfl

theorem splitOn_ne_nil (separator : Char) (cs : List Char) : splitOn separator cs ≠ [] := by
  cases cs with
  | nil => exact List.cons_ne_nil _ _
  | cons c cs =>
    unfold splitOn
    split
    · exact List.cons_ne_nil _ _
    · split <;> exact List.cons_ne_nil _ _

theorem splitOn_cons_of_ne {c : Char} (h : c ≠ separator) {piece : List Char}
    {more : List (List Char)} (hcs : splitOn separator cs = piece :: more) :
    splitOn separator (c :: cs) = (c :: piece) :: more := by
  rw [splitOn, if_neg h, hcs]

theorem splitOn_append_of_not_mem (h : separator ∉ cs) {ds piece : List Char}
    {more : List (List Char)} (hds : splitOn separator ds = piece :: more) :
    splitOn separator (cs ++ ds) = (cs ++ piece) :: more := by
  induction cs with
  | nil => exact hds
  | cons c cs ih =>
    rw [List.mem_cons, not_or] at h
    exact splitOn_cons_of_ne (Ne.symm h.1) (ih h.2)

theorem splitOn_append (separator : Char) (cs ds : List Char) :
    splitOn separator (cs ++ separator :: ds) = splitOn separator cs ++ splitOn separator ds := by
  induction cs with
  | nil => exact splitOn_cons_self separator ds
  | cons c cs ih =>
    by_cases h : c = separator
    · subst h
      rw [List.cons_append, splitOn_cons_self, splitOn_cons_self, ih, List.cons_append]
    · obtain ⟨piece, more, hcs⟩ := List.exists_cons_of_ne_nil (splitOn_ne_nil separator cs)
      rw [hcs, List.cons_append] at ih
      rw [List.cons_append, splitOn_cons_of_ne h ih, splitOn_cons_of_ne h hcs, List.cons_append]

theorem splitOn_of_not_mem (h : separator ∉ cs) : splitOn separator cs = [cs] := by
  have hcs : splitOn separator (cs ++ []) = [cs ++ []] := splitOn_append_of_not_mem h rfl
  rwa [List.append_nil] at hcs

/-- A text tells what stands before its last separator, and what after it. -/
theorem append_cons_inj {cs' ds ds' : List Char} (h : separator ∉ ds) (h' : separator ∉ ds') :
    cs ++ separator :: ds = cs' ++ separator :: ds' ↔ cs = cs' ∧ ds = ds' := by
  constructor
  · intro heq
    have hpieces := congrArg (splitOn separator) heq
    rw [splitOn_append, splitOn_append, splitOn_of_not_mem h, splitOn_of_not_mem h'] at hpieces
    obtain rfl := List.singleton_inj.mp (List.append_inj' hpieces rfl).2
    exact ⟨List.append_cancel_right heq, rfl⟩
  · rintro ⟨rfl, rfl⟩
    rfl

theorem not_mem_of_mem_splitOn {piece : List Char} (h : piece ∈ splitOn separator cs) :
    separator ∉ piece := by
  induction cs generalizing piece with
  | nil =>
    obtain rfl := List.mem_singleton.mp h
    exact List.not_mem_nil
  | cons c cs ih =>
    by_cases hc : c = separator
    · subst hc
      rw [splitOn_cons_self, List.mem_cons] at h
      rcases h with rfl | h
      · exact List.not_mem_nil
      · exact ih h
    · obtain ⟨first, more, hcs⟩ := List.exists_cons_of_ne_nil (splitOn_ne_nil separator cs)
      rw [splitOn_cons_of_ne hc hcs, List.mem_cons] at h
      rw [hcs] at ih
      rcases h with rfl | h
      · rw [List.mem_cons, not_or]
        exact ⟨Ne.symm hc, ih List.mem_cons_self⟩
      · exact ih (List.mem_cons_of_mem _ h)

theorem toList_join (separator : String) (pieces : List String) : (join separator pieces).toList =
    joinWith separator.toList (pieces.map String.toList) := String.toList_ofList

theorem joinWith_cons_cons (separator piece next : List Char) (pieces : List (List Char)) :
    joinWith separator (piece :: next :: pieces) =
      piece ++ (separator ++ joinWith separator (next :: pieces)) :=
  List.append_assoc piece separator _

theorem mem_joinWith {separator : List Char} {pieces : List (List Char)} {c : Char}
    (h : c ∈ joinWith separator pieces) : c ∈ separator ∨ ∃ piece ∈ pieces, c ∈ piece := by
  induction pieces with
  | nil => exact absurd h List.not_mem_nil
  | cons piece pieces ih =>
    cases pieces with
    | nil => exact .inr ⟨piece, List.mem_cons_self, h⟩
    | cons next pieces =>
      rw [joinWith_cons_cons, List.mem_append, List.mem_append] at h
      rcases h with h | h | h
      · exact .inr ⟨piece, List.mem_cons_self, h⟩
      · exact .inl h
      · exact (ih h).imp_right fun ⟨other, hother, hmem⟩ =>
          ⟨other, List.mem_cons_of_mem _ hother, hmem⟩

theorem splitOn_joinWith {pieces : List (List Char)} (hne : pieces ≠ [])
    (h : ∀ piece ∈ pieces, separator ∉ piece) :
    splitOn separator (joinWith [separator] pieces) = pieces := by
  induction pieces with
  | nil => exact absurd rfl hne
  | cons piece pieces ih =>
    obtain ⟨hpiece, hpieces⟩ := List.forall_mem_cons.mp h
    cases pieces with
    | nil => exact splitOn_of_not_mem hpiece
    | cons next pieces =>
      rw [joinWith_cons_cons, List.singleton_append, splitOn_append, splitOn_of_not_mem hpiece,
        ih (List.cons_ne_nil _ _) hpieces]
      rfl

/-- What stands after the last separator. -/
theorem exists_after_last (h : separator ∈ cs) :
    ∃ before after, cs = before ++ separator :: after ∧ separator ∉ after := by
  obtain ⟨after, before, hcs, hafter⟩ :=
    List.eq_append_cons_of_mem (List.mem_reverse.mpr h)
  refine ⟨before.reverse, after.reverse, ?_, by simpa using hafter⟩
  have hreverse := congrArg List.reverse hcs
  rw [List.reverse_reverse] at hreverse
  rw [hreverse]
  simp

/-- The last piece, where a text without separators ends. -/
theorem exists_splitOn_append {ds : List Char} (cs : List Char) (h : separator ∉ ds) :
    ∃ before last, splitOn separator (cs ++ ds) = before ++ [last ++ ds] ∧ last <:+ cs := by
  by_cases hmem : separator ∈ cs
  · obtain ⟨before, after, rfl, hafter⟩ := exists_after_last hmem
    have hpiece : separator ∉ after ++ ds := List.not_mem_append hafter h
    have hsuffix : after <:+ before ++ separator :: after :=
      (List.suffix_cons separator after).trans (List.suffix_append before _)
    refine ⟨splitOn separator before, after, ?_, hsuffix⟩
    rw [List.append_assoc, List.cons_append, splitOn_append, splitOn_of_not_mem hpiece]
  · refine ⟨[], cs, ?_, List.suffix_rfl⟩
    exact splitOn_of_not_mem (List.not_mem_append hmem h)

end ClusterBoard.Text
