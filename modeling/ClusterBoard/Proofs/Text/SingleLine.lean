import Mathlib
import ClusterBoard.Proofs.Text.Pieces

/-!
# Texts folded onto one line

`singleLine` cuts a text at its line ends, trims the lines and joins those that are left. A text
that consists of pieces with white space around them (`Spaced`) is folded to the same pieces, again
with white space around them (`Spaced.singleLineOf`), where a piece is any text without a line feed
that has no white space at its ends. With single characters for pieces this says that only white
space comes and goes (`filter_singleLineOf`). A text on one line with nothing to trim stays as it is
(`singleLineOf_eq_self`), so folding twice is folding once.
-/

namespace ClusterBoard.Text

variable {cs a b : List Char} {c : Char}

/-! ## Ends of a text -/

/-- The first character is no white space. -/
def StartsSolid (cs : List Char) : Prop := ∃ c rest, cs = c :: rest ∧ isBlank c = false

/-- The last character is no white space. -/
def EndsSolid (cs : List Char) : Prop := ∃ start c, cs = start ++ [c] ∧ isBlank c = false

theorem StartsSolid.append (h : StartsSolid a) (b : List Char) : StartsSolid (a ++ b) := by
  obtain ⟨c, rest, rfl, hc⟩ := h
  exact ⟨c, rest ++ b, rfl, hc⟩

theorem EndsSolid.append (h : EndsSolid b) (a : List Char) : EndsSolid (a ++ b) := by
  obtain ⟨start, c, rfl, hc⟩ := h
  exact ⟨a ++ start, c, (List.append_assoc a start [c]).symm, hc⟩

theorem startsSolid_of_forall (hne : cs ≠ []) (h : ∀ c ∈ cs, isBlank c = false) :
    StartsSolid cs := by
  obtain ⟨c, rest, rfl⟩ := List.exists_cons_of_ne_nil hne
  exact ⟨c, rest, rfl, h c List.mem_cons_self⟩

theorem endsSolid_of_forall (hne : cs ≠ []) (h : ∀ c ∈ cs, isBlank c = false) : EndsSolid cs := by
  refine ⟨cs.dropLast, cs.getLast hne, (List.dropLast_concat_getLast hne).symm, ?_⟩
  exact h _ (List.getLast_mem hne)

/-! ## Trimming -/

theorem trimLeft_of_startsSolid (h : StartsSolid cs) : trimLeft cs = cs := by
  obtain ⟨c, rest, rfl, hc⟩ := h
  exact List.dropWhile_cons_of_neg (by simp [hc])

theorem trimRight_concat (cs : List Char) (c : Char) :
    trimRight (cs ++ [c]) = if isBlank c = true then trimRight cs else cs ++ [c] :=
  List.rdropWhile_concat isBlank cs c

theorem trimRight_append (h : EndsSolid a) (b : List Char) :
    trimRight (a ++ b) = a ++ trimRight b := by
  induction b using List.reverseRecOn with
  | nil =>
    obtain ⟨start, c, rfl, hc⟩ := h
    rw [List.append_nil, trimRight_concat, if_neg (by simp [hc])]
    exact (List.append_nil _).symm
  | append_singleton b c ih =>
    rw [← List.append_assoc, trimRight_concat, trimRight_concat]
    split_ifs
    · exact ih
    · exact List.append_assoc a b [c]

theorem trimRight_of_endsSolid (h : EndsSolid cs) : trimRight cs = cs := by
  have hnil := trimRight_append h []
  rw [List.append_nil] at hnil
  exact hnil.trans (List.append_nil cs)

/-- White space at the start is cut off together with all that follows, or stays. -/
theorem trimRight_cons_cases (hc : isBlank c = true) (cs : List Char) :
    trimRight (c :: cs) = trimRight cs ∨ trimRight (c :: cs) = c :: trimRight cs := by
  induction cs using List.reverseRecOn with
  | nil => exact .inl ((trimRight_concat [] c).trans (if_pos hc))
  | append_singleton cs d ih =>
    rw [← List.cons_append, trimRight_concat, trimRight_concat]
    split_ifs
    · exact ih
    · exact .inr rfl

theorem trim_eq_self (hs : StartsSolid cs) (he : EndsSolid cs) : trim cs = cs := by
  rw [trim, trimLeft_of_startsSolid hs, trimRight_of_endsSolid he]

theorem startsSolid_trim (h : trim cs ≠ []) : StartsSolid (trim cs) := by
  obtain ⟨rest, hrest⟩ := List.rdropWhile_prefix isBlank (trimLeft cs)
  obtain ⟨c, tail, htrim⟩ := List.exists_cons_of_ne_nil h
  have hfirst := List.head?_dropWhile_not isBlank cs
  change trim cs ++ rest = cs.dropWhile isBlank at hrest
  rw [← hrest, htrim] at hfirst
  exact ⟨c, tail, htrim, hfirst⟩

theorem endsSolid_trim (h : trim cs ≠ []) : EndsSolid (trim cs) := by
  have hlast : ¬ isBlank ((trim cs).getLast h) = true :=
    List.rdropWhile_last_not isBlank (trimLeft cs) h
  exact ⟨_, _, (List.dropLast_concat_getLast h).symm, by simpa using hlast⟩

theorem mem_of_mem_trim (h : c ∈ trim cs) : c ∈ cs :=
  (List.dropWhile_suffix isBlank).subset ((List.rdropWhile_prefix isBlank _).subset h)

/-! ## Lines -/

/-- The text in front of the first piece, or as a piece of its own. -/
def appendFirst (cs : List Char) : List (List Char) → List (List Char)
  | [] => [cs]
  | piece :: more => (cs ++ piece) :: more

theorem appendFirst_append (a b : List Char) (pieces : List (List Char)) :
    appendFirst a (appendFirst b pieces) = appendFirst (a ++ b) pieces := by
  cases pieces with
  | nil => rfl
  | cons piece more => exact congrArg (· :: more) (List.append_assoc a b piece).symm

theorem not_mem_appendFirst {pieces : List (List Char)} (hcs : c ∉ cs)
    (h : ∀ piece ∈ pieces, c ∉ piece) : ∀ piece ∈ appendFirst cs pieces, c ∉ piece := by
  cases pieces with
  | nil => exact List.forall_mem_singleton.mpr hcs
  | cons piece more =>
    obtain ⟨hpiece, hmore⟩ := List.forall_mem_cons.mp h
    exact List.forall_mem_cons.mpr ⟨List.not_mem_append hcs hpiece, hmore⟩

/-- The first character ends a line, belongs to such an end, or stands on the first line. -/
theorem lines_cons_cases (c : Char) (rest : List Char) :
    (c = '\n' ∧ lines (c :: rest) = [] :: lines rest) ∨
      (c = '\r' ∧ rest.head? = some '\n' ∧ lines (c :: rest) = lines rest) ∨
        (c ≠ '\n' ∧ lines (c :: rest) = appendFirst [c] (lines rest)) := by
  by_cases hfeed : c = '\n'
  · subst hfeed
    exact .inl ⟨rfl, rfl⟩
  by_cases hpair : c = '\r' ∧ rest.head? = some '\n'
  · obtain ⟨rfl, hhead⟩ := hpair
    obtain ⟨rest, rfl⟩ := List.head?_eq_some_iff.mp hhead
    exact .inr (.inl ⟨rfl, rfl, rfl⟩)
  · refine .inr (.inr ⟨hfeed, ?_⟩)
    rw [lines]
    · rfl
    · exact hfeed
    · rintro more rfl rfl
      exact hpair ⟨rfl, rfl⟩

theorem not_mem_of_mem_lines (cs : List Char) : ∀ line ∈ lines cs, '\n' ∉ line := by
  induction cs with
  | nil => exact List.forall_mem_nil _
  | cons c cs ih =>
    rcases lines_cons_cases c cs with ⟨-, hlines⟩ | ⟨-, -, hlines⟩ | ⟨hc, hlines⟩
    · rw [hlines]
      exact List.forall_mem_cons.mpr ⟨List.not_mem_nil, ih⟩
    · rw [hlines]
      exact ih
    · rw [hlines]
      exact not_mem_appendFirst (by simpa using hc.symm) ih

theorem lines_of_not_mem (hne : cs ≠ []) (h : '\n' ∉ cs) : lines cs = [cs] := by
  induction cs with
  | nil => exact absurd rfl hne
  | cons c cs ih =>
    rw [List.mem_cons, not_or] at h
    rcases lines_cons_cases c cs with ⟨rfl, -⟩ | ⟨-, hhead, -⟩ | ⟨-, hlines⟩
    · exact absurd rfl h.1
    · exact absurd (List.mem_of_mem_head? hhead) h.2
    · cases cs with
      | nil => exact hlines
      | cons d cs => rw [hlines, ih (List.cons_ne_nil d cs) h.2, appendFirst, List.singleton_append]

/-- A text on one line that does not end in white space is the start of the first line. -/
theorem lines_append (h : '\n' ∉ a) (ha : EndsSolid a) (b : List Char) :
    lines (a ++ b) = appendFirst a (lines b) := by
  obtain ⟨start, c, rfl, hc⟩ := ha
  rw [List.append_assoc, List.singleton_append]
  induction start with
  | nil =>
    rcases lines_cons_cases c b with ⟨rfl, -⟩ | ⟨rfl, -⟩ | ⟨-, hlines⟩
    · exact absurd hc (by decide)
    · exact absurd hc (by decide)
    · exact hlines
  | cons d start ih =>
    rw [List.cons_append, List.mem_cons, not_or] at h
    rcases lines_cons_cases d (start ++ c :: b) with ⟨rfl, -⟩ | ⟨-, hhead, -⟩ | ⟨-, hlines⟩
    · exact absurd rfl h.1
    · -- A line feed next would stand in `start ++ [c]`.
      rw [List.append_cons, List.head?_append_of_ne_nil _ (by simp)] at hhead
      exact absurd (List.mem_of_mem_head? hhead) h.2
    · rw [List.cons_append, hlines, ih h.2, appendFirst_append, List.singleton_append,
        List.cons_append]

/-! ## Folding -/

variable {pieces : List (List Char)}

theorem startsSolid_joinWith (hne : pieces ≠ []) (h : ∀ piece ∈ pieces, StartsSolid piece) :
    StartsSolid (joinWith [' '] pieces) := by
  obtain ⟨piece, pieces, rfl⟩ := List.exists_cons_of_ne_nil hne
  have hpiece := h piece List.mem_cons_self
  cases pieces with
  | nil => exact hpiece
  | cons next pieces =>
    rw [joinWith_cons_cons]
    exact hpiece.append _

theorem endsSolid_joinWith (hne : pieces ≠ []) (h : ∀ piece ∈ pieces, EndsSolid piece) :
    EndsSolid (joinWith [' '] pieces) := by
  induction pieces with
  | nil => exact absurd rfl hne
  | cons piece pieces ih =>
    obtain ⟨hpiece, hpieces⟩ := List.forall_mem_cons.mp h
    cases pieces with
    | nil => exact hpiece
    | cons next pieces =>
      rw [joinWith_cons_cons]
      exact ((ih (List.cons_ne_nil next pieces) hpieces).append _).append _

/-- The lines that are left when white space is cut off. -/
def trimmedLines (cs : List Char) : List (List Char) :=
  ((lines cs).map trim).filter (!·.isEmpty)

theorem singleLineOf_eq (cs : List Char) : singleLineOf cs = joinWith [' '] (trimmedLines cs) := rfl

theorem exists_of_mem_trimmedLines {piece : List Char} (h : piece ∈ trimmedLines cs) :
    ∃ line ∈ lines cs, trim line = piece ∧ piece ≠ [] := by
  obtain ⟨hmem, hne⟩ := List.mem_filter.mp h
  obtain ⟨line, hline, rfl⟩ := List.mem_map.mp hmem
  exact ⟨line, hline, rfl, by simpa using hne⟩

theorem not_mem_singleLineOf (cs : List Char) : '\n' ∉ singleLineOf cs := by
  intro h
  rcases mem_joinWith h with h | ⟨piece, hpiece, h⟩
  · exact absurd h (by decide)
  · obtain ⟨line, hline, rfl, -⟩ := exists_of_mem_trimmedLines hpiece
    exact not_mem_of_mem_lines cs line hline (mem_of_mem_trim h)

/-- A text on one line with nothing to trim stays as it is. -/
theorem singleLineOf_eq_self (h : '\n' ∉ cs) (hs : StartsSolid cs) (he : EndsSolid cs) :
    singleLineOf cs = cs := by
  have hne : cs ≠ [] := by
    obtain ⟨c, rest, rfl, -⟩ := hs
    exact List.cons_ne_nil c rest
  rw [singleLineOf_eq, trimmedLines, lines_of_not_mem hne h, List.map_singleton,
    trim_eq_self hs he, List.filter_cons_of_pos (by simpa using hne)]
  rfl

/-- What is folded is empty or begins and ends with a character that is no white space. -/
theorem singleLineOf_cases (cs : List Char) : singleLineOf cs = [] ∨
    (StartsSolid (singleLineOf cs) ∧ EndsSolid (singleLineOf cs)) := by
  by_cases hne : trimmedLines cs = []
  · exact .inl (by rw [singleLineOf_eq, hne, joinWith])
  · refine .inr ⟨startsSolid_joinWith hne fun piece hpiece => ?_,
      endsSolid_joinWith hne fun piece hpiece => ?_⟩
    · obtain ⟨line, -, rfl, hpiece⟩ := exists_of_mem_trimmedLines hpiece
      exact startsSolid_trim hpiece
    · obtain ⟨line, -, rfl, hpiece⟩ := exists_of_mem_trimmedLines hpiece
      exact endsSolid_trim hpiece

theorem trim_singleLineOf (cs : List Char) : trim (singleLineOf cs) = singleLineOf cs := by
  rcases singleLineOf_cases cs with h | ⟨hs, he⟩
  · rw [h]
    rfl
  · exact trim_eq_self hs he

theorem singleLineOf_singleLineOf (cs : List Char) :
    singleLineOf (singleLineOf cs) = singleLineOf cs := by
  rcases singleLineOf_cases cs with h | ⟨hs, he⟩
  · rw [h]
    rfl
  · exact singleLineOf_eq_self (not_mem_singleLineOf cs) hs he

/-! ## Pieces with white space around them -/

/-- A text without a line feed that neither begins nor ends with white space. -/
structure IsPiece (cs : List Char) : Prop where
  starts : StartsSolid cs
  ends : EndsSolid cs
  not_mem : '\n' ∉ cs

theorem isPiece_of_forall (hne : cs ≠ []) (h : ∀ c ∈ cs, isBlank c = false) : IsPiece cs where
  starts := startsSolid_of_forall hne h
  ends := endsSolid_of_forall hne h
  not_mem hmem := absurd (h '\n' hmem) (by decide)

/-- The pieces, in order, with white space before, between and after them. -/
inductive Spaced : List (List Char) → List Char → Prop
  | nil : Spaced [] []
  | blank {pieces : List (List Char)} {cs : List Char} {c : Char} (hc : isBlank c = true)
      (h : Spaced pieces cs) : Spaced pieces (c :: cs)
  | piece {pieces : List (List Char)} {cs piece : List Char} (hpiece : IsPiece piece)
      (h : Spaced pieces cs) : Spaced (piece :: pieces) (piece ++ cs)

theorem IsPiece.spaced (h : IsPiece cs) : Spaced [cs] cs := by
  simpa using Spaced.piece h Spaced.nil

theorem spaced_of_blanks (h : ∀ c ∈ cs, isBlank c = true) : Spaced [] cs := by
  induction cs with
  | nil => exact .nil
  | cons c cs ih =>
    obtain ⟨hc, hcs⟩ := List.forall_mem_cons.mp h
    exact .blank hc (ih hcs)

/-- Every text consists of its characters that are no white space. -/
theorem spaced_letters (cs : List Char) :
    Spaced ((cs.filter (!isBlank ·)).map fun c => [c]) cs := by
  induction cs with
  | nil => exact .nil
  | cons c cs ih =>
    by_cases hc : isBlank c = true
    · rw [List.filter_cons_of_neg (by simp [hc])]
      exact .blank hc ih
    · rw [List.filter_cons_of_pos (by simp [hc]), List.map_cons]
      exact .piece (isPiece_of_forall (List.cons_ne_nil c []) (by simpa using hc)) ih

namespace Spaced

variable {more : List (List Char)}

theorem eq_nil (h : Spaced pieces []) : pieces = [] := by
  generalize hcs : ([] : List Char) = cs at h
  cases h with
  | nil => rfl
  | blank => exact absurd hcs (List.cons_ne_nil _ _).symm
  | piece hpiece =>
    obtain ⟨c, rest, rfl, -⟩ := hpiece.starts
    exact absurd hcs (List.cons_ne_nil _ _).symm

theorem append (ha : Spaced pieces a) (hb : Spaced more b) :
    Spaced (pieces ++ more) (a ++ b) := by
  induction ha with
  | nil => exact hb
  | blank hc _ ih => exact .blank hc ih
  | piece hpiece _ ih =>
    rw [List.append_assoc]
    exact .piece hpiece ih

theorem filter_eq (h : Spaced pieces cs) :
    cs.filter (!isBlank ·) = pieces.flatten.filter (!isBlank ·) := by
  induction h with
  | nil => rfl
  | blank hc _ ih =>
    rw [List.filter_cons_of_neg (by simp [hc])]
    exact ih
  | piece _ _ ih => rw [List.flatten_cons, List.filter_append, List.filter_append, ih]

theorem trimLeft (h : Spaced pieces cs) : Spaced pieces (trimLeft cs) := by
  induction h with
  | nil => exact .nil
  | blank hc _ ih =>
    unfold Text.trimLeft
    rw [List.dropWhile_cons_of_pos hc]
    exact ih
  | piece hpiece h =>
    rw [trimLeft_of_startsSolid (hpiece.starts.append _)]
    exact .piece hpiece h

theorem trimRight (h : Spaced pieces cs) : Spaced pieces (trimRight cs) := by
  induction h with
  | nil => exact .nil
  | blank hc _ ih =>
    rcases trimRight_cons_cases hc _ with h | h
    · rw [h]
      exact ih
    · rw [h]
      exact .blank hc ih
  | piece hpiece _ ih =>
    rw [trimRight_append hpiece.ends]
    exact .piece hpiece ih

theorem trim (h : Spaced pieces cs) : Spaced pieces (trim cs) := h.trimLeft.trimRight

theorem appendFirst {ls : List (List Char)} {rows : List (List (List Char))}
    (ha : Spaced pieces a) (h : List.Forall₂ Spaced rows ls) :
    ∃ rows', rows'.flatten = pieces ++ rows.flatten ∧
      List.Forall₂ Spaced rows' (appendFirst a ls) := by
  cases h with
  | nil => exact ⟨[pieces], rfl, .cons ha .nil⟩
  | @cons row line rows ls hline hls =>
    exact ⟨(pieces ++ row) :: rows, List.append_assoc _ _ _, .cons (ha.append hline) hls⟩

/-- No piece is cut by the end of a line. -/
theorem lines (h : Spaced pieces cs) :
    ∃ rows : List (List (List Char)), rows.flatten = pieces ∧
      List.Forall₂ Spaced rows (lines cs) := by
  induction h with
  | nil => exact ⟨[], rfl, .nil⟩
  | @blank pieces cs c hc _ ih =>
    obtain ⟨rows, rfl, hrows⟩ := ih
    rcases lines_cons_cases c cs with ⟨-, hlines⟩ | ⟨-, -, hlines⟩ | ⟨-, hlines⟩
    · rw [hlines]
      exact ⟨[] :: rows, rfl, .cons .nil hrows⟩
    · rw [hlines]
      exact ⟨rows, rfl, hrows⟩
    · rw [hlines]
      exact appendFirst (.blank hc .nil) hrows
  | piece hpiece _ ih =>
    obtain ⟨rows, rfl, hrows⟩ := ih
    rw [lines_append hpiece.not_mem hpiece.ends]
    exact appendFirst hpiece.spaced hrows

theorem joinWith_cons {line : List Char} {rest : List (List Char)} (h : Spaced pieces line)
    (hrest : Spaced more (joinWith [' '] rest)) :
    Spaced (pieces ++ more) (joinWith [' '] (line :: rest)) := by
  cases rest with
  | nil =>
    rw [hrest.eq_nil, List.append_nil]
    exact h
  | cons next rest =>
    rw [joinWith_cons_cons]
    exact h.append (.blank (by decide) hrest)

theorem joinWith_trimmed {rows : List (List (List Char))} {ls : List (List Char)}
    (h : List.Forall₂ Spaced rows ls) :
    Spaced rows.flatten (joinWith [' '] ((ls.map Text.trim).filter (!·.isEmpty))) := by
  induction h with
  | nil => exact .nil
  | @cons row line rows ls hline _ ih =>
    rw [List.map_cons, List.flatten_cons]
    by_cases hne : Text.trim line = []
    · have hrow : row = [] := eq_nil (hne ▸ hline.trim)
      rw [List.filter_cons_of_neg (by simp [hne]), hrow]
      exact ih
    · rw [List.filter_cons_of_pos (by simpa using hne)]
      exact hline.trim.joinWith_cons ih

/-- Folding a text leaves its pieces and their order. -/
theorem singleLineOf (h : Spaced pieces cs) : Spaced pieces (singleLineOf cs) := by
  obtain ⟨rows, rfl, hrows⟩ := h.lines
  exact joinWith_trimmed hrows

end Spaced

theorem filter_singleLineOf (cs : List Char) :
    (singleLineOf cs).filter (!isBlank ·) = cs.filter (!isBlank ·) :=
  (spaced_letters cs).singleLineOf.filter_eq.trans (spaced_letters cs).filter_eq.symm

end ClusterBoard.Text
