import Mathlib
import ClusterBoard.Json.Printer
import ClusterBoard.Proofs.Text.SingleLine

/-!
# String literals of a JSON text

A JSON text is read from the left. A quote outside the string literals begins one, a quote inside
ends it, and the character after a backslash is taken as it is. `squeeze` deletes the white space
outside the literals and `literals` lists the literals. Both read a printed string to its closing
quote, whatever characters are escaped in it and whatever follows (`squeeze_quoted`,
`literals_quoted`).
-/

namespace ClusterBoard.Json

open Text

/-- Where a character of a JSON text stands. -/
inductive Place where
  /-- Outside the string literals. -/
  | outside
  /-- In a string literal. -/
  | inside
  /-- In a string literal, after the backslash of an escape. -/
  | escaped
  deriving DecidableEq, Repr

/-- Where the next character stands. -/
def Place.after : Place → Char → Place
  | .outside, c => if c = '"' then .inside else .outside
  | .inside, c => if c = '"' then .outside else if c = '\\' then .escaped else .inside
  | .escaped, _ => .inside

/-- The text without the white space outside string literals. -/
def squeeze : Place → List Char → List Char
  | _, [] => []
  | place, c :: rest =>
    if place = .outside ∧ isBlank c = true then squeeze place rest
    else c :: squeeze (place.after c) rest

/-- The string literals of the text, each with its quotes. -/
def literals : Place → List Char → List (List Char)
  | _, [] => []
  | .outside, c :: rest =>
    let more := literals (Place.outside.after c) rest
    if c = '"' then appendFirst [c] more else more
  | .inside, c :: rest =>
    let more := literals (Place.inside.after c) rest
    if c = '"' then [c] :: more else appendFirst [c] more
  | .escaped, c :: rest => appendFirst [c] (literals (Place.escaped.after c) rest)

variable {c : Char} {cs : List Char}

/-! ## Outside the literals -/

theorem squeeze_blank (h : isBlank c = true) (rest : List Char) :
    squeeze .outside (c :: rest) = squeeze .outside rest := if_pos ⟨rfl, h⟩

theorem literals_cons_outside (h : c ≠ '"') (rest : List Char) :
    literals .outside (c :: rest) = literals .outside rest := by
  rw [literals, if_neg h, Place.after, if_neg h]

theorem squeeze_word (h : ∀ c ∈ cs, c ≠ '"' ∧ isBlank c = false) (rest : List Char) :
    squeeze .outside (cs ++ rest) = cs ++ squeeze .outside rest := by
  induction cs with
  | nil => rfl
  | cons c cs ih =>
    obtain ⟨⟨hquote, hc⟩, hcs⟩ := List.forall_mem_cons.mp h
    rw [List.cons_append, squeeze, if_neg (by simp [hc]), Place.after, if_neg hquote, ih hcs,
      List.cons_append]

theorem literals_word (h : '"' ∉ cs) (rest : List Char) :
    literals .outside (cs ++ rest) = literals .outside rest := by
  induction cs with
  | nil => rfl
  | cons c cs ih =>
    rw [List.mem_cons, not_or] at h
    rw [List.cons_append, literals_cons_outside (Ne.symm h.1), ih h.2]

/-! ## Printed strings -/

/-- A character that ends neither a literal nor a line and begins no escape. -/
abbrev IsPlain (c : Char) : Prop := c ∉ ['"', '\\', '\n']

theorem isPlain_hexDigit : ∀ n < 16, IsPlain (hexDigit n) := by decide

/-- A character of a string is itself, or is written as a backslash with what is meant by it. -/
theorem escapeChar_cases (c : Char) :
    (escapeChar c = [c] ∧ IsPlain c) ∨
      ∃ d tail, escapeChar c = '\\' :: d :: tail ∧ d ≠ '\n' ∧ ∀ e ∈ tail, IsPlain e := by
  unfold escapeChar
  split_ifs with hquote hslash hback hform hfeed hreturn htab hcontrol
  any_goals exact .inr ⟨_, [], rfl, by decide, List.forall_mem_nil _⟩
  · refine .inr ⟨'u', _, rfl, by decide, ?_⟩
    have hfirst := isPlain_hexDigit (c.toNat / 16) (by omega)
    have hsecond := isPlain_hexDigit (c.toNat % 16) (by omega)
    simp only [List.forall_mem_cons]
    exact ⟨by decide, by decide, hfirst, hsecond, List.forall_mem_nil _⟩
  · exact .inl ⟨rfl, by simp [IsPlain, hquote, hslash, hfeed]⟩

theorem not_mem_quotedChars (s : String) : '\n' ∉ quotedChars s := by
  intro h
  rw [quotedChars, List.cons_append, List.mem_cons, List.mem_append, List.mem_flatMap] at h
  rcases h with h | ⟨c, -, h⟩ | h
  · exact absurd h (by decide)
  · rcases escapeChar_cases c with ⟨hc, hne⟩ | ⟨d, tail, hc, hd, htail⟩
    · rw [hc, List.mem_singleton] at h
      exact hne (by simp [← h])
    · rw [hc, List.mem_cons, List.mem_cons] at h
      rcases h with h | h | h
      · exact absurd h (by decide)
      · exact hd h.symm
      · exact htail _ h (by decide)
  · exact absurd h (by decide)

/-- A printed string is not cut and not trimmed. -/
theorem isPiece_quotedChars (s : String) : IsPiece (quotedChars s) where
  starts := ⟨'"', _, rfl, by decide⟩
  ends := ⟨_, '"', rfl, by decide⟩
  not_mem := not_mem_quotedChars s

section Reading

variable {β : Type} {read : Place → List Char → β} {step : Char → β → β}
  (hinside : ∀ c rest, c ≠ '"' → read .inside (c :: rest) = step c (read (.after .inside c) rest))
  (hescaped : ∀ c rest, read .escaped (c :: rest) = step c (read .inside rest))

include hinside

theorem read_plain {text : List Char} (h : ∀ e ∈ text, IsPlain e) (rest : List Char) :
    read .inside (text ++ rest) = text.foldr step (read .inside rest) := by
  induction text with
  | nil => rfl
  | cons e text ih =>
    obtain ⟨he, htext⟩ := List.forall_mem_cons.mp h
    simp only [IsPlain, List.mem_cons, List.not_mem_nil, or_false, not_or] at he
    rw [List.cons_append, hinside e _ he.1, Place.after, if_neg he.1, if_neg he.2.1, ih htext,
      List.foldr_cons]

include hescaped

/-- A reader that takes what stands in a literal character by character takes an escaped string. -/
theorem read_escaped (cs rest : List Char) : read .inside (cs.flatMap escapeChar ++ rest) =
    (cs.flatMap escapeChar).foldr step (read .inside rest) := by
  induction cs with
  | nil => rfl
  | cons c cs ih =>
    rw [List.flatMap_cons, List.append_assoc, List.foldr_append, ← ih]
    rcases escapeChar_cases c with ⟨hc, hplain⟩ | ⟨d, tail, hc, -, htail⟩
    · rw [hc]
      exact read_plain hinside (List.forall_mem_singleton.mpr hplain) _
    · -- The backslash leads to `escaped`, and the next character, whatever it is, back inside.
      rw [hc, List.cons_append, List.cons_append, hinside _ _ (by decide), List.foldr_cons,
        List.foldr_cons, ← read_plain hinside htail, ← hescaped]
      rfl

end Reading

theorem squeeze_quoted (s : String) (rest : List Char) :
    squeeze .outside (quotedChars s ++ rest) = quotedChars s ++ squeeze .outside rest := by
  have hinside (c : Char) (rest : List Char) (_ : c ≠ '"') :
      squeeze .inside (c :: rest) = c :: squeeze (.after .inside c) rest := if_neg (by simp)
  have hescaped (c : Char) (rest : List Char) :
      squeeze .escaped (c :: rest) = c :: squeeze .inside rest := if_neg (by simp)
  have hopen : squeeze .outside (quotedChars s ++ rest) =
      '"' :: squeeze .inside (s.toList.flatMap escapeChar ++ '"' :: rest) := by
    rw [quotedChars, List.append_assoc]
    exact if_neg (by decide)
  have hclose : squeeze .inside ('"' :: rest) = '"' :: squeeze .outside rest := if_neg (by simp)
  rw [hopen, read_escaped hinside hescaped, hclose, List.foldr_cons_eq_append', quotedChars,
    List.append_assoc]
  rfl

theorem foldr_appendFirst (cs piece : List Char) (more : List (List Char)) :
    cs.foldr (fun c => appendFirst [c]) (piece :: more) = (cs ++ piece) :: more := by
  induction cs with
  | nil => rfl
  | cons c cs ih =>
    rw [List.foldr_cons, ih]
    rfl

theorem literals_quoted (s : String) (rest : List Char) :
    literals .outside (quotedChars s ++ rest) = quotedChars s :: literals .outside rest := by
  have hinside (c : Char) (rest : List Char) (hc : c ≠ '"') : literals .inside (c :: rest) =
      appendFirst [c] (literals (.after .inside c) rest) := if_neg hc
  have hescaped (c : Char) (rest : List Char) :
      literals .escaped (c :: rest) = appendFirst [c] (literals .inside rest) := rfl
  have hopen : literals .outside (quotedChars s ++ rest) =
      appendFirst ['"'] (literals .inside (s.toList.flatMap escapeChar ++ '"' :: rest)) := by
    rw [quotedChars, List.append_assoc]
    rfl
  have hclose : literals .inside ('"' :: rest) = ['"'] :: literals .outside rest := rfl
  rw [hopen, read_escaped hinside hescaped, hclose, foldr_appendFirst]
  rfl

end ClusterBoard.Json
