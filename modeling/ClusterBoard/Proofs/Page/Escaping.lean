import Mathlib
import ClusterBoard.Page.Markup
import ClusterBoard.Proofs.Text.Numbers

/-!
# Escaped text

Replacing the special characters one after the other is one pass (`escapeChars_eq_escapeOnce`): no
entity holds a character that is replaced after it. So texts are escaped piece by piece, no
delimiter of markup is left (`delimiters_escape`), every ampersand starts an entity
(`exists_entity_of_ampersand`), and reading the entities gives the text back
(`unescape_escapeOnce`).
-/

namespace ClusterBoard.Page

/-! ## Delimiters -/

/-- The characters at which tags and attribute values begin and end. -/
def isDelimiter (c : Char) : Bool := ['<', '>', '"', '\''].contains c

/-- The delimiters of a text, in order. -/
def delimiters (text : String) : List Char := text.toList.filter isDelimiter

theorem delimiters_append (a b : String) :
    delimiters (a ++ b) = delimiters a ++ delimiters b := by
  unfold delimiters
  rw [String.toList_append, List.filter_append]

/-- Numbers are written in digits. -/
theorem delimiters_toString (n : Nat) : delimiters (toString n) = [] := by
  refine List.filter_eq_nil_iff.mpr fun c hc hd => ?_
  have hmem : c ∈ ['<', '>', '"', '\''] := List.contains_iff_mem.mp hd
  fin_cases hmem <;> exact Text.not_mem_toString (by decide) n hc

/-! ## Escaped text -/

/-- No entity holds a character that is replaced after it, so one character after the other is one
pass. -/
theorem escapeChars_eq_escapeOnce (cs : List Char) : escapeChars cs = escapeOnce cs := by
  unfold escapeChars escapeOnce replaceChar
  simp only [List.flatMap_assoc]
  refine List.flatMap_congr fun c _ => ?_
  unfold entity
  split_ifs with hamp hlt hgt hquot hapos
  case neg => simp only [hlt, hgt, hquot, hapos, if_false, List.flatMap_singleton]
  all_goals
    subst c
    decide

theorem filter_entity (c : Char) : (entity c).filter isDelimiter = [] := by
  unfold entity
  split_ifs with hamp hlt hgt hquot hapos
  case neg => simp [isDelimiter, hlt, hgt, hquot, hapos]
  all_goals decide

theorem delimiters_escape (text : String) : delimiters (escape text) = [] := by
  unfold delimiters escape
  rw [String.toList_ofList, escapeChars_eq_escapeOnce, escapeOnce, List.filter_flatMap,
    List.flatMap_eq_nil_iff]
  exact fun c _ => filter_entity c

/-! ## Entities -/

/-- The characters that are replaced. -/
def specials : List Char := ['&', '<', '>', '"', '\'']

/-- The text with each of the five entities replaced by its character. -/
def unescape : List Char → List Char
  | '&' :: 'a' :: 'm' :: 'p' :: ';' :: rest => '&' :: unescape rest
  | '&' :: 'l' :: 't' :: ';' :: rest => '<' :: unescape rest
  | '&' :: 'g' :: 't' :: ';' :: rest => '>' :: unescape rest
  | '&' :: 'q' :: 'u' :: 'o' :: 't' :: ';' :: rest => '"' :: unescape rest
  | '&' :: '#' :: '3' :: '9' :: ';' :: rest => '\'' :: unescape rest
  | c :: rest => c :: unescape rest
  | [] => []

/-- The text with each of the five entities replaced by its character. -/
def unescaped (text : String) : String := String.ofList (unescape text.toList)

theorem entity_of_not_mem {c : Char} (h : c ∉ specials) : entity c = [c] := by
  simp only [specials, List.mem_cons, List.not_mem_nil, or_false, not_or] at h
  simp [entity, h]

/-- An entity has its ampersand at the start and no other. -/
theorem exists_name_of_mem {c : Char} (h : c ∈ specials) :
    ∃ name, entity c = '&' :: name ∧ '&' ∉ name := by
  simp only [specials, List.mem_cons, List.not_mem_nil, or_false] at h
  rcases h with rfl | rfl | rfl | rfl | rfl
  · exact ⟨"amp;".toList, rfl, by decide⟩
  · exact ⟨"lt;".toList, rfl, by decide⟩
  · exact ⟨"gt;".toList, rfl, by decide⟩
  · exact ⟨"quot;".toList, rfl, by decide⟩
  · exact ⟨"#39;".toList, rfl, by decide⟩

theorem unescape_cons {c : Char} (h : c ≠ '&') (rest : List Char) :
    unescape (c :: rest) = c :: unescape rest := by
  simp [unescape, h]

theorem unescape_entity_append (c : Char) (rest : List Char) :
    unescape (entity c ++ rest) = c :: unescape rest := by
  by_cases h : c ∈ specials
  · simp only [specials, List.mem_cons, List.not_mem_nil, or_false] at h
    rcases h with rfl | rfl | rfl | rfl | rfl <;> rfl
  · have hc : c ≠ '&' := by
      rintro rfl
      exact h (by decide)
    rw [entity_of_not_mem h]
    exact unescape_cons hc rest

theorem unescape_escapeOnce (cs : List Char) : unescape (escapeOnce cs) = cs := by
  induction cs with
  | nil => rfl
  | cons c cs ih =>
    rw [escapeOnce, List.flatMap_cons, unescape_entity_append]
    exact congrArg (c :: ·) ih

/-- An ampersand in what stands for a character is the start of an entity. -/
theorem eq_nil_of_entity_eq {c : Char} {before tail : List Char}
    (h : entity c = before ++ '&' :: tail) : before = [] ∧ c ∈ specials := by
  by_cases hc : c ∈ specials
  · obtain ⟨name, hentity, hname⟩ := exists_name_of_mem hc
    rw [hentity] at h
    cases before with
    | nil => exact ⟨rfl, hc⟩
    | cons first before =>
      have hmem : '&' ∈ name :=
        (List.cons.inj h).2 ▸ List.mem_append_right before List.mem_cons_self
      exact absurd hmem hname
  · have hamp : '&' ∈ entity c := h ▸ List.mem_append_right before List.mem_cons_self
    rw [entity_of_not_mem hc] at hamp
    obtain rfl := List.mem_singleton.mp hamp
    exact absurd (by decide) hc

theorem exists_entity_of_ampersand {cs before after : List Char}
    (h : escapeOnce cs = before ++ '&' :: after) : ∃ c ∈ specials, entity c <+: '&' :: after := by
  induction cs generalizing before with
  | nil => simp [escapeOnce] at h
  | cons c cs ih =>
    change entity c ++ escapeOnce cs = before ++ '&' :: after at h
    -- The ampersand stands in the entity of the first character or behind it.
    rcases List.append_eq_append_iff.mp h with ⟨middle, rfl, hrest⟩ | ⟨middle, hentity, hrest⟩
    · exact ih hrest
    · cases middle with
      | nil =>
        have hnext : escapeOnce cs = [] ++ '&' :: after := hrest.symm
        exact ih hnext
      | cons first middle =>
        obtain ⟨rfl, hrest⟩ := List.cons.inj hrest
        obtain ⟨rfl, hc⟩ := eq_nil_of_entity_eq hentity
        exact ⟨c, hc, escapeOnce cs, by rw [hentity, hrest]; rfl⟩

/-! ## The theorem -/

theorem toList_escape (text : String) : (escape text).toList = escapeOnce text.toList := by
  unfold escape
  rw [String.toList_ofList, escapeChars_eq_escapeOnce]

theorem escape_append (a b : String) : escape (a ++ b) = escape a ++ escape b := by
  rw [← String.toList_inj, String.toList_append]
  simp only [toList_escape]
  rw [String.toList_append]
  exact List.flatMap_append

theorem unescaped_escape (text : String) : unescaped (escape text) = text := by
  unfold unescaped
  rw [toList_escape, unescape_escapeOnce, String.ofList_toList]

/-- What escaping makes of a text can stand in markup and still be told from any other text. -/
structure EscapesFaithfully (text : String) : Prop where
  /-- One replacement after the other is one pass. -/
  once : escape text = String.ofList (text.toList.flatMap entity)
  append : ∀ other, escape (text ++ other) = escape text ++ escape other
  delimiters : delimiters (escape text) = []
  ampersands : ∀ before after, (escape text).toList = before ++ '&' :: after →
    ∃ c ∈ specials, entity c <+: '&' :: after
  decodes : unescaped (escape text) = text
  distinct : ∀ other, escape text = escape other → text = other

/-- **Escaping.** Every text is escaped faithfully. -/
theorem escape_faithful (text : String) : EscapesFaithfully text where
  once := by
    rw [← String.toList_inj, toList_escape, String.toList_ofList]
    rfl
  append := escape_append text
  delimiters := delimiters_escape text
  ampersands before after h := exists_entity_of_ampersand (toList_escape text ▸ h)
  decodes := unescaped_escape text
  distinct other h := by
    rw [← unescaped_escape text, h, unescaped_escape]

end ClusterBoard.Page
