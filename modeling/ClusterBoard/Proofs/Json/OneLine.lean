import Mathlib
import ClusterBoard.Proofs.Json.Literals
import ClusterBoard.Proofs.Json.Numerals

/-!
# A printed value on one line

A printed value consists of tokens, and a string is a token as a whole. The compact text is the
tokens one after the other (`compactChars_eq`), the pretty text has white space around them
(`renders_prettyChars`). Folding a text onto one line leaves its tokens (`Renders.singleLineOf`), so
the line of a value squeezes to its compact text and holds the same string literals (`keepsValue`).
-/

namespace ClusterBoard.Json

open Text

/-! ## Tokens -/

/-- A token of a JSON text. -/
inductive Token where
  | openArray
  | closeArray
  | openObject
  | closeObject
  | comma
  | colon
  | null
  | bool (value : Bool)
  | number (value : Number)
  | string (value : String)
  deriving Repr

namespace Token

/-- The text of a token. -/
def chars : Token → List Char
  | .openArray => ['[']
  | .closeArray => [']']
  | .openObject => ['\x7b']
  | .closeObject => ['\x7d']
  | .comma => [',']
  | .colon => [':']
  | .null => "null".toList
  | .bool b => boolChars b
  | .number n => n.chars
  | .string s => quotedChars s

/-- The string of a string literal. -/
def string? : Token → Option String
  | .string s => some s
  | _ => none

/-- A token is a string literal, or has neither quotes nor white space. -/
theorem cases (t : Token) : (∃ s, t = .string s) ∨
    t.string? = none ∧ t.chars ≠ [] ∧ ∀ c ∈ t.chars, c ≠ '"' ∧ isBlank c = false := by
  cases t with
  | string s => exact .inl ⟨s, rfl⟩
  | number n => exact .inr ⟨rfl, n.chars_ne_nil, fun c hc => (n.isNumeral_chars c hc).solid⟩
  | null => exact .inr ⟨rfl, by simp [chars], by simp [chars, isBlank, blankRanges]⟩
  | bool b =>
    exact .inr ⟨rfl, by cases b <;> simp [chars, boolChars],
      by cases b <;> simp [chars, boolChars, isBlank, blankRanges]⟩
  | _ => exact .inr ⟨rfl, List.cons_ne_nil _ _, List.forall_mem_singleton.mpr (by decide)⟩

theorem isPiece (t : Token) : IsPiece t.chars := by
  rcases t.cases with ⟨s, rfl⟩ | ⟨-, hne, h⟩
  · exact isPiece_quotedChars s
  · exact isPiece_of_forall hne fun c hc => (h c hc).2

end Token

/-- A text that consists of the tokens, with white space around them. -/
def Renders (tokens : List Token) (cs : List Char) : Prop := Spaced (tokens.map Token.chars) cs

variable {ts us : List Token} {cs a b : List Char}

theorem renders_token (t : Token) : Renders [t] t.chars := t.isPiece.spaced

namespace Renders

theorem append (ha : Renders ts a) (hb : Renders us b) : Renders (ts ++ us) (a ++ b) := by
  rw [Renders, List.map_append]
  exact Spaced.append ha hb

theorem lineStart (h : Renders ts cs) (depth : Nat) : Renders ts (cs ++ lineStart depth) := by
  have hblank : ∀ c ∈ Json.lineStart depth, isBlank c = true := by
    refine List.forall_mem_cons.mpr ⟨by decide, fun c hc => ?_⟩
    rw [List.eq_of_mem_replicate hc]
    decide
  have hbreak : Renders [] (Json.lineStart depth) := spaced_of_blanks hblank
  have happend := h.append hbreak
  rwa [List.append_nil] at happend

theorem singleLineOf (h : Renders ts cs) : Renders ts (singleLineOf cs) := Spaced.singleLineOf h

/-- A reader that skips white space and takes the tokens one by one. -/
theorem read_eq {β : Type} {read : List Char → List β} {out : Token → List β}
    (hnil : read [] = []) (hblank : ∀ c rest, isBlank c = true → read (c :: rest) = read rest)
    (htoken : ∀ t rest, read (Token.chars t ++ rest) = out t ++ read rest) (h : Renders ts cs) :
    read cs = ts.flatMap out := by
  unfold Renders at h
  generalize hts : ts.map Token.chars = pieces at h
  induction h generalizing ts with
  | nil =>
    rw [List.map_eq_nil_iff.mp hts, hnil]
    rfl
  | blank hc _ ih => rw [hblank _ _ hc, ih hts]
  | piece _ _ ih =>
    obtain ⟨t, us, rfl, rfl, hus⟩ := List.map_eq_cons_iff.mp hts
    rw [htoken, ih hus, List.flatMap_cons]

theorem squeeze_eq (h : Renders ts cs) : squeeze .outside cs = ts.flatMap Token.chars := by
  refine h.read_eq rfl (fun c rest hc => squeeze_blank hc rest) fun t rest => ?_
  rcases t.cases with ⟨s, rfl⟩ | ⟨-, -, hword⟩
  · exact squeeze_quoted s rest
  · exact squeeze_word hword rest

theorem literals_eq (h : Renders ts cs) :
    literals .outside cs = (ts.filterMap Token.string?).map quotedChars := by
  have hread : literals .outside cs = ts.flatMap fun t => t.string?.toList.map quotedChars := by
    refine h.read_eq rfl (fun c rest hc => ?_) fun t rest => ?_
    · exact literals_cons_outside (fun hquote => absurd (hquote ▸ hc) (by decide)) rest
    · rcases t.cases with ⟨s, rfl⟩ | ⟨hnone, -, hword⟩
      · exact literals_quoted s rest
      · rw [hnone]
        exact literals_word (fun hmem => (hword _ hmem).1 rfl) rest
  rw [hread, List.filterMap_eq_flatMap_toList, List.map_flatMap]

end Renders

/-! ## Printed values -/

mutual

/-- The tokens of a value. -/
def tokens : Json → List Token
  | .null => [.null]
  | .bool b => [.bool b]
  | .number n => [.number n]
  | .string s => [.string s]
  | .array [] => [.openArray, .closeArray]
  | .array (item :: rest) => .openArray :: tokens item ++ itemTokens rest ++ [.closeArray]
  | .object [] => [.openObject, .closeObject]
  | .object ((key, value) :: rest) =>
    .openObject :: .string key :: .colon :: tokens value ++ fieldTokens rest ++ [.closeObject]

/-- The tokens of the items after the first, each with its comma. -/
def itemTokens : List Json → List Token
  | [] => []
  | item :: rest => .comma :: tokens item ++ itemTokens rest

/-- The tokens of the fields after the first, each with its comma. -/
def fieldTokens : List (String × Json) → List Token
  | [] => []
  | (key, value) :: rest =>
    .comma :: .string key :: .colon :: tokens value ++ fieldTokens rest

end

mutual

/-- The keys and the strings of a value, in document order. -/
def strings : Json → List String
  | .string s => [s]
  | .array items => itemStrings items
  | .object fields => fieldStrings fields
  | _ => []

/-- The keys and the strings of the items. -/
def itemStrings : List Json → List String
  | [] => []
  | item :: rest => strings item ++ itemStrings rest

/-- The keys and the strings of the fields. -/
def fieldStrings : List (String × Json) → List String
  | [] => []
  | (key, value) :: rest => key :: strings value ++ fieldStrings rest

end

-- The inductions follow the printer: a value, the items after the first, then the fields.
mutual

/-- The compact text is the tokens, one after the other. -/
theorem compactChars_eq : ∀ v : Json, v.compactChars = v.tokens.flatMap Token.chars
  | .null => rfl
  | .bool b => by simp [compactChars, tokens, Token.chars]
  | .number n => by simp [compactChars, tokens, Token.chars]
  | .string s => by simp [compactChars, tokens, Token.chars]
  | .array [] => rfl
  | .array (item :: rest) => by
    simp [compactChars, tokens, Token.chars, compactChars_eq item, compactItems_eq rest]
  | .object [] => rfl
  | .object ((key, value) :: rest) => by
    simp [compactChars, tokens, Token.chars, compactChars_eq value, compactFields_eq rest]

theorem compactItems_eq : ∀ items : List Json,
    compactItems items = (itemTokens items).flatMap Token.chars
  | [] => rfl
  | item :: rest => by
    simp [compactItems, itemTokens, Token.chars, compactChars_eq item, compactItems_eq rest]

theorem compactFields_eq : ∀ fields : List (String × Json),
    compactFields fields = (fieldTokens fields).flatMap Token.chars
  | [] => rfl
  | (key, value) :: rest => by
    simp [compactFields, fieldTokens, Token.chars, compactChars_eq value, compactFields_eq rest]

end

mutual

/-- The string literals among the tokens are the keys and the strings. -/
theorem strings_eq : ∀ v : Json, v.tokens.filterMap Token.string? = v.strings
  | .null => rfl
  | .bool b => rfl
  | .number n => rfl
  | .string s => rfl
  | .array [] => rfl
  | .array (item :: rest) => by
    simp [strings, tokens, itemStrings, List.filterMap_cons, Token.string?, strings_eq item,
      itemStrings_eq rest]
  | .object [] => rfl
  | .object ((key, value) :: rest) => by
    simp [strings, tokens, fieldStrings, List.filterMap_cons, Token.string?, strings_eq value,
      fieldStrings_eq rest]

theorem itemStrings_eq : ∀ items : List Json,
    (itemTokens items).filterMap Token.string? = itemStrings items
  | [] => rfl
  | item :: rest => by
    simp [itemTokens, itemStrings, List.filterMap_cons, Token.string?, strings_eq item,
      itemStrings_eq rest]

theorem fieldStrings_eq : ∀ fields : List (String × Json),
    (fieldTokens fields).filterMap Token.string? = fieldStrings fields
  | [] => rfl
  | (key, value) :: rest => by
    simp [fieldTokens, fieldStrings, List.filterMap_cons, Token.string?, strings_eq value,
      fieldStrings_eq rest]

end

/-- A colon, a space and what follows. -/
theorem renders_colon (h : Renders ts cs) : Renders (.colon :: ts) (':' :: ' ' :: cs) := by
  have hspace : Renders ts (' ' :: cs) := .blank (by decide) h
  exact (renders_token .colon).append hspace

mutual

/-- The pretty text is the tokens with line breaks and spaces around them. -/
theorem renders_prettyChars : ∀ (depth : Nat) (v : Json), Renders v.tokens (v.prettyChars depth)
  | _, .null => renders_token .null
  | _, .bool b => renders_token (.bool b)
  | _, .number n => renders_token (.number n)
  | _, .string s => renders_token (.string s)
  | _, .array [] => (renders_token .openArray).append (renders_token .closeArray)
  | depth, .array (item :: rest) => by
    have hopen := (renders_token .openArray).lineStart (depth + 1)
    have hitem := hopen.append (renders_prettyChars (depth + 1) item)
    have hitems := hitem.append (renders_prettyItems (depth + 1) rest)
    exact (hitems.lineStart depth).append (renders_token .closeArray)
  | _, .object [] => (renders_token .openObject).append (renders_token .closeObject)
  | depth, .object ((key, value) :: rest) => by
    have hopen := (renders_token .openObject).lineStart (depth + 1)
    have hkey := hopen.append (renders_token (.string key))
    have hvalue := hkey.append (renders_colon (renders_prettyChars (depth + 1) value))
    have hfields := hvalue.append (renders_prettyFields (depth + 1) rest)
    exact (hfields.lineStart depth).append (renders_token .closeObject)

theorem renders_prettyItems : ∀ (depth : Nat) (items : List Json),
    Renders (itemTokens items) (prettyItems depth items)
  | _, [] => .nil
  | depth, item :: rest => by
    have hcomma := (renders_token .comma).lineStart depth
    have hitem := hcomma.append (renders_prettyChars depth item)
    exact hitem.append (renders_prettyItems depth rest)

theorem renders_prettyFields : ∀ (depth : Nat) (fields : List (String × Json)),
    Renders (fieldTokens fields) (prettyFields depth fields)
  | _, [] => .nil
  | depth, (key, value) :: rest => by
    have hcomma := (renders_token .comma).lineStart depth
    have hkey := hcomma.append (renders_token (.string key))
    have hvalue := hkey.append (renders_colon (renders_prettyChars depth value))
    exact hvalue.append (renders_prettyFields depth rest)

end

/-! ## The line of a value -/

/-- What the line of a value is, and what it says. -/
structure KeepsValue (v : Json) : Prop where
  /-- It is one line. -/
  lines_eq : lines (singleLine v.pretty).toList = [(singleLine v.pretty).toList]
  /-- There is no white space at its ends. -/
  trimmed_eq : trimmed (singleLine v.pretty) = singleLine v.pretty
  /-- Without the white space outside string literals it is the compact text. -/
  squeeze_eq : squeeze .outside (singleLine v.pretty).toList = v.compact.toList
  /-- Its string literals are the keys and strings of the value, in order, as they are quoted. -/
  literals_eq : literals .outside (singleLine v.pretty).toList = v.strings.map quotedChars
  /-- These are the literals that were there before. -/
  untouched : literals .outside (singleLine v.pretty).toList = literals .outside v.pretty.toList

/-- What folding leaves of any text. -/
structure KeepsText (text : String) : Prop where
  /-- There is no line feed. -/
  not_mem : '\n' ∉ (singleLine text).toList
  /-- The characters that are no white space are the same, in the same order. -/
  filter_eq : (singleLine text).toList.filter (!isBlank ·) = text.toList.filter (!isBlank ·)
  /-- Folding again changes nothing. -/
  idempotent : singleLine (singleLine text) = singleLine text

theorem toList_singleLine (text : String) : (singleLine text).toList = singleLineOf text.toList :=
  String.toList_ofList

theorem keepsText (text : String) : KeepsText text where
  not_mem := by
    rw [toList_singleLine]
    exact not_mem_singleLineOf _
  filter_eq := by rw [toList_singleLine, filter_singleLineOf]
  idempotent := by rw [singleLine, toList_singleLine, singleLineOf_singleLineOf, ← singleLine]

theorem tokens_ne_nil (v : Json) : v.tokens ≠ [] := by
  rcases v with _ | _ | _ | _ | (_ | _) | (_ | _) <;> simp [tokens]

theorem keepsValue (v : Json) : KeepsValue v := by
  have hpretty : Renders v.tokens v.pretty.toList := by
    rw [pretty, String.toList_ofList]
    exact renders_prettyChars 0 v
  have hline : Renders v.tokens (singleLine v.pretty).toList := by
    rw [toList_singleLine]
    exact hpretty.singleLineOf
  have hne : (singleLine v.pretty).toList ≠ [] := fun hnil => by
    rw [hnil] at hline
    exact tokens_ne_nil v (List.map_eq_nil_iff.mp (Spaced.eq_nil hline))
  constructor
  · exact lines_of_not_mem hne (keepsText v.pretty).not_mem
  · rw [trimmed, toList_singleLine, trim_singleLineOf, ← singleLine]
  · rw [hline.squeeze_eq, compact, String.toList_ofList, compactChars_eq]
  · rw [hline.literals_eq, strings_eq]
  · rw [hline.literals_eq, hpretty.literals_eq]

/-- **A value on one line loses nothing.** The pretty text of every value folds to one line without
white space at its ends. If the white space outside string literals is deleted, what remains is the
compact text, and every key and every string stands in the line as it is quoted. Of any text folding
keeps all that is no white space, leaves no line feed, and does nothing the second time. -/
theorem singleLine_loses_nothing :
    (∀ v : Json, KeepsValue v) ∧ ∀ text : String, KeepsText text :=
  ⟨keepsValue, keepsText⟩

example : singleLine (object [("a ", .array [.bool true, .string "]\n\""]), ("b", .null)]).pretty =
    "\x7b \"a \": [ true, \"]\\n\\\"\" ], \"b\": null \x7d" := by rfl

end ClusterBoard.Json
