import Mathlib
import ClusterBoard.Proofs.Text.Pieces
import ClusterBoard.Proofs.Web.Percent
import ClusterBoard.Web.Url.Reader

/-!
# Paths of web addresses

The text of a path is cut at its slashes, and the pieces are pushed one after the other. A segment
of points moves or stays, and stands for points (`decode_of_isSingleDot`); any other segment is
added. No segment holds a slash (`Slashless`), so a path can be read back from its text.
-/

namespace ClusterBoard

namespace Web.Url

open Percent (utf8 decode encode decode_cons_of_ne decode_escape)

/-! ## Segments of points -/

section Dots

variable {segment : List Char} {c d : Char}

theorem toNat_toLower (c : Char) :
    c.toLower.toNat = if 65 ≤ c.toNat ∧ c.toNat ≤ 90 then c.toNat + 32 else c.toNat := by
  unfold Char.toLower
  simp only [ge_iff_le, UInt32.le_iff_toNat_le]
  split_ifs with h h' h'
  · have hle : c.toNat ≤ 90 := h.2
    show (c.val + 32).toNat = c.toNat + 32
    rw [UInt32.toNat_add]
    show (c.toNat + 32) % 2 ^ 32 = c.toNat + 32
    omega
  · exact absurd h h'
  · exact absurd h' h
  · rfl

theorem eq_of_toLower (h : c.toLower = d) (hd : d.toNat < 97) : c = d := by
  have hnat : c.toLower.toNat = d.toNat := congrArg Char.toNat h
  rw [toNat_toLower] at hnat
  split_ifs at hnat with hupper
  · omega
  · exact Char.toNat_inj.mp hnat

theorem eq_of_toLower_e (h : c.toLower = 'e') : c = 'e' ∨ c = 'E' := by
  have hnat : c.toLower.toNat = 101 := congrArg Char.toNat h
  rw [toNat_toLower] at hnat
  split_ifs at hnat with hupper
  · right
    have hval : c.toNat = 69 := by omega
    exact Char.toNat_inj.mp hval
  · exact .inl (Char.toNat_inj.mp hnat)

/-- A point, as it is or encoded. -/
def IsPoint (piece : List Char) : Prop :=
  piece = ['.'] ∨ piece = ['%', '2', 'e'] ∨ piece = ['%', '2', 'E']

theorem isPoint_of_map {piece : List Char}
    (h : piece.map Char.toLower = ['.'] ∨ piece.map Char.toLower = ['%', '2', 'e']) :
    IsPoint piece := by
  rcases h with h | h
  · obtain ⟨c, rfl, hc⟩ := List.map_eq_singleton_iff.mp h
    exact .inl (congrArg (fun c => [c]) (eq_of_toLower hc (by decide)))
  · obtain ⟨p, rest, rfl, hp, hrest⟩ := List.map_eq_cons_iff.mp h
    obtain ⟨t, last, rfl, ht, hlast⟩ := List.map_eq_cons_iff.mp hrest
    obtain ⟨e, rfl, he⟩ := List.map_eq_singleton_iff.mp hlast
    obtain rfl : p = '%' := eq_of_toLower hp (by decide)
    obtain rfl : t = '2' := eq_of_toLower ht (by decide)
    rcases eq_of_toLower_e he with rfl | rfl
    · exact .inr (.inl rfl)
    · exact .inr (.inr rfl)

theorem IsPoint.decode_append {piece : List Char} (h : IsPoint piece) (cs : List Char) :
    decode (piece ++ cs) = 0x2E :: decode cs := by
  rcases h with rfl | rfl | rfl
  · exact decode_cons_of_ne (by decide) cs
  · exact decode_escape (m := 2) (n := 14) rfl rfl cs
  · exact decode_escape (m := 2) (n := 14) rfl rfl cs

theorem IsPoint.not_mem_colon {piece : List Char} (h : IsPoint piece) : ':' ∉ piece := by
  rcases h with rfl | rfl | rfl <;> decide

theorem isPoint_of_isSingleDot (h : isSingleDot segment = true) : IsPoint segment := by
  unfold isSingleDot at h
  simp only [List.contains_cons, List.contains_nil, Bool.or_false, Bool.or_eq_true,
    beq_iff_eq] at h
  refine isPoint_of_map (h.imp ?_ ?_) <;> intro heq <;> simpa using congrArg String.toList heq

theorem exists_points_of_isDoubleDot (h : isDoubleDot segment = true) :
    ∃ p q, segment = p ++ q ∧ IsPoint p ∧ IsPoint q := by
  have hcut : ∃ x y, segment.map Char.toLower = x ++ y ∧
      (x = ['.'] ∨ x = ['%', '2', 'e']) ∧ (y = ['.'] ∨ y = ['%', '2', 'e']) := by
    unfold isDoubleDot at h
    simp only [List.contains_cons, List.contains_nil, Bool.or_false, Bool.or_eq_true,
      beq_iff_eq] at h
    rcases h with heq | heq | heq | heq
    · exact ⟨['.'], ['.'], by simpa using congrArg String.toList heq, .inl rfl, .inl rfl⟩
    · exact ⟨['.'], ['%', '2', 'e'], by simpa using congrArg String.toList heq, .inl rfl, .inr rfl⟩
    · exact ⟨['%', '2', 'e'], ['.'], by simpa using congrArg String.toList heq, .inr rfl, .inl rfl⟩
    · exact ⟨['%', '2', 'e'], ['%', '2', 'e'], by simpa using congrArg String.toList heq,
        .inr rfl, .inr rfl⟩
  obtain ⟨x, y, hmap, hx, hy⟩ := hcut
  obtain ⟨p, q, rfl, rfl, rfl⟩ := List.map_eq_append_iff.mp hmap
  exact ⟨p, q, rfl, isPoint_of_map hx, isPoint_of_map hy⟩

theorem decode_of_isSingleDot (h : isSingleDot segment = true) : decode segment = utf8 ['.'] := by
  rw [← List.append_nil segment, (isPoint_of_isSingleDot h).decode_append]
  rfl

theorem decode_of_isDoubleDot (h : isDoubleDot segment = true) :
    decode segment = utf8 ['.', '.'] := by
  obtain ⟨p, q, rfl, hp, hq⟩ := exists_points_of_isDoubleDot h
  rw [hp.decode_append, ← List.append_nil q, hq.decode_append]
  rfl

/-- A segment that neither is a point nor two is none of points. -/
theorem no_dots (h : ∀ p q, IsPoint p → q = [] ∨ IsPoint q → segment ≠ p ++ q) :
    isSingleDot segment = false ∧ isDoubleDot segment = false := by
  constructor
  · rw [Bool.eq_false_iff]
    intro hdot
    exact h segment [] (isPoint_of_isSingleDot hdot) (.inl rfl) (List.append_nil _).symm
  · rw [Bool.eq_false_iff]
    intro hdot
    obtain ⟨p, q, hsegment, hp, hq⟩ := exists_points_of_isDoubleDot hdot
    exact h p q hp (.inr hq) hsegment

theorem no_dots_of_colon (h : ':' ∈ segment) :
    isSingleDot segment = false ∧ isDoubleDot segment = false := by
  refine no_dots ?_
  rintro p q hp hq rfl
  rcases List.mem_append.mp h with hmem | hmem
  · exact hp.not_mem_colon hmem
  · rcases hq with rfl | hq
    · exact List.not_mem_nil hmem
    · exact hq.not_mem_colon hmem

theorem no_dots_of_isAlpha (h : ∀ c ∈ segment, c.isAlpha = true) :
    isSingleDot segment = false ∧ isDoubleDot segment = false := by
  refine no_dots ?_
  rintro p q hp - rfl
  obtain ⟨c, hc, hmark⟩ : ∃ c ∈ p, c.isAlpha = false := by
    rcases hp with rfl | rfl | rfl
    · exact ⟨'.', by decide, rfl⟩
    · exact ⟨'%', by decide, rfl⟩
    · exact ⟨'%', by decide, rfl⟩
  rw [h c (List.mem_append_left q hc)] at hmark
  cases hmark

end Dots

/-! ## Pushing segments -/

section Push

variable {path : List String} {segment : List Char} {pieces : List (List Char)}

theorem pushInner_of_double (hd : isDoubleDot segment = true) :
    pushInner .special path segment = parent path := if_pos hd

theorem pushInner_of_single (hs : isSingleDot segment = true)
    (hd : isDoubleDot segment = false) : pushInner .special path segment = path := by
  unfold pushInner
  rw [hd, if_neg Bool.false_ne_true, if_pos hs]

theorem pushLast_of_double (hd : isDoubleDot segment = true) :
    pushLast .special path segment = parent path ++ [""] := if_pos hd

theorem pushLast_of_single (hs : isSingleDot segment = true)
    (hd : isDoubleDot segment = false) : pushLast .special path segment = path ++ [""] := by
  unfold pushLast
  rw [hd, if_neg Bool.false_ne_true, if_pos hs]

theorem pushInner_of_plain (hs : isSingleDot segment = false) (hd : isDoubleDot segment = false) :
    pushInner .special path segment = path ++ [String.ofList segment] := by
  unfold pushInner pushPlain
  simp [hs, hd]

theorem pushLast_of_plain (hs : isSingleDot segment = false) (hd : isDoubleDot segment = false) :
    pushLast .special path segment = path ++ [String.ofList segment] := by
  unfold pushLast pushPlain
  simp [hs, hd]

/-- What a segment that a slash follows does to a path. -/
theorem pushInner_cases (path : List String) (segment : List Char) :
    pushInner .special path segment = parent path ∨ pushInner .special path segment = path ∨
      pushInner .special path segment = path ++ [String.ofList segment] := by
  cases hd : isDoubleDot segment with
  | true => exact .inl (pushInner_of_double hd)
  | false =>
    cases hs : isSingleDot segment with
    | true => exact .inr (.inl (pushInner_of_single hs hd))
    | false => exact .inr (.inr (pushInner_of_plain hs hd))

/-- What the last segment does to a path. -/
theorem pushLast_cases (path : List String) (segment : List Char) :
    pushLast .special path segment = parent path ++ [""] ∨
      pushLast .special path segment = path ++ [""] ∨
      pushLast .special path segment = path ++ [String.ofList segment] := by
  cases hd : isDoubleDot segment with
  | true => exact .inl (pushLast_of_double hd)
  | false =>
    cases hs : isSingleDot segment with
    | true => exact .inr (.inl (pushLast_of_single hs hd))
    | false => exact .inr (.inr (pushLast_of_plain hs hd))

theorem pushLast_ne_nil (path : List String) (segment : List Char) :
    pushLast .special path segment ≠ [] := by
  rcases pushLast_cases path segment with h | h | h <;> rw [h]
  all_goals exact List.append_ne_nil_of_right_ne_nil _ (List.cons_ne_nil _ _)

theorem pushAll_concat (kind : SchemeKind) (path : List String) (pieces : List (List Char))
    (last : List Char) : pushAll kind path (pieces ++ [last]) =
      pushLast kind (pieces.foldl (pushInner kind) path) last := by
  induction pieces generalizing path with
  | nil => rfl
  | cons piece pieces ih =>
    have hne : pieces ++ [last] ≠ [] := List.append_ne_nil_of_right_ne_nil _ (List.cons_ne_nil _ _)
    rw [List.cons_append, pushAll, ih, List.foldl_cons]
    exact hne

theorem pushPath_special (path : List String) (cs : List Char) :
    pushPath .special path cs =
      pushAll .special path ((Url.pieces .special cs).map (encode Percent.pathSet)) := rfl

end Push

/-! ## Segments hold no slash -/

/-- A text that is one segment where it stands in a URL. -/
def IsSegment (text : String) : Prop := text ≠ "" ∧ ∀ c ∈ "/\\?#".toList, c ∉ text.toList

theorem isSegment_encode {inSet : Char → Bool} {cs : List Char} (hne : cs ≠ [])
    (h : ∀ c ∈ "/\\?#".toList, c ∈ cs → inSet c = true) :
    IsSegment (String.ofList (encode inSet cs)) := by
  refine ⟨fun hempty => Percent.encode_ne_nil hne (String.ofList_injective hempty), ?_⟩
  have hall : "/\\?#".toList.all (!"%0123456789ABCDEF".toList.contains ·) = true := by decide
  simp only [List.all_eq_true, Bool.not_eq_true', List.contains_eq_mem,
    decide_eq_false_iff_not] at hall
  intro c hc
  rw [String.toList_ofList]
  exact Percent.not_mem_encode (hall c hc) (h c hc)

/-- No segment of a path holds a slash. -/
def Slashless (path : List String) : Prop := ∀ segment ∈ path, '/' ∉ segment.toList

section Slashless

variable {path : List String} {segment : List Char} {pieces : List (List Char)}

theorem slashless_nil : Slashless [] := fun _ h => absurd h List.not_mem_nil

theorem slashless_append_iff {more : List String} :
    Slashless (path ++ more) ↔ Slashless path ∧ Slashless more := List.forall_mem_append

theorem slashless_concat_iff :
    Slashless (path ++ [String.ofList segment]) ↔ Slashless path ∧ '/' ∉ segment := by
  simp [Slashless, or_imp, forall_and]

theorem Slashless.parent (h : Slashless path) : Slashless (parent path) := by
  unfold Url.parent
  split
  · split_ifs
    · exact h
    · exact fun s hs => h s (List.dropLast_subset path hs)
  · exact fun s hs => absurd hs List.not_mem_nil

theorem Slashless.pushInner (h : Slashless path) (hsegment : '/' ∉ segment) :
    Slashless (pushInner .special path segment) := by
  rcases pushInner_cases path segment with heq | heq | heq <;> rw [heq]
  · exact h.parent
  · exact h
  · exact slashless_concat_iff.mpr ⟨h, hsegment⟩

theorem Slashless.pushLast (h : Slashless path) (hsegment : '/' ∉ segment) :
    Slashless (pushLast .special path segment) := by
  rcases pushLast_cases path segment with heq | heq | heq <;> rw [heq]
  · exact slashless_concat_iff.mpr ⟨h.parent, List.not_mem_nil⟩
  · exact slashless_concat_iff.mpr ⟨h, List.not_mem_nil⟩
  · exact slashless_concat_iff.mpr ⟨h, hsegment⟩

theorem Slashless.pushInners (h : Slashless path) (hpieces : ∀ piece ∈ pieces, '/' ∉ piece) :
    Slashless (pieces.foldl (Url.pushInner .special) path) := by
  induction pieces generalizing path with
  | nil => exact h
  | cons piece pieces ih =>
    rw [List.forall_mem_cons] at hpieces
    exact ih (h.pushInner hpieces.1) hpieces.2

theorem Slashless.pushAll (h : Slashless path) (hpieces : ∀ piece ∈ pieces, '/' ∉ piece) :
    Slashless (pushAll .special path pieces) := by
  rcases List.eq_nil_or_concat' pieces with rfl | ⟨pieces, last, rfl⟩
  · exact h
  · rw [pushAll_concat]
    have hinner : ∀ piece ∈ pieces, '/' ∉ piece := fun piece hpiece =>
      hpieces piece (List.mem_append_left _ hpiece)
    exact (h.pushInners hinner).pushLast (hpieces last List.mem_concat_self)

theorem Slashless.pushPath (h : Slashless path) (cs : List Char) :
    Slashless (pushPath .special path cs) := by
  rw [pushPath_special]
  refine h.pushAll ?_
  intro piece hpiece
  obtain ⟨text, htext, rfl⟩ := List.mem_map.mp hpiece
  have hnot : '/' ∉ text := Text.not_mem_of_mem_splitOn htext
  exact Percent.not_mem_encode (by decide) fun hmem => absurd hmem hnot

end Slashless

theorem pushPath_ne_nil (path : List String) (cs : List Char) : pushPath .special path cs ≠ [] := by
  rw [pushPath_special]
  have hne : (pieces .special cs).map (encode Percent.pathSet) ≠ [] :=
    mt List.map_eq_nil_iff.mp (Text.splitOn_ne_nil '/' _)
  rcases List.eq_nil_or_concat' ((pieces .special cs).map (encode Percent.pathSet)) with
    hnil | ⟨more, last, hconcat⟩
  · exact absurd hnil hne
  · rw [hconcat, pushAll_concat]
    exact pushLast_ne_nil _ _

theorem pathAfter_special (cs : List Char) :
    pathAfter .special cs ≠ [] ∧ Slashless (pathAfter .special cs) := by
  cases cs with
  | nil => exact ⟨List.cons_ne_nil _ _, by simp [pathAfter, Slashless, SchemeKind.isSpecial]⟩
  | cons c cs => exact ⟨pushPath_ne_nil _ _, slashless_nil.pushPath _⟩

/-! ## Texts of paths -/

/-- The text of a path with a slash at its end. -/
def slashed (text : List Char) : List Char :=
  if text.getLast? = some '/' then text else text ++ ['/']

/-- The text of a path without a slash at its end. Two slashes alone count as one. -/
def stem (text : List Char) : List Char :=
  if text = ['/', '/'] then [] else if text.getLast? = some '/' then text.dropLast else text

section Texts

variable {path : List String} {last : String}

/-- URLs that differ in their paths only are told apart by the texts of these. -/
theorem text_eq_iff {u : Url} {p q : UrlPath} :
    ({ u with path := p } : Url).text = ({ u with path := q } : Url).text ↔ p.text = q.text := by
  unfold Url.text Url.chars
  rw [String.ofList_inj]
  simp

theorem text_append (path more : List String) : (UrlPath.segments (path ++ more)).text =
    (UrlPath.segments path).text ++ (UrlPath.segments more).text := List.flatMap_append

theorem text_concat (path : List String) (last : String) :
    (UrlPath.segments (path ++ [last])).text =
      (UrlPath.segments path).text ++ '/' :: last.toList := by
  rw [text_append]
  simp [UrlPath.text]

theorem splitOn_text (h : Slashless path) :
    Text.splitOn '/' (UrlPath.segments path).text = [] :: path.map String.toList := by
  induction path with
  | nil => rfl
  | cons segment path ih =>
    obtain ⟨hsegment, hpath⟩ := List.forall_mem_cons.mp h
    show Text.splitOn '/' ('/' :: segment.toList ++ (UrlPath.segments path).text) = _
    rw [List.cons_append, Text.splitOn_cons_self,
      Text.splitOn_append_of_not_mem hsegment (ih hpath), List.append_nil, List.map_cons]

/-- A path can be read back from its text. -/
theorem text_injective {more : List String} (h : Slashless path) (hmore : Slashless more)
    (heq : (UrlPath.segments path).text = (UrlPath.segments more).text) : path = more := by
  have hsplit := congrArg (Text.splitOn '/') heq
  rw [splitOn_text h, splitOn_text hmore] at hsplit
  exact List.map_injective_iff.mpr (fun _ _ => String.toList_injective) (List.cons.inj hsplit).2

/-- A path without slashes in its segments ends with a slash exactly if its last segment is empty.
-/
theorem text_getLast?_iff (h : '/' ∉ last.toList) :
    (UrlPath.segments (path ++ [last])).text.getLast? = some '/' ↔ last = "" := by
  rw [text_concat, List.getLast?_append_cons]
  constructor
  · intro hlast
    by_contra hne
    have hcons : last.toList ≠ [] := mt String.toList_eq_nil_iff.mp hne
    rw [List.getLast?_cons_of_ne_nil hcons] at hlast
    exact h (List.mem_of_getLast? hlast)
  · rintro rfl
    rfl

theorem text_eq_slash_iff : (UrlPath.segments path).text = ['/'] ↔ path = [""] := by
  constructor
  · intro h
    match path with
    | [] => cases h
    | [s] =>
      have hs : s.toList = [] := by simpa [UrlPath.text] using h
      rw [String.toList_eq_nil_iff.mp hs]
    | s :: t :: path => simp [UrlPath.text] at h
  · rintro rfl
    rfl

/-- The segments of a folder: the path without an empty segment at its end. -/
def folder (path : List String) : List String :=
  if path.getLast? = some "" then path.dropLast else path

theorem folder_concat (path : List String) :
    folder path ++ [""] = if path.getLast? = some "" then path else path ++ [""] := by
  unfold folder
  split_ifs with hlast
  · exact List.dropLast_append_getLast? "" hlast
  · rfl

theorem text_folder (hne : path ≠ []) (h : Slashless path) :
    (UrlPath.segments (folder path ++ [""])).text = slashed (UrlPath.segments path).text := by
  rw [folder_concat]
  obtain ⟨path, last, rfl⟩ := (List.eq_nil_or_concat' path).resolve_left hne
  have hlast : '/' ∉ last.toList := h last List.mem_concat_self
  unfold slashed
  rw [if_congr (text_getLast?_iff hlast) rfl rfl, List.getLast?_concat,
    if_congr Option.some_inj rfl rfl]
  split_ifs with hempty
  · rfl
  · rw [text_concat (path ++ [last]) ""]
    rfl

theorem popIfEmpty_of_ne (h : last ≠ "") : popIfEmpty (path ++ [last]) = path ++ [last] := by
  unfold popIfEmpty
  rw [List.getLast?_concat, if_neg]
  rintro ⟨-, hlast⟩
  exact h (Option.some.inj hlast)

theorem popIfEmpty_of_empty (h : path ≠ []) : popIfEmpty (path ++ [""]) = path := by
  have hlength : 1 < (path ++ [""]).length := by
    have hpos := List.length_pos_iff.mpr h
    rw [List.length_append, List.length_singleton]
    omega
  unfold popIfEmpty
  rw [if_pos ⟨hlength, List.getLast?_concat⟩, List.dropLast_concat]

/-- The path that segments are added to. -/
def openEnd (path : List String) : List String :=
  if popIfEmpty path = [""] then [] else popIfEmpty path

theorem text_openEnd (hne : path ≠ []) (h : Slashless path) :
    (UrlPath.segments (openEnd path)).text = stem (UrlPath.segments path).text := by
  obtain ⟨path, last, rfl⟩ := (List.eq_nil_or_concat' path).resolve_left hne
  have hends : (UrlPath.segments (path ++ [last])).text.getLast? = some '/' ↔ last = "" :=
    text_getLast?_iff (h last List.mem_concat_self)
  by_cases hempty : last = ""
  · subst hempty
    by_cases hnil : path = []
    · subst hnil
      rfl
    by_cases hsingle : path = [""]
    · subst hsingle
      rfl
    have htext : (UrlPath.segments (path ++ [""])).text = (UrlPath.segments path).text ++ ['/'] :=
      text_concat path ""
    have htwo : (UrlPath.segments path).text ++ ['/'] ≠ ['/', '/'] := by
      intro heq
      have hone : (UrlPath.segments path).text ++ ['/'] = ['/'] ++ ['/'] := heq
      exact hsingle (text_eq_slash_iff.mp (List.append_cancel_right hone))
    rw [openEnd, popIfEmpty_of_empty hnil, if_neg hsingle, stem, htext, if_neg htwo,
      List.getLast?_concat, if_pos rfl, List.dropLast_concat]
  · have hends' := mt hends.mp hempty
    have htwo : (UrlPath.segments (path ++ [last])).text ≠ ['/', '/'] := by
      intro heq
      rw [heq] at hends'
      exact hends' rfl
    have hsingle : path ++ [last] ≠ [""] := by
      intro heq
      have hlast := congrArg List.getLast? heq
      rw [List.getLast?_concat] at hlast
      exact hempty (Option.some.inj hlast)
    rw [openEnd, popIfEmpty_of_ne hempty, if_neg hsingle, stem, if_neg htwo, if_neg hends']

end Texts

end Web.Url

end ClusterBoard
