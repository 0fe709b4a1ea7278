import Mathlib
import ClusterBoard.Web.Percent

/-!
# Percent encoding and back

Two kinds of sets are used. Where the set holds the percent sign, what is encoded can be told from
what was there before, and decoding gives the text back (`decode_encode`). Where it does not, an
escape that stands in the text is decoded with the rest; the text comes back exactly if there is
none (`decode_eq_utf8_iff`).
-/

namespace ClusterBoard.Web.Percent

/-- The bytes of a text in UTF-8. -/
def utf8 (cs : List Char) : List UInt8 := cs.flatMap String.utf8EncodeChar

/-- A segment stands for a text: its bytes, encoded ones decoded, are those of the text. -/
def StandsFor (segment text : String) : Prop := text? (decode segment.toList) = some text.toList

/-! ## Bytes of a text -/

section Bytes

variable {cs ds : List Char} {c : Char}

theorem utf8_cons (c : Char) (cs : List Char) :
    utf8 (c :: cs) = String.utf8EncodeChar c ++ utf8 cs := List.flatMap_cons

theorem length_utf8_cons (c : Char) (cs : List Char) :
    (utf8 (c :: cs)).length = (String.utf8EncodeChar c).length + (utf8 cs).length := by
  rw [utf8_cons, List.length_append]

theorem utf8EncodeChar_pos (c : Char) : 0 < (String.utf8EncodeChar c).length :=
  List.length_pos_iff.mpr String.utf8EncodeChar_ne_nil

theorem bytes_eq_iff {bytes : List UInt8} :
    ByteArray.mk bytes.toArray = (String.ofList cs).toByteArray ↔ bytes = utf8 cs := by
  have hmk : ByteArray.mk bytes.toArray = bytes.toByteArray := by
    rw [ByteArray.ext_iff, List.data_toByteArray]
  rw [hmk, String.toByteArray_ofList]
  exact List.toByteArray_inj

theorem text?_eq_some_iff {bytes : List UInt8} : text? bytes = some cs ↔ bytes = utf8 cs := by
  rw [← bytes_eq_iff]
  unfold text? String.fromUTF8?
  constructor
  · intro h
    obtain ⟨s, hs, hcs⟩ := Option.map_eq_some_iff.mp h
    split_ifs at hs with hvalid
    rw [← hcs, String.ofList_toList, ← Option.some.inj hs]
    rfl
  · intro h
    have hvalid : (ByteArray.mk bytes.toArray).IsValidUTF8 := h ▸ String.isValidUTF8 _
    have hs : String.fromUTF8 _ hvalid = String.ofList cs := String.toByteArray_inj.mp h
    rw [dif_pos hvalid, hs, Option.map_some, String.toList_ofList]

theorem utf8_injective (h : utf8 cs = utf8 ds) : cs = ds := by
  have hcs : text? (utf8 cs) = some cs := text?_eq_some_iff.mpr rfl
  have hds : text? (utf8 cs) = some ds := text?_eq_some_iff.mpr h
  exact Option.some.inj (hcs.symm.trans hds)

theorem length_utf8_le (h : cs.Sublist ds) : (utf8 cs).length ≤ (utf8 ds).length := by
  induction h with
  | slnil => exact le_rfl
  | cons c h ih =>
    rw [length_utf8_cons]
    omega
  | cons_cons c h ih =>
    rw [length_utf8_cons, length_utf8_cons]
    omega

theorem eq_of_sublist (h : cs.Sublist ds) (hlength : (utf8 ds).length ≤ (utf8 cs).length) :
    cs = ds := by
  induction h with
  | slnil => rfl
  | cons c h ih =>
    have hle := length_utf8_le h
    have hpos := utf8EncodeChar_pos c
    rw [length_utf8_cons] at hlength
    omega
  | cons_cons c h ih =>
    rw [length_utf8_cons, length_utf8_cons] at hlength
    rw [ih (by omega)]

end Bytes

/-! ## Encoding -/

theorem hexValue?_hexDigit : ∀ n < 16, hexValue? (hexDigit n) = some n := by decide

theorem decode_encodeByte (b : UInt8) (cs : List Char) :
    decode (encodeByte b ++ cs) = b :: decode cs := by
  have hb : b.toNat < 256 := UInt8.toNat_lt_size b
  have hhigh := hexValue?_hexDigit (b.toNat / 16) (by omega)
  have hlow := hexValue?_hexDigit (b.toNat % 16) (by omega)
  have hbyte : UInt8.ofNat (16 * (b.toNat / 16) + b.toNat % 16) = b := by
    rw [Nat.div_add_mod]
    exact UInt8.ofNat_toNat
  show decode ('%' :: hexDigit (b.toNat / 16) :: hexDigit (b.toNat % 16) :: cs) = _
  rw [decode, hhigh, hlow]
  simp only [hbyte]

theorem decode_encodeBytes (bytes : List UInt8) (cs : List Char) :
    decode (bytes.flatMap encodeByte ++ cs) = bytes ++ decode cs := by
  induction bytes with
  | nil => rfl
  | cons b bytes ih =>
    rw [List.flatMap_cons, List.append_assoc, decode_encodeByte, ih, List.cons_append]

theorem decode_cons_of_ne {c : Char} (h : c ≠ '%') (cs : List Char) :
    decode (c :: cs) = String.utf8EncodeChar c ++ decode cs := by
  rw [decode]
  rintro a b rest hc -
  exact h hc

section Sets

variable {inSet : Char → Bool} {cs : List Char} {c : Char}

theorem encode_cons (inSet : Char → Bool) (c : Char) (cs : List Char) :
    encode inSet (c :: cs) = encodeChar inSet c ++ encode inSet cs := List.flatMap_cons

theorem encodeChar_of_in (h : inSet c = true) :
    encodeChar inSet c = (String.utf8EncodeChar c).flatMap encodeByte := if_pos h

theorem encodeChar_of_not_in (h : inSet c = false) : encodeChar inSet c = [c] := by
  unfold encodeChar
  rw [h]
  rfl

theorem encode_eq_self (h : ∀ c ∈ cs, inSet c = false) : encode inSet cs = cs := by
  induction cs with
  | nil => rfl
  | cons c cs ih =>
    obtain ⟨hc, hcs⟩ := List.forall_mem_cons.mp h
    rw [encode_cons, encodeChar_of_not_in hc, ih hcs]
    rfl

theorem toNat_of_isAlpha (h : c.isAlpha = true) :
    (65 ≤ c.toNat ∧ c.toNat ≤ 90) ∨ (97 ≤ c.toNat ∧ c.toNat ≤ 122) := by
  unfold Char.isAlpha Char.isUpper Char.isLower at h
  simp only [ge_iff_le, Bool.or_eq_true, Bool.and_eq_true, decide_eq_true_eq,
    UInt32.le_iff_toNat_le] at h
  exact h

/-- No set of a path holds a letter. -/
theorem not_in_of_isAlpha (h : c.isAlpha = true) :
    pathSet c = false ∧ specialSegmentSet c = false := by
  have hmarks : " \"<>`#?\x7b\x7d/%\\".toList.all (!·.isAlpha) = true := by decide
  simp only [List.all_eq_true, Bool.not_eq_true'] at hmarks
  have hmark : c ∉ [' ', '"', '<', '>', '\x60', '#', '?', '\x7b', '\x7d', '/', '%', '\\'] := by
    intro hc
    rw [hmarks c hc] at h
    cases h
  have hcontrol : isControl c = false := by
    have hnat := toNat_of_isAlpha h
    unfold isControl
    simp only [Bool.or_eq_false_iff, decide_eq_false_iff_not]
    omega
  simp only [List.mem_cons, List.not_mem_nil, or_false, not_or] at hmark
  simp [specialSegmentSet, segmentSet, pathSet, fragmentSet, isIn, hcontrol, hmark]

/-- What is encoded into a set with the percent sign comes back. -/
theorem decode_encode (h : inSet '%' = true) (cs : List Char) :
    decode (encode inSet cs) = utf8 cs := by
  induction cs with
  | nil => rfl
  | cons c cs ih =>
    rw [encode_cons, utf8_cons, ← ih]
    cases hc : inSet c with
    | true => rw [encodeChar_of_in hc, decode_encodeBytes]
    | false =>
      have hne : c ≠ '%' := by
        rintro rfl
        rw [h] at hc
        cases hc
      rw [encodeChar_of_not_in hc]
      exact decode_cons_of_ne hne _

theorem eq_of_decode_encode (h : inSet '%' = true) {ds : List Char}
    (heq : decode (encode inSet cs) = utf8 ds) : cs = ds := by
  rw [decode_encode h] at heq
  exact utf8_injective heq

theorem encode_injective (h : inSet '%' = true) {ds : List Char}
    (heq : encode inSet cs = encode inSet ds) : cs = ds := by
  refine eq_of_decode_encode h ?_
  rw [heq, decode_encode h]

theorem encode_ne_nil (h : cs ≠ []) : encode inSet cs ≠ [] := by
  obtain ⟨c, cs, rfl⟩ := List.exists_cons_of_ne_nil h
  rw [encode_cons]
  refine List.append_ne_nil_of_left_ne_nil ?_ _
  cases hc : inSet c with
  | true =>
    obtain ⟨b, bytes, hbytes⟩ := List.exists_cons_of_ne_nil (String.utf8EncodeChar_ne_nil (c := c))
    rw [encodeChar_of_in hc, hbytes, List.flatMap_cons]
    exact List.append_ne_nil_of_left_ne_nil (List.cons_ne_nil _ _) _
  | false =>
    rw [encodeChar_of_not_in hc]
    exact List.cons_ne_nil _ _

end Sets

/-! ## What is written -/

theorem hexDigit_mem : ∀ n < 16, hexDigit n ∈ "0123456789ABCDEF".toList := by decide

theorem mem_of_mem_encodeByte {b : UInt8} {d : Char} (h : d ∈ encodeByte b) :
    d ∈ "%0123456789ABCDEF".toList := by
  have hb : b.toNat < 256 := UInt8.toNat_lt_size b
  have hdigit (n : Nat) (hn : n < 16) : hexDigit n ∈ "%0123456789ABCDEF".toList :=
    List.mem_cons_of_mem '%' (hexDigit_mem n hn)
  simp only [encodeByte, List.mem_cons, List.not_mem_nil, or_false] at h
  rcases h with rfl | rfl | rfl
  · exact List.mem_cons_self
  · exact hdigit _ (by omega)
  · exact hdigit _ (by omega)

/-- A character that is encoded or not there does not stand in the encoded text. -/
theorem not_mem_encode {inSet : Char → Bool} {cs : List Char} {d : Char}
    (hd : d ∉ "%0123456789ABCDEF".toList) (h : d ∈ cs → inSet d = true) :
    d ∉ encode inSet cs := by
  intro hmem
  obtain ⟨c, hc, hdc⟩ := List.mem_flatMap.mp hmem
  cases hin : inSet c with
  | true =>
    rw [encodeChar_of_in hin] at hdc
    obtain ⟨b, -, hb⟩ := List.mem_flatMap.mp hdc
    exact hd (mem_of_mem_encodeByte hb)
  | false =>
    rw [encodeChar_of_not_in hin, List.mem_singleton] at hdc
    rw [← hdc, h (hdc ▸ hc)] at hin
    cases hin

theorem mem_encode {inSet : Char → Bool} {cs : List Char} {c : Char} (hc : inSet c = false)
    (h : c ∈ cs) : c ∈ encode inSet cs := by
  refine List.mem_flatMap.mpr ⟨c, h, ?_⟩
  rw [encodeChar_of_not_in hc]
  exact List.mem_cons_self

/-! ## Escapes in a text -/

/-- A percent sign and two hexadecimal digits stand at the start. -/
def StartsEscape (cs : List Char) : Prop :=
  ∃ a b rest, cs = '%' :: a :: b :: rest ∧ (hexValue? a).isSome ∧ (hexValue? b).isSome

/-- An escape stands somewhere in a text. -/
def HasEscape (cs : List Char) : Prop := ∃ rest, rest <:+ cs ∧ StartsEscape rest

section Escapes

variable {cs : List Char} {c : Char}

theorem hasEscape_cons_iff : HasEscape (c :: cs) ↔ StartsEscape (c :: cs) ∨ HasEscape cs := by
  unfold HasEscape
  simp only [List.suffix_cons_iff]
  constructor
  · rintro ⟨rest, rfl | hrest, hstarts⟩
    · exact .inl hstarts
    · exact .inr ⟨rest, hrest, hstarts⟩
  · rintro (hstarts | ⟨rest, hrest, hstarts⟩)
    · exact ⟨c :: cs, .inl rfl, hstarts⟩
    · exact ⟨rest, .inr hrest, hstarts⟩

theorem not_hasEscape_nil : ¬ HasEscape [] := by
  rintro ⟨rest, hrest, a, b, more, rfl, -⟩
  cases List.suffix_nil.mp hrest

theorem mem_of_hasEscape (h : HasEscape cs) : '%' ∈ cs := by
  obtain ⟨rest, hrest, a, b, more, rfl, -⟩ := h
  exact hrest.subset List.mem_cons_self

/-- No escape begins before a character that is no digit and ends after it. -/
theorem hasEscape_append_iff {d : Char} {ds : List Char} (hd : hexValue? d = none)
    (hds : '%' ∉ d :: ds) : HasEscape (cs ++ d :: ds) ↔ HasEscape cs := by
  have hends : ¬ HasEscape (d :: ds) := mt mem_of_hasEscape hds
  have hstarts (c : Char) (cs : List Char) :
      StartsEscape (c :: cs ++ d :: ds) ↔ StartsEscape (c :: cs) := by
    unfold StartsEscape
    match cs with
    | [] => simp [hd]
    | [a] => simp [hd]
    | a :: b :: more => simp
  induction cs with
  | nil => exact iff_of_false hends not_hasEscape_nil
  | cons c cs ih =>
    calc HasEscape (c :: cs ++ d :: ds)
        ↔ StartsEscape (c :: cs ++ d :: ds) ∨ HasEscape (cs ++ d :: ds) := hasEscape_cons_iff
      _ ↔ StartsEscape (c :: cs) ∨ HasEscape cs := or_congr (hstarts c cs) ih
      _ ↔ HasEscape (c :: cs) := hasEscape_cons_iff.symm

/-- A text is read from escape to escape, and character by character between them. -/
@[elab_as_elim]
theorem escape_induction {motive : List Char → Prop} (cs : List Char) (nil : motive [])
    (escape : ∀ a b rest m n, hexValue? a = some m → hexValue? b = some n → motive rest →
      motive ('%' :: a :: b :: rest))
    (plain : ∀ c rest, ¬ StartsEscape (c :: rest) → motive rest → motive (c :: rest)) :
    motive cs := by
  induction cs using decode.induct with
  | case1 => exact nil
  | case2 a b rest m n hn hm ih => exact escape a b rest m n hm hn ih
  | case3 a b rest hnot ih =>
    refine plain '%' (a :: b :: rest) ?_ ih
    rintro ⟨a', b', rest', heq, ha, hb⟩
    simp only [List.cons.injEq, true_and] at heq
    obtain ⟨rfl, rfl, -⟩ := heq
    obtain ⟨m, hm⟩ := Option.isSome_iff_exists.mp ha
    obtain ⟨n, hn⟩ := Option.isSome_iff_exists.mp hb
    exact hnot m n hm hn
  | case4 c rest hnot ih =>
    refine plain c rest ?_ ih
    rintro ⟨a, b, rest', heq, -⟩
    obtain ⟨hc, hrest⟩ := List.cons.inj heq
    exact hnot a b rest' hc hrest

theorem decode_escape {a b : Char} {m n : Nat} (ha : hexValue? a = some m)
    (hb : hexValue? b = some n) (cs : List Char) :
    decode ('%' :: a :: b :: cs) = UInt8.ofNat (16 * m + n) :: decode cs := by
  rw [decode, ha, hb]

theorem decode_cons_of_not_starts (h : ¬ StartsEscape (c :: cs)) :
    decode (c :: cs) = String.utf8EncodeChar c ++ decode cs := by
  by_cases hhead : ∃ a b rest, c = '%' ∧ cs = a :: b :: rest
  · obtain ⟨a, b, rest, rfl, rfl⟩ := hhead
    rw [decode]
    split
    · rename_i m n ha hb
      exact absurd ⟨a, b, rest, rfl, by simp [ha], by simp [hb]⟩ h
    · rfl
  · rw [decode]
    intro a b rest hc hcs
    exact hhead ⟨a, b, rest, hc, hcs⟩

theorem length_decode_le (cs : List Char) : (decode cs).length ≤ (utf8 cs).length := by
  induction cs using escape_induction with
  | nil => exact le_rfl
  | escape a b rest m n ha hb ih =>
    rw [decode_escape ha hb, length_utf8_cons, length_utf8_cons, length_utf8_cons, List.length_cons]
    have hpos := utf8EncodeChar_pos '%'
    omega
  | plain c rest hnot ih =>
    rw [decode_cons_of_not_starts hnot, length_utf8_cons, List.length_append]
    omega

/-- An escape stands for one byte and is three long. -/
theorem length_decode_lt (h : HasEscape cs) : (decode cs).length < (utf8 cs).length := by
  induction cs using escape_induction with
  | nil => exact absurd h not_hasEscape_nil
  | escape a b rest m n ha hb ih =>
    rw [decode_escape ha hb, length_utf8_cons, length_utf8_cons, length_utf8_cons, List.length_cons]
    have hle := length_decode_le rest
    have hpos := utf8EncodeChar_pos '%'
    have hpos' := utf8EncodeChar_pos a
    omega
  | plain c rest hnot ih =>
    have hrest : HasEscape rest := (hasEscape_cons_iff.mp h).resolve_left hnot
    have hlt := ih hrest
    rw [decode_cons_of_not_starts hnot, length_utf8_cons, List.length_append]
    omega

theorem decode_of_no_escape (h : ¬ HasEscape cs) : decode cs = utf8 cs := by
  induction cs with
  | nil => rfl
  | cons c cs ih =>
    rw [hasEscape_cons_iff, not_or] at h
    rw [decode_cons_of_not_starts h.1, utf8_cons, ih h.2]

/-- The text itself comes back exactly if no escape stands in it. -/
theorem decode_eq_utf8_iff : decode cs = utf8 cs ↔ ¬ HasEscape cs := by
  refine ⟨fun heq hhas => ?_, decode_of_no_escape⟩
  have hlt := length_decode_lt hhas
  rw [heq] at hlt
  exact lt_irrefl _ hlt

end Escapes

/-! ## Sets without the percent sign -/

/-- A set that leaves escapes as they are. -/
structure LeavesEscapes (inSet : Char → Bool) : Prop where
  percent : inSet '%' = false
  digit : ∀ c, (hexValue? c).isSome → inSet c = false

section Leaves

variable {inSet : Char → Bool} {cs : List Char} {c : Char}

/-- What is encoded starts with a percent sign, and that is no digit. -/
theorem exists_of_encode_eq_cons {rest : List Char} (h : encode inSet cs = c :: rest)
    (hc : (hexValue? c).isSome) : ∃ more, cs = c :: more ∧ encode inSet more = rest := by
  cases cs with
  | nil => cases h
  | cons d more =>
    rw [encode_cons] at h
    cases hd : inSet d with
    | true =>
      obtain ⟨b, bytes, hbytes⟩ :=
        List.exists_cons_of_ne_nil (String.utf8EncodeChar_ne_nil (c := d))
      rw [encodeChar_of_in hd, hbytes, List.flatMap_cons] at h
      obtain rfl : '%' = c := (List.cons.inj h).1
      exact absurd hc (by decide)
    | false =>
      rw [encodeChar_of_not_in hd] at h
      obtain ⟨rfl, hrest⟩ := List.cons.inj h
      exact ⟨more, rfl, hrest⟩

theorem startsEscape_of_encode (h : StartsEscape (c :: encode inSet cs)) :
    StartsEscape (c :: cs) := by
  obtain ⟨a, b, rest, heq, ha, hb⟩ := h
  obtain ⟨rfl, htail⟩ := List.cons.inj heq
  obtain ⟨more, rfl, hmore⟩ := exists_of_encode_eq_cons htail ha
  obtain ⟨last, rfl, -⟩ := exists_of_encode_eq_cons hmore hb
  exact ⟨a, b, last, rfl, ha, hb⟩

/-- Encoding with such a set changes nothing of what is decoded. -/
theorem LeavesEscapes.decode_encode (h : LeavesEscapes inSet) (cs : List Char) :
    decode (encode inSet cs) = decode cs := by
  induction cs using escape_induction with
  | nil => rfl
  | escape a b rest m n ha hb ih =>
    have hina : inSet a = false := h.digit a (Option.isSome_of_eq_some ha)
    have hinb : inSet b = false := h.digit b (Option.isSome_of_eq_some hb)
    rw [encode_cons, encode_cons, encode_cons, encodeChar_of_not_in h.percent,
      encodeChar_of_not_in hina, encodeChar_of_not_in hinb]
    show decode ('%' :: a :: b :: encode inSet rest) = _
    rw [decode_escape ha hb, decode_escape ha hb, ih]
  | plain c rest hnot ih =>
    rw [encode_cons, decode_cons_of_not_starts hnot, ← ih]
    cases hc : inSet c with
    | true => rw [encodeChar_of_in hc, decode_encodeBytes]
    | false =>
      rw [encodeChar_of_not_in hc]
      exact decode_cons_of_not_starts (mt startsEscape_of_encode hnot)

theorem mem_of_hexValue? (h : (hexValue? c).isSome) : c ∈ "0123456789abcdefABCDEF".toList := by
  have hval : c = Char.ofNat c.toNat := (Char.ofNat_toNat c).symm
  unfold hexValue? at h
  split_ifs at h with hdigit hlower hupper
  · have hrange : 48 ≤ c.toNat ∧ c.toNat ≤ 57 := by
      simpa [Char.isDigit, UInt32.le_iff_toNat_le] using hdigit
    obtain ⟨hlow, hhigh⟩ := hrange
    rw [hval]
    interval_cases c.toNat <;> decide
  · have hlow : 97 ≤ c.toNat := hlower.1
    have hhigh : c.toNat ≤ 102 := hlower.2
    rw [hval]
    interval_cases c.toNat <;> decide
  · have hlow : 65 ≤ c.toNat := hupper.1
    have hhigh : c.toNat ≤ 70 := hupper.2
    rw [hval]
    interval_cases c.toNat <;> decide
  · cases h

theorem leavesEscapes_pathSet : LeavesEscapes pathSet where
  percent := by decide
  digit := by
    intro c hc
    have hall : "0123456789abcdefABCDEF".toList.all (!pathSet ·) = true := by decide
    exact (Bool.not_eq_true' _).mp (List.all_eq_true.mp hall c (mem_of_hexValue? hc))

end Leaves

end ClusterBoard.Web.Percent
