import Mathlib
import ClusterBoard.Json.Number
import ClusterBoard.Text.Blank

/-!
# Characters of a printed number

A printed number, whole or double, positional or with a power of ten, has neither white space nor
quotes in it (`isNumeral_chars`, `IsNumeral.solid`) and is not empty (`chars_ne_nil`).
-/

namespace ClusterBoard.Json

open Text (isBlank blankRanges)

/-- The characters of numbers. -/
def IsNumeral (c : Char) : Prop := c.isDigit = true ∨ c ∈ ['-', '+', '.', 'e']

theorem IsNumeral.solid {c : Char} (h : IsNumeral c) : c ≠ '"' ∧ isBlank c = false := by
  rcases h with h | h
  · obtain ⟨hlow, hhigh⟩ : 48 ≤ c.toNat ∧ c.toNat ≤ 57 := by
      simpa [Char.isDigit, UInt32.le_iff_toNat_le] using h
    refine ⟨fun hc => ?_, ?_⟩
    · rw [hc] at hlow
      exact absurd hlow (by decide)
    · simp only [isBlank, blankRanges, List.any_cons, List.any_nil, Bool.or_false,
        Bool.or_eq_false_iff, Bool.and_eq_false_iff, decide_eq_false_iff_not]
      omega
  · simp only [List.mem_cons, List.not_mem_nil, or_false] at h
    rcases h with rfl | rfl | rfl | rfl <;> decide

namespace Number

theorem isNumeral_natChars (n : Nat) : ∀ c ∈ natChars n, IsNumeral c :=
  fun _ hc => .inl (Nat.isDigit_of_mem_toDigits (by decide) (by decide) hc)

theorem natChars_ne_nil (n : Nat) : natChars n ≠ [] := Nat.toDigits_ne_nil

theorem isNumeral_significantDigits (n : Nat) : ∀ c ∈ significantDigits n, IsNumeral c := by
  intro c hc
  have hmem := (List.dropWhile_suffix _).subset (List.mem_reverse.mp hc)
  exact isNumeral_natChars n c (List.mem_reverse.mp hmem)

variable {digits : List Char}

theorem isNumeral_replicate (n : Nat) : ∀ c ∈ List.replicate n '0', IsNumeral c := by
  intro c hc
  rw [List.eq_of_mem_replicate hc]
  exact .inl (by decide)

theorem isNumeral_positionalChars (h : ∀ c ∈ digits, IsNumeral c) (position : Int) :
    ∀ c ∈ positionalChars digits position, IsNumeral c := by
  have hzero : IsNumeral '0' := .inl (by decide)
  have hpoint : IsNumeral '.' := .inr (by decide)
  have htake (n : Nat) : ∀ c ∈ digits.take n, IsNumeral c :=
    fun c hc => h c (List.mem_of_mem_take hc)
  have hdrop (n : Nat) : ∀ c ∈ digits.drop n, IsNumeral c :=
    fun c hc => h c (List.mem_of_mem_drop hc)
  unfold positionalChars
  split_ifs
  · simp only [List.forall_mem_append, List.forall_mem_cons]
    exact ⟨⟨⟨hzero, hpoint, List.forall_mem_nil _⟩, isNumeral_replicate _⟩, h⟩
  · simp only [List.forall_mem_append, List.forall_mem_cons]
    refine ⟨⟨htake _, isNumeral_replicate _⟩, hpoint, ?_⟩
    split_ifs
    · exact List.forall_mem_singleton.mpr hzero
    · exact hdrop _

theorem isNumeral_scientificChars (h : ∀ c ∈ digits, IsNumeral c) (exponent : Int) :
    ∀ c ∈ scientificChars digits exponent, IsNumeral c := by
  have htake : ∀ c ∈ digits.take 1, IsNumeral c := fun c hc => h c (List.mem_of_mem_take hc)
  have hdrop : ∀ c ∈ digits.drop 1, IsNumeral c := fun c hc => h c (List.mem_of_mem_drop hc)
  unfold scientificChars
  simp only [List.forall_mem_append, List.forall_mem_cons]
  refine ⟨⟨htake, ?_⟩, .inr (by decide), ?_, isNumeral_natChars _⟩
  · split_ifs
    · exact List.forall_mem_nil _
    · exact List.forall_mem_cons.mpr ⟨.inr (by decide), hdrop⟩
  · split_ifs <;> exact .inr (by decide)

/-- A double has a sign or none, and is zero or one of the two layouts of its digits. -/
theorem doubleChars_cases (x : Decimal.Binary64) : ∃ sign text, doubleChars x = sign ++ text ∧
    (sign = [] ∨ sign = ['-']) ∧
      (text = ['0', '.', '0'] ∨
        (∃ position, text = positionalChars (significantDigits x.shortest.digits) position) ∨
          ∃ exponent, text = scientificChars (significantDigits x.shortest.digits) exponent) := by
  refine ⟨_, _, rfl, ?_, ?_⟩
  · split_ifs
    · exact .inr rfl
    · exact .inl rfl
  · split_ifs
    · exact .inl rfl
    · by_cases hlayout : layout.leastPositional ≤
          Decimal.digitCount x.shortest.digits + x.shortest.exponent - 1 ∧
            Decimal.digitCount x.shortest.digits + x.shortest.exponent - 1 < layout.firstScientific
      · exact .inr (.inl ⟨_, if_pos hlayout⟩)
      · exact .inr (.inr ⟨_, if_neg hlayout⟩)

theorem isNumeral_doubleChars (x : Decimal.Binary64) : ∀ c ∈ doubleChars x, IsNumeral c := by
  have hdigits := isNumeral_significantDigits x.shortest.digits
  obtain ⟨sign, text, hx, hsign, htext⟩ := doubleChars_cases x
  rw [hx, List.forall_mem_append]
  constructor
  · rcases hsign with rfl | rfl
    · exact List.forall_mem_nil _
    · exact List.forall_mem_singleton.mpr (.inr (by decide))
  · rcases htext with rfl | ⟨position, rfl⟩ | ⟨exponent, rfl⟩
    · simp only [List.forall_mem_cons]
      exact ⟨.inl (by decide), .inr (by decide), .inl (by decide), List.forall_mem_nil _⟩
    · exact isNumeral_positionalChars hdigits position
    · exact isNumeral_scientificChars hdigits exponent

/-- A number is written with digits, signs, a point and the letter of the exponent. -/
theorem isNumeral_chars (n : Number) : ∀ c ∈ n.chars, IsNumeral c := by
  rcases n with (n | n) | x
  · exact isNumeral_natChars n
  · exact List.forall_mem_cons.mpr ⟨.inr (by decide), isNumeral_natChars (n + 1)⟩
  · exact isNumeral_doubleChars x

theorem chars_ne_nil (n : Number) : n.chars ≠ [] := by
  rcases n with (n | n) | x
  · exact natChars_ne_nil n
  · exact List.cons_ne_nil _ _
  · obtain ⟨sign, text, hx, -, htext⟩ := doubleChars_cases x
    rw [chars, hx]
    refine List.append_ne_nil_of_right_ne_nil sign ?_
    rcases htext with rfl | ⟨position, rfl⟩ | ⟨exponent, rfl⟩
    · exact List.cons_ne_nil _ _
    · unfold positionalChars
      split_ifs <;> simp
    · simp [scientificChars]

end Number

end ClusterBoard.Json
