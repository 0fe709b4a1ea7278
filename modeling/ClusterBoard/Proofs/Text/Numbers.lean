import Mathlib
import ClusterBoard.Text.Unsigned

/-!
# Texts of numbers

A text writes a number if it is a run of decimal digits, perhaps after one plus sign, whose value is
that number (`WritesNumber`). A text that is read as a number below a bound is one that writes it,
and all these are read (`unsignedBelow?_eq_some_iff`); so no text writes two numbers. Numbers are
written in digits only (`not_mem_toString`).
-/

namespace ClusterBoard.Text

/-- A text is digits, perhaps after a plus sign, and `n` is their value; the last digit counts
least. -/
def WritesNumber (cs : List Char) (n : Nat) : Prop :=
  ∃ digits : List Char, (cs = digits ∨ cs = '+' :: digits) ∧ digits ≠ [] ∧
    (∀ c ∈ digits, c.isDigit = true) ∧
    n = Nat.ofDigits 10 (digits.reverse.map fun c => c.toNat - '0'.toNat)

/-- The number below a bound that a run of digits is. -/
def digitsBelow? (bound : Nat) (digits : List Char) : Option Nat :=
  if digits.isEmpty || digits.any (!·.isDigit) then none
  else if digitsValue digits < bound then some (digitsValue digits) else none

section Reading

variable {bound n : Nat} {cs digits : List Char}

theorem digitsValue_eq_ofDigits (digits : List Char) :
    digitsValue digits = Nat.ofDigits 10 (digits.reverse.map fun c => c.toNat - '0'.toNat) := by
  unfold digitsValue
  rw [Nat.ofDigits_eq_foldr, List.foldr_map, List.foldr_reverse]
  simp only [Nat.cast_id, Nat.add_comm]

theorem digitsBelow?_eq_some_iff : digitsBelow? bound digits = some n ↔
    (digits ≠ [] ∧ (∀ c ∈ digits, c.isDigit = true) ∧ n = digitsValue digits) ∧ n < bound := by
  have hno : (digits.isEmpty || digits.any (!·.isDigit)) = true ↔
      ¬ (digits ≠ [] ∧ ∀ c ∈ digits, c.isDigit = true) := by
    simp [List.any_eq_true, Decidable.or_iff_not_imp_left]
  unfold digitsBelow?
  rw [← and_assoc (a := digits ≠ [])]
  split_ifs with hbad hbound
  · exact iff_of_false (by simp) fun h => hno.mp hbad h.1.1
  · have hgood := not_not.mp (mt hno.mpr hbad)
    constructor
    · intro h
      obtain rfl := Option.some.inj h
      exact ⟨⟨hgood, rfl⟩, hbound⟩
    · rintro ⟨⟨-, rfl⟩, -⟩
      rfl
  · refine iff_of_false (by simp) ?_
    rintro ⟨⟨-, rfl⟩, hlt⟩
    exact hbound hlt

theorem unsignedBelow?_plus (bound : Nat) (cs : List Char) :
    unsignedBelow? bound ('+' :: cs) = digitsBelow? bound cs := rfl

theorem unsignedBelow?_of_ne_plus (h : ∀ rest, cs ≠ '+' :: rest) :
    unsignedBelow? bound cs = digitsBelow? bound cs := by
  unfold unsignedBelow? digitsBelow?
  split
  · rename_i rest
    exact absurd rfl (h rest)
  · rfl

/-- A plus sign is no digit, so a text that starts with one is not a run of digits. -/
theorem writesNumber_iff : WritesNumber cs n ↔ ∃ digits, (cs = '+' :: digits ∨
      cs = digits ∧ ∀ rest, cs ≠ '+' :: rest) ∧
    digits ≠ [] ∧ (∀ c ∈ digits, c.isDigit = true) ∧ n = digitsValue digits := by
  unfold WritesNumber
  refine exists_congr fun digits => ?_
  rw [← digitsValue_eq_ofDigits]
  refine and_congr_left fun hdigits => ⟨?_, ?_⟩
  · obtain ⟨-, hall, -⟩ := hdigits
    rintro (rfl | rfl)
    · refine .inr ⟨rfl, ?_⟩
      rintro rest rfl
      exact absurd (hall '+' List.mem_cons_self) (by decide)
    · exact .inl rfl
  · exact fun h => h.elim .inr fun h => .inl h.1

/-- A text is read as a number below the bound exactly if it writes that number. -/
theorem unsignedBelow?_eq_some_iff :
    unsignedBelow? bound cs = some n ↔ WritesNumber cs n ∧ n < bound := by
  rw [writesNumber_iff]
  by_cases hplus : ∃ rest, cs = '+' :: rest
  · obtain ⟨rest, rfl⟩ := hplus
    rw [unsignedBelow?_plus, digitsBelow?_eq_some_iff]
    simp
  · rw [not_exists] at hplus
    rw [unsignedBelow?_of_ne_plus hplus, digitsBelow?_eq_some_iff]
    simp [hplus]

theorem WritesNumber.unique {m : Nat} (hm : WritesNumber cs m) (hn : WritesNumber cs n) :
    m = n := by
  have hread {k : Nat} (hk : WritesNumber cs k) (hbound : k < m + n + 1) :
      unsignedBelow? (m + n + 1) cs = some k := unsignedBelow?_eq_some_iff.mpr ⟨hk, hbound⟩
  exact Option.some.inj ((hread hm (by omega)).symm.trans (hread hn (by omega)))

end Reading

/-! ## Written numbers -/

theorem not_mem_toDigits {c : Char} (hc : c.isDigit = false) (n : Nat) :
    c ∉ Nat.toDigits 10 n := fun h =>
  Bool.false_ne_true (hc.symm.trans (Nat.isDigit_of_mem_toDigits (by decide) le_rfl h))

theorem not_mem_toString {c : Char} (hc : c.isDigit = false) (n : Nat) :
    c ∉ (toString n).toList := fun h => not_mem_toDigits hc n (Nat.toList_repr ▸ h)

end ClusterBoard.Text
