import Mathlib
import ClusterBoard.Record.Id
import ClusterBoard.Proofs.Text.Numbers

/-!
# The order of IDs

`RecordId.compare` is lexicographic: by the number, where an ID without a number stands below all
numbers, then by the text (`compare_eq_lex`). So it is a total order that tells any two IDs apart,
and items with distinct IDs have exactly one descending arrangement, the one that `sortDescending`
gives (`sortDescending_eq_of_perm`). Items in any case have one descending arrangement in which
those with equal IDs keep their order (`Arranges`), and an ID has a number exactly if its text
writes one, blanks at its ends aside (`number?_eq_some_iff`).
-/

namespace ClusterBoard

namespace RecordId

/-- An ID compares by its number, none being the least, and on a tie by its text. -/
theorem compare_eq_lex : RecordId.compare = compareLex (compareOn number?) (compareOn text) := by
  funext a b
  unfold RecordId.compare compareLex compareOn
  rcases a.number? with _ | m <;> rcases b.number? with _ | n <;> rfl

instance : Std.TransCmp RecordId.compare := by
  rw [compare_eq_lex]; infer_instance

instance : Std.LawfulEqCmp RecordId.compare where
  compare_self {a} := Std.ReflCmp.compare_self
  eq_of_compare {a b} h := by
    rw [compare_eq_lex, compareLex_eq_eq] at h
    have ht : a.text = b.text := Std.LawfulEqCmp.compare_eq_iff_eq.mp h.2
    cases a; cases b; cases ht; rfl

theorem notBelow_iff {a b : RecordId} : a.notBelow b = true ↔ (a.compare b).isGE = true := by
  unfold notBelow; cases a.compare b <;> decide

theorem notBelow_trans (a b c : RecordId) (hab : a.notBelow b = true) (hbc : b.notBelow c = true) :
    a.notBelow c = true := by
  rw [notBelow_iff] at *
  exact Std.TransCmp.isGE_trans hab hbc

theorem notBelow_total (a b : RecordId) : (a.notBelow b || b.notBelow a) = true := by
  have h : b.compare a = (a.compare b).swap := Std.OrientedCmp.eq_swap
  unfold notBelow
  rw [h]
  cases a.compare b <;> decide

theorem eq_of_notBelow {a b : RecordId} (hab : a.notBelow b = true) (hba : b.notBelow a = true) :
    a = b := by
  have h : b.compare a = (a.compare b).swap := Std.OrientedCmp.eq_swap
  have heq : a.compare b = .eq := by
    unfold notBelow at hab hba
    rw [h] at hba
    revert hab hba
    cases a.compare b <;> decide
  exact Std.LawfulEqCmp.eq_of_compare heq

theorem compare_eq_gt {a b : RecordId} (hab : a.notBelow b = true) (hne : a ≠ b) :
    a.compare b = .gt := by
  cases h : a.compare b with
  | lt => simp [notBelow, h] at hab
  | eq => exact absurd (Std.LawfulEqCmp.eq_of_compare h) hne
  | gt => rfl

/-! ## Numbers and texts -/

/-- The text of an ID, blanks at its ends aside, writes a number of 128 bits. -/
def IsNumber (id : RecordId) (n : Nat) : Prop :=
  Text.WritesNumber (Text.trim id.text.toList) n ∧ n < 2 ^ 128

theorem number?_eq_some_iff {id : RecordId} {n : Nat} : id.number? = some n ↔ id.IsNumber n :=
  Text.unsignedBelow?_eq_some_iff

theorem number?_eq_none_iff {id : RecordId} : id.number? = none ↔ ∀ n, ¬ id.IsNumber n := by
  simp only [Option.eq_none_iff_forall_ne_some, ne_eq, number?_eq_some_iff]

/-- What an order of IDs is: it has a direction between any two, it is transitive, and only equal
texts are equal in it. -/
structure OrdersTexts (cmp : RecordId → RecordId → Ordering) : Prop where
  swap : ∀ a b, cmp b a = (cmp a b).swap
  trans : ∀ a b c order, cmp a b = order → cmp b c = order → cmp a c = order
  eq_iff : ∀ a b, cmp a b = .eq ↔ a.text = b.text

/-- Numbers stand above all other IDs and go by their value, then by their text; others go by their
text. -/
structure RanksNumbers (cmp : RecordId → RecordId → Ordering) : Prop where
  above : ∀ a b m, a.IsNumber m → (∀ n, ¬ b.IsNumber n) → cmp a b = .gt
  numbers : ∀ a b m n, a.IsNumber m → b.IsNumber n →
    cmp a b = (Ord.compare m n).then (Ord.compare a.text b.text)
  others : ∀ a b, (∀ n, ¬ a.IsNumber n) → (∀ n, ¬ b.IsNumber n) →
    cmp a b = Ord.compare a.text b.text

theorem compare_eq_iff {a b : RecordId} : a.compare b = .eq ↔ a.text = b.text := by
  rw [Std.LawfulEqCmp.compare_eq_iff_eq]
  constructor
  · rintro rfl
    rfl
  · intro h
    cases a
    cases b
    exact congrArg RecordId.mk h

theorem ordersTexts_compare : OrdersTexts RecordId.compare where
  swap _ _ := Std.OrientedCmp.eq_swap
  trans a b c order hab hbc := by
    cases order with
    | lt => exact Std.TransCmp.lt_trans hab hbc
    | eq => exact Std.TransCmp.eq_trans hab hbc
    | gt => exact Std.TransCmp.gt_trans hab hbc
  eq_iff _ _ := compare_eq_iff

theorem ranksNumbers_compare : RanksNumbers RecordId.compare where
  above a b m ha hb := by
    unfold RecordId.compare
    rw [number?_eq_some_iff.mpr ha, number?_eq_none_iff.mpr hb]
  numbers a b m n ha hb := by
    unfold RecordId.compare
    rw [number?_eq_some_iff.mpr ha, number?_eq_some_iff.mpr hb]
  others a b ha hb := by
    unfold RecordId.compare
    rw [number?_eq_none_iff.mpr ha, number?_eq_none_iff.mpr hb]

end RecordId

/-! ## Stable sorting -/

/-- Items that may stand in either order keep theirs. -/
theorem filter_mergeSort {α : Type} {le : α → α → Bool} {p : α → Bool}
    (trans : ∀ a b c, le a b = true → le b c = true → le a c = true)
    (total : ∀ a b, (le a b || le b a) = true)
    (hp : ∀ a b, p a = true → p b = true → le a b = true) (items : List α) :
    (items.mergeSort le).filter p = items.filter p := by
  have hpair : (items.filter p).Pairwise fun a b => le a b = true :=
    List.pairwise_of_forall_mem_list fun a ha b hb =>
      hp a b (List.mem_filter.mp ha).2 (List.mem_filter.mp hb).2
  have hsub : (items.filter p).Sublist (items.mergeSort le) :=
    List.sublist_mergeSort trans total hpair List.filter_sublist
  have hsub' : (items.filter p).Sublist ((items.mergeSort le).filter p) := by
    simpa using hsub.filter p
  have hperm : ((items.mergeSort le).filter p).Perm (items.filter p) :=
    (List.mergeSort_perm items le).filter p
  exact (hsub'.eq_of_length hperm.length_eq.symm).symm

/-! ## Descending lists -/

section Descending

variable {α : Type} {id : α → RecordId} {items other : List α}

theorem sortDescending_perm (id : α → RecordId) (items : List α) :
    (sortDescending id items).Perm items :=
  List.mergeSort_perm _ _

@[simp] theorem mem_sortDescending {item : α} : item ∈ sortDescending id items ↔ item ∈ items :=
  (sortDescending_perm id items).mem_iff

theorem sortDescending_pairwise (id : α → RecordId) (items : List α) :
    (sortDescending id items).Pairwise fun a b => (id a).notBelow (id b) = true := by
  unfold sortDescending
  exact List.pairwise_mergeSort (fun a b c => RecordId.notBelow_trans (id a) (id b) (id c))
    (fun a b => RecordId.notBelow_total (id a) (id b)) items

/-- With distinct IDs every item is above all that follow it. -/
theorem sortDescending_strict (h : (items.map id).Nodup) :
    (sortDescending id items).Pairwise fun a b => (id a).compare (id b) = .gt := by
  have hne : (sortDescending id items).Pairwise fun a b => id a ≠ id b :=
    List.pairwise_map.mp (((sortDescending_perm id items).map id).nodup_iff.mpr h)
  exact (sortDescending_pairwise id items).imp₂ (fun _ _ => RecordId.compare_eq_gt) hne

/-- With distinct IDs the arrangement does not depend on the order of the items. -/
theorem sortDescending_eq_of_perm (h : (items.map id).Nodup) (hp : items.Perm other) :
    sortDescending id items = sortDescending id other := by
  have hperm : (sortDescending id items).Perm (sortDescending id other) :=
    (sortDescending_perm id items).trans (hp.trans (sortDescending_perm id other).symm)
  refine List.Perm.eq_of_pairwise ?_ (sortDescending_pairwise id items)
    (sortDescending_pairwise id other) hperm
  intro a b ha hb hab hba
  have hb' : b ∈ items := hp.mem_iff.mpr (mem_sortDescending.mp hb)
  exact List.inj_on_of_nodup_map h (mem_sortDescending.mp ha) hb'
    (RecordId.eq_of_notBelow hab hba)

/-- A change that keeps every ID keeps every item's place. -/
theorem map_sortDescending {f : α → α} (hf : ∀ item ∈ items, id (f item) = id item) :
    (sortDescending id items).map f = sortDescending id (items.map f) := by
  refine List.map_mergeSort fun a ha b hb => ?_
  rw [hf a ha, hf b hb]

/-! ## The arrangement -/

/-- A list holds the items with the highest ID first, and those with equal IDs in their order. -/
structure Arranges (id : α → RecordId) (items sorted : List α) : Prop where
  perm : sorted.Perm items
  descending : sorted.Pairwise fun a b => (id a).compare (id b) ≠ .lt
  stable : ∀ r, (sorted.filter fun item => id item = r) = items.filter fun item => id item = r

theorem arranges_sortDescending (id : α → RecordId) (items : List α) :
    Arranges id items (sortDescending id items) where
  perm := sortDescending_perm id items
  descending := (sortDescending_pairwise id items).imp fun h => by simpa [RecordId.notBelow] using h
  stable r := by
    refine filter_mergeSort (fun a b c => RecordId.notBelow_trans (id a) (id b) (id c))
      (fun a b => RecordId.notBelow_total (id a) (id b)) (fun a b ha hb => ?_) items
    rw [of_decide_eq_true ha, of_decide_eq_true hb, RecordId.notBelow_iff,
      RecordId.compare_eq_iff.mpr rfl]
    rfl

theorem Arranges.tail {item : α} (h : Arranges id (item :: items) (item :: other)) :
    Arranges id items other where
  perm := h.perm.cons_inv
  descending := h.descending.of_cons
  stable r := by
    have hfilter := h.stable r
    rw [List.filter_cons, List.filter_cons] at hfilter
    split_ifs at hfilter
    · exact (List.cons.inj hfilter).2
    · exact hfilter

/-- Both lists start with the first of the items with the highest ID. -/
theorem Arranges.head_eq {a b : α} (h : Arranges id (b :: items) (a :: other))
    (hb : (b :: items).Pairwise fun a b => (id a).compare (id b) ≠ .lt) : a = b := by
  have hid : id a = id b := by
    have habove : a = b ∨ (id b).notBelow (id a) = true := by
      rcases List.mem_cons.mp (h.perm.mem_iff.mp List.mem_cons_self) with rfl | hmem
      · exact .inl rfl
      · exact .inr (by simpa [RecordId.notBelow] using List.rel_of_pairwise_cons hb hmem)
    have hbelow : a = b ∨ (id a).notBelow (id b) = true := by
      rcases List.mem_cons.mp (h.perm.mem_iff.mpr List.mem_cons_self) with rfl | hmem
      · exact .inl rfl
      · exact .inr (by simpa [RecordId.notBelow] using List.rel_of_pairwise_cons h.descending hmem)
    rcases habove with rfl | habove
    · rfl
    rcases hbelow with rfl | hbelow
    · rfl
    exact RecordId.eq_of_notBelow hbelow habove
  have hfilter := h.stable (id b)
  rw [List.filter_cons, List.filter_cons, if_pos (decide_eq_true hid),
    if_pos (decide_eq_true rfl)] at hfilter
  exact (List.cons.inj hfilter).1

theorem Arranges.eq_of_descending (h : Arranges id items other)
    (hitems : items.Pairwise fun a b => (id a).compare (id b) ≠ .lt) : other = items := by
  induction items generalizing other with
  | nil => exact h.perm.eq_nil
  | cons b items ih =>
    cases other with
    | nil => exact h.perm.symm.eq_nil.symm
    | cons a other =>
      obtain rfl := h.head_eq hitems
      rw [ih h.tail hitems.of_cons]

theorem arranges_iff : Arranges id items other ↔ other = sortDescending id items := by
  have hsort := arranges_sortDescending id items
  constructor
  · intro h
    have hagain : Arranges id (sortDescending id items) other :=
      ⟨h.perm.trans hsort.perm.symm, h.descending,
        fun r => (h.stable r).trans (hsort.stable r).symm⟩
    exact hagain.eq_of_descending hsort.descending
  · rintro rfl
    exact hsort

/-- A list that is arranged stays as it is. -/
theorem sortDescending_of_descending
    (h : items.Pairwise fun a b => (id a).compare (id b) ≠ .lt) : sortDescending id items = items :=
  (arranges_iff.mp ⟨.refl items, h, fun _ => rfl⟩).symm

theorem eq_sortDescending {sorted : List α} (h : (items.map id).Nodup) (hperm : sorted.Perm items)
    (hstrict : sorted.Pairwise fun a b => (id a).compare (id b) = .gt) :
    sorted = sortDescending id items := by
  have hsorted : (sorted.map id).Nodup := (hperm.map id).nodup_iff.mpr h
  rw [← sortDescending_eq_of_perm hsorted hperm]
  refine (sortDescending_of_descending (hstrict.imp fun hgt => ?_)).symm
  rw [hgt]
  decide

end Descending

/-- **IDs are in one order.** The order tells any two texts apart and ranks the numbers above all
others. Sorting gives the one arrangement from high to low in which equal IDs keep their order; with
distinct IDs it is the only one from high to low, wherever the items stood, and sorting again
changes nothing. -/
theorem compare_orders_sortDescending_arranges :
    RecordId.OrdersTexts RecordId.compare ∧ RecordId.RanksNumbers RecordId.compare ∧
    ∀ (α : Type) (id : α → RecordId) (items : List α),
      (∀ sorted, Arranges id items sorted ↔ sorted = sortDescending id items) ∧
      ((items.map id).Nodup →
        (∀ sorted, sorted.Perm items ∧ (sorted.Pairwise fun a b => (id a).compare (id b) = .gt) ↔
          sorted = sortDescending id items) ∧
        ∀ other, items.Perm other → sortDescending id other = sortDescending id items) ∧
      sortDescending id (sortDescending id items) = sortDescending id items := by
  refine ⟨RecordId.ordersTexts_compare, RecordId.ranksNumbers_compare, fun α id items => ?_⟩
  refine ⟨fun _ => arranges_iff, fun hnodup => ⟨fun sorted => ⟨?_, ?_⟩, fun other hother => ?_⟩, ?_⟩
  · intro hsorted
    exact eq_sortDescending hnodup hsorted.1 hsorted.2
  · rintro rfl
    exact ⟨sortDescending_perm id items, sortDescending_strict hnodup⟩
  · exact (sortDescending_eq_of_perm hnodup hother).symm
  · exact sortDescending_of_descending (arranges_sortDescending id items).descending

/-- Three spellings of one number, a name and a number above `2 ^ 128`, in two orders. -/
theorem compare_orders_sortDescending_arranges_spellings :
    let ids : List RecordId :=
      [⟨"gpu"⟩, ⟨"+7"⟩, ⟨"12"⟩, ⟨"7"⟩, ⟨"340282366920938463463374607431768211456"⟩, ⟨" 007"⟩]
    let sorted : List RecordId :=
      [⟨"12"⟩, ⟨"7"⟩, ⟨"+7"⟩, ⟨" 007"⟩, ⟨"gpu"⟩, ⟨"340282366920938463463374607431768211456"⟩]
    (ids.map fun r => r).Nodup ∧ ids.Perm ids.reverse ∧ sortDescending (fun r => r) ids = sorted ∧
      sortDescending (fun r => r) ids.reverse = sorted := by
  intro ids sorted
  have hnodup : (ids.map fun r => r).Nodup := by decide
  have hreverse : ids.Perm ids.reverse := (List.reverse_perm ids).symm
  have hsorted : sorted.Perm ids ∧ sorted.Pairwise fun a b => a.compare b = .gt := by
    decide +kernel
  obtain ⟨-, -, hsort⟩ := compare_orders_sortDescending_arranges
  obtain ⟨hunique, horder⟩ := (hsort RecordId (fun r => r) ids).2.1 hnodup
  have hids := ((hunique sorted).mp hsorted).symm
  exact ⟨hnodup, hreverse, hids, (horder ids.reverse hreverse).trans hids⟩

end ClusterBoard
