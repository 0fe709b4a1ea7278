import Mathlib
import ClusterBoard.Proofs.Board.Refreshing

/-!
# Moving from page to page

Any page can be asked for, whether it exists or not, so a move may start anywhere. A move on arrives
at a page that exists. A move back goes one page towards the first, and arrives at a page that
exists unless it starts further out than one past the last (`arrives_previousPage?_iff`). Only a
page that was asked for is out of range: operations alone never lead there (`visit_page_le`).
-/

namespace ClusterBoard.Pager

/-! ## One move -/

/-- The outcome of a move, if there is one, is a page next to the present one, and it exists. -/
def Arrives (p : Pager) (outcome : Option Pager) : Prop :=
  ∀ q, outcome = some q →
    q = p.atPage q.page ∧ (q.page + 1 = p.page ∨ q.page = p.page + 1) ∧
      1 ≤ q.page ∧ q.page ≤ q.totalPages

section Move

variable {p : Pager}

theorem previousPage?_eq_none_iff : p.previousPage? = none ↔ p.page ≤ 1 := by
  rw [Option.eq_none_iff_forall_ne_some]
  simp only [ne_eq, previousPage?_eq_some]
  constructor
  · intro h
    by_contra hlt
    exact h _ ⟨by omega, rfl⟩
  · rintro hle q ⟨hlt, -⟩
    omega

theorem nextPage?_eq_none_iff : p.nextPage? = none ↔ p.totalPages ≤ p.page := by
  rw [Option.eq_none_iff_forall_ne_some]
  simp only [ne_eq, nextPage?_eq_some]
  constructor
  · intro h
    by_contra hlt
    exact h _ ⟨by omega, rfl⟩
  · rintro hle q ⟨hlt, -⟩
    omega

theorem arrives_nextPage? (p : Pager) : p.Arrives p.nextPage? := by
  intro q hq
  obtain ⟨hlt, rfl⟩ := nextPage?_eq_some.mp hq
  have hle : p.page + 1 ≤ p.totalPages := hlt
  exact ⟨rfl, .inr rfl, Nat.le_add_left 1 p.page, hle⟩

theorem arrives_previousPage?_iff : p.Arrives p.previousPage? ↔ p.page ≤ p.totalPages + 1 := by
  constructor
  · intro h
    by_contra hout
    have hback : p.previousPage? = some (p.atPage (p.page - 1)) :=
      previousPage?_eq_some.mpr ⟨by omega, rfl⟩
    obtain ⟨-, -, -, hle⟩ := h _ hback
    have hle' : p.page - 1 ≤ p.totalPages := hle
    omega
  · intro hin q hq
    obtain ⟨hlt, rfl⟩ := previousPage?_eq_some.mp hq
    have hstep : p.page - 1 + 1 = p.page := by omega
    have hpos : 1 ≤ p.page - 1 := by omega
    have hle : p.page - 1 ≤ p.totalPages := by omega
    exact ⟨rfl, .inl hstep, hpos, hle⟩

theorem apply_previousPage (p : Pager) :
    p.apply .previousPage = p.atPage (max (min 1 p.page) (p.page - 1)) := by
  unfold apply
  by_cases h : 1 < p.page
  · have hmax : max (min 1 p.page) (p.page - 1) = p.page - 1 := by omega
    rw [previousPage?_eq_some.mpr ⟨h, rfl⟩, hmax]
    rfl
  · have hmax : max (min 1 p.page) (p.page - 1) = p.page := by omega
    rw [previousPage?_eq_none_iff.mpr (by omega), hmax]
    rfl

theorem apply_nextPage (p : Pager) :
    p.apply .nextPage = p.atPage (max p.page (min (p.page + 1) p.totalPages)) := by
  unfold apply
  by_cases h : p.page < p.totalPages
  · have hmax : max p.page (min (p.page + 1) p.totalPages) = p.page + 1 := by omega
    rw [nextPage?_eq_some.mpr ⟨h, rfl⟩, hmax]
    rfl
  · have hmax : max p.page (min (p.page + 1) p.totalPages) = p.page := by omega
    rw [nextPage?_eq_none_iff.mpr (by omega), hmax]
    rfl

/-- However often one moves back, the first page is not passed. -/
theorem iterate_previousPage (p : Pager) (k : Nat) :
    (fun q => q.apply .previousPage)^[k] p =
      p.atPage (max (min 1 p.page) (p.page - k)) := by
  induction k with
  | zero =>
    have hmax : max (min 1 p.page) (p.page - 0) = p.page := by omega
    rw [hmax]
    rfl
  | succ k ih =>
    rw [Function.iterate_succ_apply', ih, apply_previousPage]
    show p.atPage _ = _
    congr 1
    show max (min 1 (max (min 1 p.page) (p.page - k))) (max (min 1 p.page) (p.page - k) - 1) = _
    omega

/-- However often one moves on, the last page is not passed. -/
theorem iterate_nextPage (p : Pager) (k : Nat) :
    (fun q => q.apply .nextPage)^[k] p =
      p.atPage (max p.page (min (p.page + k) p.totalPages)) := by
  induction k with
  | zero =>
    have hmax : max p.page (min (p.page + 0) p.totalPages) = p.page := by omega
    rw [hmax]
    rfl
  | succ k ih =>
    rw [Function.iterate_succ_apply', ih, apply_nextPage]
    show p.atPage _ = _
    congr 1
    show max (max p.page (min (p.page + k) p.totalPages))
      (min (max p.page (min (p.page + k) p.totalPages) + 1) p.totalPages) = _
    omega

end Move

/-! ## Runs in which any page is asked for -/

/-- What a pager is asked for: an operation, or a page that may not exist. -/
inductive Request where
  | operation (operation : Operation)
  | page (number : Nat)

/-- The pager after a request. -/
def serve (p : Pager) : Request → Pager
  | .operation operation => p.apply operation
  | .page number => p.atPage number

/-- The pager after requests to the one with nothing loaded. -/
def visit (requests : List Request) : Pager := requests.foldl serve .initial

theorem Step.page_le {p q : Pager} (hs : Step p q) {bound : Nat}
    (h : p.page ≤ max bound (max 1 p.totalPages)) :
    q.page ≤ max bound (max 1 q.totalPages) := by
  cases hs with
  | stay => exact h
  | load jobs => exact le_max_of_le_right (le_max_left _ _)
  | keep jobs user page hpos hle => exact le_max_of_le_right hle
  | select user => exact le_max_of_le_right (le_max_left _ _)
  | turn page hpos hle =>
    show page ≤ max bound (max 1 p.totalPages)
    omega

/-- No page is further out than those that exist and those that were asked for. -/
theorem visit_page_le (requests : List Request) {bound : Nat}
    (h : ∀ number, Request.page number ∈ requests → number ≤ bound) :
    (visit requests).page ≤ max bound (max 1 (visit requests).totalPages) := by
  induction requests using List.reverseRecOn with
  | nil => exact le_max_of_le_right (le_max_left _ _)
  | append_singleton requests request ih =>
    have hearlier := ih fun number hmem => h number (List.mem_append_left _ hmem)
    unfold visit at *
    rw [List.foldl_append]
    cases request with
    | operation operation => exact (step_apply _ operation).page_le hearlier
    | page number =>
      have hnumber : number ≤ bound :=
        h number (List.mem_append_right _ (List.mem_singleton_self _))
      exact le_max_of_le_left hnumber

/-- What the two moves make of a pager. -/
structure MovesByOne (p : Pager) : Prop where
  back_none_iff : p.previousPage? = none ↔ p.page ≤ 1
  back : ∀ q, p.previousPage? = some q → q = p.atPage (p.page - 1) ∧ 1 ≤ q.page
  back_arrives_iff : p.Arrives p.previousPage? ↔ p.page ≤ p.totalPages + 1
  on_none_iff : p.nextPage? = none ↔ p.totalPages ≤ p.page
  on_arrives : p.Arrives p.nextPage?
  back_often : ∀ k, (fun q => q.apply .previousPage)^[k] p =
    p.atPage (max (min 1 p.page) (p.page - k))
  on_often : ∀ k, (fun q => q.apply .nextPage)^[k] p =
    p.atPage (max p.page (min (p.page + k) p.totalPages))

theorem movesByOne (p : Pager) : p.MovesByOne where
  back_none_iff := previousPage?_eq_none_iff
  back := by
    intro q hq
    obtain ⟨hlt, rfl⟩ := previousPage?_eq_some.mp hq
    have hpos : 1 ≤ p.page - 1 := by omega
    exact ⟨rfl, hpos⟩
  back_arrives_iff := arrives_previousPage?_iff
  on_none_iff := nextPage?_eq_none_iff
  on_arrives := arrives_nextPage? p
  back_often := iterate_previousPage p
  on_often := iterate_nextPage p

/-- **Moves go page by page.** After any requests a move stays where it is or goes to the next page,
and a move on arrives at a page that exists; so does a move back, unless it starts beyond the page
after the last. It never does where all pages asked for are at most one past the last, in particular
where none was asked for. -/
theorem visit_movesByOne (requests : List Request) :
    (visit requests).MovesByOne ∧
    ∀ bound, (∀ number, Request.page number ∈ requests → number ≤ bound) →
      (visit requests).page ≤ max bound (max 1 (visit requests).totalPages) ∧
      (bound ≤ (visit requests).totalPages + 1 →
        (visit requests).Arrives (visit requests).previousPage?) := by
  refine ⟨movesByOne _, fun bound hbound => ?_⟩
  have hle := visit_page_le requests hbound
  refine ⟨hle, fun hin => arrives_previousPage?_iff.mpr ?_⟩
  omega

/-- Bob's one job, and then the page after the only one. -/
def onePast : List Request := [.operation (.load bobsJob), .page 2]

/-- From there a move back arrives, and a second one changes nothing. -/
theorem visit_movesByOne_onePast :
    (∀ number, Request.page number ∈ onePast → number ≤ 2) ∧
    2 ≤ (visit onePast).totalPages + 1 ∧
    (visit onePast).Arrives (visit onePast).previousPage? ∧
    (fun q => q.apply .previousPage)^[2] (visit onePast) = ofJobs bobsJob := by
  have hnumbers : ∀ number, Request.page number ∈ onePast → number ≤ 2 := by
    intro number hmem
    simp only [onePast, List.mem_cons, reduceCtorEq, Request.page.injEq, List.not_mem_nil, or_false,
      false_or] at hmem
    omega
  have htotal : (visit onePast).totalPages = 1 := by decide
  have hfits : 2 ≤ (visit onePast).totalPages + 1 := by omega
  obtain ⟨hmoves, hbound⟩ := visit_movesByOne onePast
  exact ⟨hnumbers, hfits, (hbound 2 hnumbers).2 hfits, hmoves.back_often 2⟩

/-- On page three of one, a move back goes to page two of one. -/
theorem previousPage?_beyond_end :
    let p := visit [.operation (.load bobsJob), .page 3]
    p.totalPages = 1 ∧ p.previousPage?.map Pager.page = some 2 ∧ ¬ p.Arrives p.previousPage? := by
  intro p
  have htotal : p.totalPages = 1 := by decide
  have hpage : p.page = 3 := rfl
  refine ⟨htotal, rfl, fun h => ?_⟩
  have hle := arrives_previousPage?_iff.mp h
  omega

end ClusterBoard.Pager
