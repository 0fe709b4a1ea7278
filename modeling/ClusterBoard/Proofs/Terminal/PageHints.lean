import Mathlib
import ClusterBoard.Proofs.Board.Refreshing
import ClusterBoard.Terminal.Listing

/-!
# The pages that a listing offers

Under the jobs stands which pages to ask for next. On a page that exists these are its neighbours,
all of them and no others. On any other page two are offered, whether they exist or not: such a page
is neither the first nor the last, and that is all that is looked at (`pageHints_exist_iff`).
-/

namespace ClusterBoard.Terminal

open Pager (greatestWord)

/-- The option that asks for a page. -/
def pageOption (page : Nat) : String := s!"--page {page}"

/-- The pages before and after a page, as far as they exist. -/
def neighbours (total page : Nat) : List Nat :=
  [page - 1, page + 1].filter fun m => 1 ≤ m ∧ m ≤ total ∧ m ≠ page

/-- A hint asks for a page that exists, next to the one that is shown. -/
def NamesNeighbour (view : PageView) (hint : String) : Prop :=
  ∃ m, hint = pageOption m ∧ 1 ≤ m ∧ m ≤ view.totalPages ∧
    (m + 1 = view.page ∨ m = view.page + 1)

/-- The hints as they stand after the status. -/
def hintsText (hints : List String) : String :=
  if hints.isEmpty then "" else Paint.dimmed.on ("  (" ++ Text.join ", " hints ++ ")")

theorem pageOption_injective : Function.Injective pageOption := by
  intro m n h
  simp only [pageOption, toString] at h
  exact Nat.repr_injective ((String.append_right_inj "--page ").mp (by simpa using h))

theorem mem_neighbours {total page m : Nat} : m ∈ neighbours total page ↔
    1 ≤ m ∧ m ≤ total ∧ (m + 1 = page ∨ m = page + 1) := by
  simp only [neighbours, List.mem_filter, List.mem_cons, List.not_mem_nil, or_false,
    decide_eq_true_eq]
  omega

theorem namesNeighbour_pageOption_iff {view : PageView} {m : Nat} :
    NamesNeighbour view (pageOption m) ↔ m ∈ neighbours view.totalPages view.page := by
  rw [mem_neighbours]
  constructor
  · rintro ⟨n, hn, h⟩
    rwa [pageOption_injective hn]
  · intro h
    exact ⟨m, rfl, h⟩

/-! ## Hints of a page -/

section Hints

variable {p : Pager} {group : UserGroup} {page : Nat}

theorem totalPages_view (p : Pager) : p.view.totalPages = p.totalPages := by
  cases hg : p.group? with
  | none => rw [Pager.view_of_no_group hg, Pager.totalPages_of_no_group hg]; rfl
  | some group =>
    obtain ⟨user, hu, -⟩ := Option.bind_eq_some_iff.mp hg
    rw [Pager.view_of_group hu hg, Pager.totalPages_of_group hg]

theorem page_view (p : Pager) : p.view.page = p.page := by
  cases hg : p.group? with
  | none => rw [Pager.view_of_no_group hg]; rfl
  | some group =>
    obtain ⟨user, hu, -⟩ := Option.bind_eq_some_iff.mp hg
    rw [Pager.view_of_group hu hg]

theorem pageHints_of_no_group (hg : p.group? = none) : pageHints p.view = [] := by
  rw [Pager.view_of_no_group hg]
  rfl

theorem pageHints_of_group (hg : p.group? = some group) : pageHints p.view =
    (if p.page = 1 then [] else [pageOption (p.page - 1)]) ++
      (if p.page = p.totalPages then []
        else [pageOption ((p.page + 1) % Nat.pow 2 64)]) := by
  obtain ⟨user, hu, -⟩ := Option.bind_eq_some_iff.mp hg
  rw [Pager.view_of_group hu hg, Pager.totalPages_of_group hg]
  unfold pageHints
  simp only [decide_eq_true_eq]
  rfl

theorem pageCount_le (count : Nat) : pageCount count ≤ count := by
  unfold pageCount pageSize
  omega

/-- The page after a page, in words. -/
theorem succ_mod_word (hword : page ≤ greatestWord) :
    (page + 1) % Nat.pow 2 64 = if page = greatestWord then 0 else page + 1 := by
  have hgreatest : greatestWord + 1 = Nat.pow 2 64 := by decide
  split_ifs with h
  · rw [h, hgreatest, Nat.mod_self]
  · exact Nat.mod_eq_of_lt (by omega)

theorem neighbours_of_exists {total : Nat} (hpos : 1 ≤ page) (hle : page ≤ total) :
    neighbours total page =
      (if page = 1 then [] else [page - 1]) ++ (if page = total then [] else [page + 1]) := by
  have hback : (1 ≤ page - 1 ∧ page - 1 ≤ total ∧ page - 1 ≠ page) ↔ page ≠ 1 := by omega
  have hon : (1 ≤ page + 1 ∧ page + 1 ≤ total ∧ page + 1 ≠ page) ↔ page ≠ total := by omega
  simp only [neighbours, List.filter_cons, List.filter_nil, decide_eq_true_eq, hback, hon, ne_eq,
    ite_not]
  split_ifs <;> rfl

/-- On a page that exists the hints are its neighbours. -/
theorem pageHints_of_exists (hg : p.group? = some group) (hfits : p.totalPages ≤ greatestWord)
    (hpos : 1 ≤ p.page) (hle : p.page ≤ p.totalPages) :
    pageHints p.view = (neighbours p.totalPages p.page).map pageOption := by
  rw [pageHints_of_group hg, neighbours_of_exists hpos hle, succ_mod_word (hle.trans hfits),
    List.map_append, apply_ite (List.map pageOption), apply_ite (List.map pageOption)]
  congr 1
  by_cases hlast : p.page = p.totalPages
  · rw [if_pos hlast, if_pos hlast]
    rfl
  · rw [if_neg hlast, if_neg hlast, if_neg (by omega)]
    rfl

/-- On any other page there are two hints. -/
theorem pageHints_of_missing (hg : p.group? = some group) (htotal : 0 < p.totalPages)
    (hword : p.page ≤ greatestWord) (hout : ¬ (1 ≤ p.page ∧ p.page ≤ p.totalPages)) :
    pageHints p.view = [pageOption (p.page - 1),
      pageOption (if p.page = greatestWord then 0 else p.page + 1)] := by
  have hfirst : p.page ≠ 1 := by omega
  have hlast : p.page ≠ p.totalPages := by omega
  rw [pageHints_of_group hg, if_neg hfirst, if_neg hlast, succ_mod_word hword]
  rfl

/-- One of the two hints of a page that does not exist leads nowhere. -/
theorem exists_hint_astray {total : Nat} (hout : ¬ (1 ≤ page ∧ page ≤ total)) :
    page - 1 ∉ neighbours total page ∨
      (if page = greatestWord then 0 else page + 1) ∉ neighbours total page := by
  simp only [mem_neighbours]
  by_cases hzero : page = 0
  · left
    omega
  · right
    split_ifs <;> omega

end Hints

/-! ## The theorem -/

/-- What is printed of the hints of a page. -/
structure Offers (p : Pager) : Prop where
  /-- The hints end the text, where anything is said about pages. -/
  printed : ∀ resolve nav focused, p.totalPages ≠ 0 → ∃ above,
    jobsPageText resolve nav focused p.view = above ++ (hintsText (pageHints p.view) ++ "\n")
  unsaid : p.totalPages = 0 → statusText p.view = "" ∧ pageHints p.view = []
  /-- On a page that exists each neighbour is offered. -/
  complete : 1 ≤ p.page → p.page ≤ p.totalPages →
    pageHints p.view = (neighbours p.totalPages p.page).map pageOption
  /-- On any other page the one before, or the page itself at zero, and the one after, or zero after
  the greatest word. -/
  astray : p.totalPages ≠ 0 → ¬ (1 ≤ p.page ∧ p.page ≤ p.totalPages) →
    pageHints p.view = [pageOption (p.page - 1),
      pageOption (if p.page = greatestWord then 0 else p.page + 1)]
  /-- All hints name pages that exist, exactly if the page does. -/
  exist_iff : p.totalPages ≠ 0 →
    ((∀ hint ∈ pageHints p.view, NamesNeighbour p.view hint) ↔
      1 ≤ p.page ∧ p.page ≤ p.totalPages)

theorem exists_above (resolve : String → String) (nav : Navigation) (focused : Option String)
    {view : PageView} {status : String} (h : view.status = some status) :
    ∃ above, jobsPageText resolve nav focused view =
      above ++ (hintsText (pageHints view) ++ "\n") := by
  have htext : statusText view = Paint.bold.on status ++ (hintsText (pageHints view) ++ "\n") := by
    unfold statusText
    rw [h]
    exact String.append_assoc
  unfold jobsPageText
  rw [htext, ← String.append_assoc]
  exact ⟨_, rfl⟩

theorem offers {p : Pager} (hd : p.Derived) (hword : p.page ≤ greatestWord)
    (hfits : ∀ group, p.group? = some group → group.size ≤ greatestWord) : Offers p := by
  cases hg : p.group? with
  | none =>
    have htotal := Pager.totalPages_of_no_group hg
    have hhints := pageHints_of_no_group hg
    constructor
    case unsaid =>
      rw [Pager.view_of_no_group hg] at hhints ⊢
      exact fun _ => ⟨rfl, hhints⟩
    case complete => intro hpos hle; omega
    all_goals intros; contradiction
  | some group =>
    have hsize : p.totalPages ≤ greatestWord := by
      rw [Pager.totalPages_of_group hg]
      exact (pageCount_le _).trans (hfits group hg)
    have hpos := hd.totalPages_pos hg
    constructor
    case printed =>
      intro resolve nav focused _
      have hstatus := congrArg PageView.status (Pager.view_of_group (hd.mem_groups hg).2 hg)
      exact exists_above resolve nav focused hstatus
    case unsaid => intro hzero; omega
    case complete => exact pageHints_of_exists hg hsize
    case astray => exact fun _ => pageHints_of_missing hg hpos hword
    case exist_iff =>
      intro _
      constructor
      · intro hall
        by_contra hout
        rw [pageHints_of_missing hg hpos hword hout] at hall
        have hback := hall _ List.mem_cons_self
        have hon := hall _ (List.mem_cons_of_mem _ (List.mem_singleton_self _))
        rw [namesNeighbour_pageOption_iff, totalPages_view, page_view] at hback hon
        rcases exists_hint_astray hout with hnot | hnot
        · exact hnot hback
        · exact hnot hon
      · rintro ⟨hone, hle⟩ hint hmem
        rw [pageHints_of_exists hg hsize hone hle] at hmem
        obtain ⟨m, hm, rfl⟩ := List.mem_map.mp hmem
        rw [namesNeighbour_pageOption_iff, totalPages_view, page_view]
        exact hm

/-- The pager of loaded jobs that shows a page of a user, known or not, or of nobody. -/
def opened (jobs : Collection JobRecord) (user : Option String) (page : Nat) : Pager :=
  { Pager.ofJobs jobs with user, page }

/-- **What is offered.** Whatever the jobs, the user and the page: the hints under a page of the
user's jobs name its neighbours if it exists, and otherwise lead astray. -/
theorem offers_opened (jobs : Collection JobRecord) (user : Option String) (page : Nat)
    (hword : page ≤ greatestWord) (hfits : jobs.size ≤ greatestWord) :
    Offers (opened jobs user page) := by
  have hd : (opened jobs user page).Derived := ⟨rfl, rfl⟩
  refine offers hd hword fun group hg => ?_
  exact (Grouping.size_le (hd.mem_groups hg).1).trans hfits

/-- One job more than two pages of bob's hold, highest ID first. -/
def bobsThreePages : Collection JobRecord :=
  ⟨(List.range 201).map fun n =>
    { (default : JobRecord) with id := ⟨toString (201 - n)⟩, user := "bob" }⟩

/-- On the second of three pages the first and the third are offered. -/
theorem offers_opened_middle_page :
    2 ≤ greatestWord ∧ bobsThreePages.size ≤ greatestWord ∧
      (opened bobsThreePages (some "bob") 2).totalPages = 3 ∧
      pageHints (opened bobsThreePages (some "bob") 2).view = ["--page 1", "--page 3"] := by
  have hword : 2 ≤ greatestWord := by decide
  have hfits : bobsThreePages.size ≤ greatestWord := by decide +kernel
  have htotal : (opened bobsThreePages (some "bob") 2).totalPages = 3 := by decide +kernel
  have hle : 2 ≤ (opened bobsThreePages (some "bob") 2).totalPages := htotal ▸ by decide
  have hhints := (offers_opened bobsThreePages (some "bob") 2 hword hfits).complete (by decide) hle
  rw [htotal] at hhints
  exact ⟨hword, hfits, htotal, hhints⟩

/-- On page five of one, pages four and six are offered. -/
theorem pageHints_beyond_end :
    let view := (opened Pager.bobsJob (some "bob") 5).view
    view.totalPages = 1 ∧ pageHints view = ["--page 4", "--page 6"] ∧
      ¬ ∀ hint ∈ pageHints view, NamesNeighbour view hint := by
  intro view
  have htotal : view.totalPages = 1 := by decide
  have hhints : pageHints view = [pageOption 4, pageOption 6] := by decide
  refine ⟨htotal, hhints, fun h => ?_⟩
  rw [hhints] at h
  have hsix := namesNeighbour_pageOption_iff.mp (h _ (List.mem_cons_of_mem _ List.mem_cons_self))
  rw [htotal, mem_neighbours] at hsix
  omega

end ClusterBoard.Terminal
