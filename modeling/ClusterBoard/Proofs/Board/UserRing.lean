import Mathlib
import ClusterBoard.Console.View.Jobs
import ClusterBoard.Page.Document
import ClusterBoard.Proofs.Board.Navigation
import ClusterBoard.Terminal.Listing

/-!
# Going round the users

Every user has one entry in the navigation, so a user's name stands for one place (`position?_eq`),
and the next user is the one at the next place, round the end (`iterate_nextUser?`). As many steps
as there are users go through a rotation of the list (`map_iterate_nextUser?`): every user is met
once, and the last step leads back. For the same reason only one selector can be marked.
-/

namespace ClusterBoard

variable {nav : Navigation} {user : String} {current : Option String} {place : Nat}

namespace Navigation

/-- The users, in order. -/
def users (nav : Navigation) : List String := nav.entries.map NavEntry.user

theorem nodup_users (jobs : Collection JobRecord) : (ofGrouping (.ofJobs jobs)).users.Nodup := by
  have hperm := (entries_perm (.ofJobs jobs)).map NavEntry.user
  rw [List.map_map] at hperm
  exact hperm.nodup_iff.mpr (Grouping.ofJobs_covers jobs).distinct

theorem length_users (nav : Navigation) : nav.users.length = nav.entries.length :=
  List.length_map NavEntry.user

theorem userAt?_eq (nav : Navigation) (place : Nat) : nav.userAt? place = nav.users[place]? :=
  List.getElem?_map.symm

/-! ## Places -/

theorem position?_eq_none_iff : nav.position? user = none ↔ user ∉ nav.users := by
  unfold position? users
  simp

theorem position?_eq (hd : nav.users.Nodup) (h : nav.users[place]? = some user) :
    nav.position? user = some place := by
  cases hp : nav.position? user with
  | none => exact absurd (List.mem_of_getElem? h) (position?_eq_none_iff.mp hp)
  | some found =>
    obtain ⟨hlt, hfound, -⟩ := List.findIdx?_eq_some_iff_getElem.mp hp
    have huser : nav.users[found]? = some user := by
      rw [← userAt?_eq, userAt?, List.getElem?_eq_getElem hlt]
      simpa using hfound
    obtain ⟨hplace, hget⟩ := List.getElem?_eq_some_iff.mp h
    obtain ⟨hplace', hget'⟩ := List.getElem?_eq_some_iff.mp huser
    exact congrArg some (hd.getElem_inj_iff.mp (hget'.trans hget.symm))

theorem nextUser?_eq (hd : nav.users.Nodup) (h : nav.users[place]? = some user) :
    nav.nextUser? (some user) = nav.users[(place + 1) % nav.users.length]? := by
  unfold nextUser?
  rw [Option.bind_some, position?_eq hd h, length_users]
  exact userAt?_eq nav _

theorem previousUser?_eq (hd : nav.users.Nodup) (h : nav.users[place]? = some user) :
    nav.previousUser? (some user) =
      nav.users[(place + nav.users.length - 1) % nav.users.length]? := by
  unfold previousUser?
  rw [Option.bind_some, position?_eq hd h, length_users]
  exact userAt?_eq nav _

theorem bind_position?_of_unlisted (h : ∀ user ∈ nav.users, current ≠ some user) :
    current.bind nav.position? = none := by
  cases current with
  | none => rfl
  | some user => exact position?_eq_none_iff.mpr fun hu => h user hu rfl

theorem nextUser?_of_unlisted (h : ∀ user ∈ nav.users, current ≠ some user) :
    nav.nextUser? current = nav.users.head? := by
  unfold nextUser?
  rw [bind_position?_of_unlisted h, List.head?_eq_getElem?]
  exact userAt?_eq nav 0

theorem previousUser?_of_unlisted (h : ∀ user ∈ nav.users, current ≠ some user) :
    nav.previousUser? current = nav.users.getLast? := by
  unfold previousUser?
  rw [bind_position?_of_unlisted h, List.getLast?_eq_getElem?, length_users]
  exact userAt?_eq nav _

/-! ## Steps -/

theorem previousUser?_nextUser? (hd : nav.users.Nodup) (hu : user ∈ nav.users) :
    nav.previousUser? (nav.nextUser? (some user)) = some user := by
  obtain ⟨place, h⟩ := List.mem_iff_getElem?.mp hu
  have hlt := (List.getElem?_eq_some_iff.mp h).1
  have hnext : (place + 1) % nav.users.length < nav.users.length := Nat.mod_lt _ (by omega)
  have hback : ((place + 1) % nav.users.length + nav.users.length - 1) % nav.users.length =
      place := by
    rw [Nat.add_sub_assoc (by omega), Nat.mod_add_mod,
      show place + 1 + (nav.users.length - 1) = place + nav.users.length by omega,
      Nat.add_mod_right, Nat.mod_eq_of_lt hlt]
  rw [nextUser?_eq hd h, List.getElem?_eq_getElem hnext,
    previousUser?_eq hd (List.getElem?_eq_getElem hnext), hback, h]

theorem nextUser?_previousUser? (hd : nav.users.Nodup) (hu : user ∈ nav.users) :
    nav.nextUser? (nav.previousUser? (some user)) = some user := by
  obtain ⟨place, h⟩ := List.mem_iff_getElem?.mp hu
  have hlt := (List.getElem?_eq_some_iff.mp h).1
  have hprev : (place + nav.users.length - 1) % nav.users.length < nav.users.length :=
    Nat.mod_lt _ (by omega)
  have hback : ((place + nav.users.length - 1) % nav.users.length + 1) % nav.users.length =
      place := by
    rw [Nat.mod_add_mod, Nat.sub_add_cancel (by omega), Nat.add_mod_right, Nat.mod_eq_of_lt hlt]
  rw [previousUser?_eq hd h, List.getElem?_eq_getElem hprev,
    nextUser?_eq hd (List.getElem?_eq_getElem hprev), hback, h]

/-- Each step leads to the next place, round the end. -/
theorem iterate_nextUser? (hd : nav.users.Nodup) (h : nav.users[place]? = some user) (steps : Nat) :
    nav.nextUser?^[steps] (some user) = nav.users[(place + steps) % nav.users.length]? := by
  have hlt := (List.getElem?_eq_some_iff.mp h).1
  induction steps with
  | zero => rw [Nat.add_zero, Nat.mod_eq_of_lt hlt, h, Function.iterate_zero_apply]
  | succ steps ih =>
    have hnext : (place + steps) % nav.users.length < nav.users.length := Nat.mod_lt _ (by omega)
    rw [Function.iterate_succ_apply', ih, List.getElem?_eq_getElem hnext,
      nextUser?_eq hd (List.getElem?_eq_getElem hnext), Nat.mod_add_mod, Nat.add_assoc]

/-- The users met in a round are a rotation of the list. -/
theorem map_iterate_nextUser? (hd : nav.users.Nodup) (h : nav.users[place]? = some user) :
    ((List.range nav.users.length).map fun steps => nav.nextUser?^[steps + 1] (some user)) =
      (nav.users.rotate (place + 1)).map some := by
  refine List.ext_getElem (by simp) fun steps hs hs' => ?_
  have hsteps : steps < nav.users.length := by simpa using hs
  rw [List.getElem_map, List.getElem_range, iterate_nextUser? hd h, List.getElem_map,
    List.getElem_rotate, List.getElem?_eq_getElem (Nat.mod_lt _ (by omega))]
  congr 3
  omega

/-- The users stand in a ring: `nextUser?` and `previousUser?` lead round it, and into it at its
first and its last place. -/
structure Rings (nav : Navigation) : Prop where
  /-- As many steps as there are users meet every user once. -/
  meets : ∀ user ∈ nav.users,
    ((List.range nav.entries.length).map fun steps =>
      nav.nextUser?^[steps + 1] (some user)).Perm (nav.users.map some)
  returns : ∀ user ∈ nav.users, nav.nextUser?^[nav.entries.length] (some user) = some user
  previous_next : ∀ user ∈ nav.users, nav.previousUser? (nav.nextUser? (some user)) = some user
  next_previous : ∀ user ∈ nav.users, nav.nextUser? (nav.previousUser? (some user)) = some user
  /-- Nobody, or someone who is not listed, is followed by the first user. -/
  enters_first : ∀ current, (∀ user ∈ nav.users, current ≠ some user) →
    nav.nextUser? current = nav.users.head?
  enters_last : ∀ current, (∀ user ∈ nav.users, current ≠ some user) →
    nav.previousUser? current = nav.users.getLast?

theorem rings_of_nodup (hd : nav.users.Nodup) : nav.Rings where
  meets user hu := by
    obtain ⟨place, h⟩ := List.mem_iff_getElem?.mp hu
    rw [← length_users, map_iterate_nextUser? hd h]
    exact (List.rotate_perm nav.users (place + 1)).map some
  returns user hu := by
    obtain ⟨place, h⟩ := List.mem_iff_getElem?.mp hu
    have hlt := (List.getElem?_eq_some_iff.mp h).1
    rw [← length_users, iterate_nextUser? hd h, Nat.add_mod_right, Nat.mod_eq_of_lt hlt, h]
  previous_next _ hu := previousUser?_nextUser? hd hu
  next_previous _ hu := nextUser?_previousUser? hd hu
  enters_first _ h := nextUser?_of_unlisted h
  enters_last _ h := previousUser?_of_unlisted h

/-! ## Marks -/

theorem countP_focused (hd : nav.users.Nodup) (focused : Option String) :
    (nav.entries.countP fun entry => focused = some entry.user) =
      if focused ∈ nav.users.map some then 1 else 0 := by
  have hcount : (nav.entries.countP fun entry => focused = some entry.user) =
      (nav.users.map some).count focused := by
    unfold users
    rw [List.count, List.countP_map, List.countP_map]
    refine List.countP_congr fun entry _ => ?_
    rw [decide_eq_true_eq, Function.comp_apply, Function.comp_apply, beq_iff_eq]
    exact eq_comm
  rw [hcount, (hd.map (Option.some_injective _)).count]

/-- Where each item is written with one mark or none, the marks are counted by the items. -/
theorem countP_flatMap {α β : Type} {isMark : β → Bool} {write : α → List β} {test : α → Bool}
    (h : ∀ x, (write x).countP isMark = if test x then 1 else 0) (xs : List α) :
    (xs.flatMap write).countP isMark = xs.countP test := by
  induction xs with
  | nil => rfl
  | cons x xs ih =>
    rw [List.flatMap_cons, List.countP_append, ih, h, List.countP_cons, Nat.add_comm]

end Navigation

namespace Page

/-- Whether this is the markup of a button that is marked. -/
def isSelectedMark (piece : Piece) : Bool := piece = .markup "\" class=\"selected\">"

theorem countP_navButton (focused : Option String) (entry : NavEntry) :
    (navButton focused entry).countP isSelectedMark =
      if decide (focused = some entry.user) = true then 1 else 0 := by
  unfold navButton
  by_cases h : focused = some entry.user <;> simp [isSelectedMark, h]

theorem countP_navigationRegion (nav : Navigation) (focused : Option String) :
    (navigationRegion nav focused).countP isSelectedMark =
      nav.entries.countP fun entry => focused = some entry.user := by
  unfold navigationRegion
  rw [List.countP_append, List.countP_cons,
    Navigation.countP_flatMap (countP_navButton focused) nav.entries]
  simp [isSelectedMark]

end Page

namespace Console.View

open Screen

theorem countP_usersLine (theme : Theme) (nav : Navigation) (focused : Option String) :
    (usersLine theme nav focused).countP (·.style.bold) =
      nav.entries.countP fun entry => focused = some entry.user := by
  have hentry (entry : NavEntry) : List.countP (·.style.bold)
      [if some entry.user = focused then
        (⟨s!"[{entry.label}]", (Style.ofText theme.highlight).inBold⟩ : Span)
      else ⟨entry.label, .ofText theme.text⟩, .plain "  "] =
        if decide (focused = some entry.user) = true then 1 else 0 := by
    by_cases h : some entry.user = focused
    · simp [← h, Style.inBold, Span.plain, Style.plain]
    · simp [h, Ne.symm h, Style.ofText, Span.plain, Style.plain]
  unfold usersLine
  rw [List.countP_cons, Navigation.countP_flatMap hentry]
  rfl

end Console.View

namespace Navigation

theorem exists_split (hd : nav.users.Nodup) (hu : user ∈ nav.users) :
    ∃ before entry after, nav.entries = before ++ entry :: after ∧ entry.user = user ∧
      ∀ other ∈ before ++ after, other.user ≠ user := by
  obtain ⟨entry, hentry, rfl⟩ := List.mem_map.mp hu
  obtain ⟨before, after, hsplit⟩ := List.append_of_mem hentry
  refine ⟨before, entry, after, hsplit, rfl, fun other hother heq => ?_⟩
  unfold users at hd
  rw [hsplit, List.map_append, List.map_cons, List.nodup_middle, ← List.map_append] at hd
  exact (List.nodup_cons.mp hd).1 (heq ▸ List.mem_map_of_mem hother)

/-- Around the label of the focused user all labels stand as they are. -/
theorem exists_navigationText (hd : nav.users.Nodup) (hu : user ∈ nav.users) :
    ∃ before entry after, nav.entries = before ++ entry :: after ∧ entry.user = user ∧
      Terminal.navigationText nav (some user) = Text.join "  " (before.map NavEntry.label ++
        ("[" ++ Terminal.Paint.cyan.on (Terminal.Paint.bold.on entry.label) ++ "]") ::
          after.map NavEntry.label) := by
  obtain ⟨before, entry, after, hsplit, rfl, hothers⟩ := exists_split hd hu
  have hplain (entries : List NavEntry) (h : entries ⊆ before ++ after) :
      (entries.map fun other => if some entry.user = some other.user then
        "[" ++ Terminal.Paint.cyan.on (Terminal.Paint.bold.on other.label) ++ "]"
      else other.label) = entries.map NavEntry.label :=
    List.map_congr_left fun other hother =>
      if_neg fun heq => hothers other (h hother) (Option.some.inj heq).symm
  refine ⟨before, entry, after, hsplit, rfl, ?_⟩
  unfold Terminal.navigationText
  rw [hsplit, List.map_append, List.map_cons, if_pos rfl,
    hplain before (List.subset_append_left _ _), hplain after (List.subset_append_right _ _)]

theorem navigationText_of_unlisted (h : ∀ user ∈ nav.users, current ≠ some user) :
    Terminal.navigationText nav current = Text.join "  " (nav.entries.map NavEntry.label) := by
  unfold Terminal.navigationText
  refine congrArg (Text.join "  ") (List.map_congr_left fun entry hentry => if_neg ?_)
  exact h entry.user (List.mem_map_of_mem hentry)

/-- A selector is marked exactly if the focused user is listed, and then no other one is. -/
structure Marks (nav : Navigation) (focused : Option String) : Prop where
  entries : (nav.entries.countP fun entry => focused = some entry.user) =
    if focused ∈ nav.users.map some then 1 else 0
  page : (Page.navigationRegion nav focused).countP Page.isSelectedMark =
    if focused ∈ nav.users.map some then 1 else 0
  screen : ∀ theme, (Console.View.usersLine theme nav focused).countP (·.style.bold) =
    if focused ∈ nav.users.map some then 1 else 0
  text_listed : ∀ user ∈ nav.users, focused = some user →
    ∃ before entry after, nav.entries = before ++ entry :: after ∧ entry.user = user ∧
      Terminal.navigationText nav focused = Text.join "  " (before.map NavEntry.label ++
        ("[" ++ Terminal.Paint.cyan.on (Terminal.Paint.bold.on entry.label) ++ "]") ::
          after.map NavEntry.label)
  text_unlisted : (∀ user ∈ nav.users, focused ≠ some user) →
    Terminal.navigationText nav focused = Text.join "  " (nav.entries.map NavEntry.label)

theorem marks_of_nodup (hd : nav.users.Nodup) (focused : Option String) : nav.Marks focused where
  entries := countP_focused hd focused
  page := (Page.countP_navigationRegion nav focused).trans (countP_focused hd focused)
  screen theme :=
    (Console.View.countP_usersLine theme nav focused).trans (countP_focused hd focused)
  text_listed := by
    rintro user hu rfl
    exact exists_navigationText hd hu
  text_unlisted := navigationText_of_unlisted

/-- **A ring of users.** The navigation of any jobs is a ring through which next and previous lead,
and it marks the focused user alone. -/
theorem ofGrouping_rings_marks (jobs : Collection JobRecord) :
    (ofGrouping (.ofJobs jobs)).Rings ∧ ∀ focused, (ofGrouping (.ofJobs jobs)).Marks focused :=
  ⟨rings_of_nodup (nodup_users jobs), marks_of_nodup (nodup_users jobs)⟩

end Navigation

end ClusterBoard
