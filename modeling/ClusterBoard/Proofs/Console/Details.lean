import Mathlib
import ClusterBoard.Proofs.Console.Runs

/-!
# Open details

The details show the record of the selected row, and that row is a place in the table of the current
tab. Keys, and what is fetched for the other tab, leave the record alone. A load of the tab keeps
the place as far as there are rows, and not the record (`App.details_keep_place`): the details close
where no row is left, and otherwise show whatever stands at the place now
(`App.details_change_record`).
-/

namespace ClusterBoard.Console

/-- The tab whose records an event brings. -/
def Event.loads? : Event → Option Tab
  | .data (.jobsLoaded _ _ _) => some .jobs
  | .data (.nodesLoaded _ _) => some .nodes
  | _ => none

/-- Whether an event is a key that closes an overlay. -/
def Event.closes (overlay : Overlay) : Event → Bool
  | .input (.key press) => App.closes overlay (.ofKeyPress press)
  | _ => false

/-- What brings records is no key. -/
theorem Event.closes_of_loads? {event : Event} {tab : Tab} {overlay : Overlay}
    (h : event.loads? = some tab) : event.closes overlay = false := by
  cases event with
  | input event => cases h
  | data event => rfl

/-- The place that a load starts from; jobs that the operator asked for begin at the top. -/
def Event.placeFrom (place : Nat) : Event → Nat
  | .data (.jobsLoaded _ _ false) => Selection.top
  | _ => place

theorem JobsTab.load_selected (tab : JobsTab) (jobs : Collection JobRecord) (fetchedAt : Int)
    (background : Bool) : (tab.load jobs fetchedAt background).selected =
      Selection.clamp (tab.load jobs fetchedAt background).page.rows.length
        (if background then tab.selected else Selection.top) := by
  cases background <;> rfl

theorem JobsTab.Sound.length_rows {tab : JobsTab} (h : tab.Sound) :
    tab.page.rows.length = tab.pager.shownJobs.length := by
  have hlength := congrArg List.length h.rows_eq
  rwa [List.length_map, List.length_map] at hlength

namespace App

/-- The IDs of the records in the current tab's table. -/
def shownIds (app : App) : List RecordId :=
  match app.tab with
  | .jobs => app.jobs.pager.shownJobs.map JobRecord.id
  | .nodes => app.nodes.nodes.records.map NodeRecord.id

/-- The place of the current tab's selected row. -/
def place (app : App) : Nat :=
  match app.tab with
  | .jobs => app.jobs.selected
  | .nodes => app.nodes.selected

/-- The ID of the current tab's selected record. -/
def selectedId? (app : App) : Option RecordId :=
  match app.tab with
  | .jobs => app.jobs.selectedJob?.map JobRecord.id
  | .nodes => app.nodes.selectedNode?.map NodeRecord.id

section Place

variable {app : App} {tab : Tab}

theorem hasSelection_eq (app : App) : app.hasSelection = app.selectedId?.isSome := by
  unfold hasSelection selectedId?
  cases app.tab with
  | jobs => exact Option.isSome_map.symm
  | nodes => exact Option.isSome_map.symm

/-- The selected record is the one at the place. -/
theorem selectedId?_eq (hj : app.jobs.Sound) (hn : app.nodes.Sound) :
    app.selectedId? = app.shownIds[app.place]? := by
  unfold selectedId? shownIds place
  cases app.tab with
  | jobs =>
    show app.jobs.selectedJob?.map JobRecord.id = _
    rw [hj.selectedJob?_id, hj.selectedRow?_id, List.getElem?_map]
  | nodes =>
    show app.nodes.selectedNode?.map NodeRecord.id = _
    rw [hn.selectedNode?_id, hn.selectedRow?_id, List.getElem?_map]

theorem place_lt (hj : app.jobs.Sound) (hn : app.nodes.Sound) :
    app.place < max 1 app.shownIds.length := by
  unfold place shownIds
  cases app.tab with
  | jobs =>
    show app.jobs.selected < max 1 (app.jobs.pager.shownJobs.map JobRecord.id).length
    rw [List.length_map, ← hj.length_rows]
    exact hj.selected_lt
  | nodes =>
    have hlt := hn.selected_lt
    rw [hn.table_eq] at hlt
    simpa [NodeTable.ofNodes] using hlt

theorem hasSelection_eq_false_iff (hj : app.jobs.Sound) (hn : app.nodes.Sound) :
    app.hasSelection = false ↔ app.shownIds = [] := by
  rw [hasSelection_eq, selectedId?_eq hj hn, ← Bool.not_eq_true,
    Selection.getElem?_isSome_iff (place_lt hj hn), not_not]

theorem closeStaleDetail_of_other (ht : app.tab ≠ tab) : app.closeStaleDetail tab = app := by
  unfold closeStaleDetail
  rw [if_neg fun h => ht h.2.1]

/-- After a load of the current tab the details are closed where no row is left. -/
theorem closeStaleDetail_of_current (hj : app.jobs.Sound) (hn : app.nodes.Sound)
    (hd : app.overlay = .detail) (ht : app.tab = tab) : app.closeStaleDetail tab =
      { app with overlay := if app.shownIds = [] then .none else .detail } := by
  unfold closeStaleDetail
  by_cases hs : app.shownIds = []
  · rw [if_pos ⟨hd, ht, (hasSelection_eq_false_iff hj hn).mpr hs⟩, if_pos hs]
  · rw [if_neg fun h => hs ((hasSelection_eq_false_iff hj hn).mp h.2.2), if_neg hs, ← hd]

end Place

/-! ## One step -/

/-- What becomes of open details when an event leads from `app` to `next`. -/
structure KeepsPlace (app : App) (event : Event) (next : App) : Prop where
  tab_eq : next.tab = app.tab
  /-- They are closed by a key, and by a load of their tab that leaves no rows; by nothing else. -/
  overlay_eq : next.overlay =
    if event.closes .detail ∨ event.loads? = some app.tab ∧ next.shownIds = [] then .none
    else .detail
  /-- Only a load of their tab touches the record. -/
  record_eq : event.loads? ≠ some app.tab → next.selectedId? = app.selectedId?
  /-- After such a load the record is the one at the place, or the last one. -/
  place_eq : event.loads? = some app.tab → next.selectedId? =
    next.shownIds[Selection.clamp next.shownIds.length (event.placeFrom app.place)]?

variable {app : App} {now : Int}

/-- What touches neither the tabs nor the overlay keeps the details. -/
theorem keepsPlace_of_eq {event : Event} {next : App} (hd : app.overlay = .detail)
    (hl : event.loads? ≠ some app.tab) (hc : event.closes .detail = false)
    (ht : next.tab = app.tab) (ho : next.overlay = app.overlay)
    (hs : next.selectedId? = app.selectedId?) : app.KeepsPlace event next where
  tab_eq := ht
  overlay_eq := by
    rw [ho, hd, if_neg]
    rintro (h | h)
    · exact Bool.false_ne_true (hc.symm.trans h)
    · exact hl h.1
  record_eq _ := hs
  place_eq h := absurd h hl

theorem keepsPlace_key (hd : app.overlay = .detail) (press : KeyPress) :
    app.KeepsPlace (.input (.key press)) (app.handle now (.input (.key press))).1 := by
  have hopen : app.overlay ≠ .none := by
    rw [hd]
    decide
  show app.KeepsPlace _ (app.handleAction now (.ofKeyPress press)).1
  rw [handleAction_of_open hopen, hd]
  cases hc : closes .detail (.ofKeyPress press) with
  | false => exact keepsPlace_of_eq hd nofun hc rfl rfl rfl
  | true =>
    constructor
    case tab_eq => rfl
    case overlay_eq => exact (if_pos (Or.inl hc)).symm
    case record_eq => exact fun _ => rfl
    case place_eq => nofun

/-- A load touches the record only in its own tab, where it leaves the place in the table. -/
theorem keepsPlace_of_load {event : Event} {tab : Tab} {loaded : App} (hd : app.overlay = .detail)
    (hl : event.loads? = some tab) (hc : event.closes .detail = false)
    (hj : loaded.jobs.Sound) (hn : loaded.nodes.Sound) (ht : loaded.tab = app.tab)
    (ho : loaded.overlay = app.overlay)
    (hother : app.tab ≠ tab → loaded.selectedId? = app.selectedId?)
    (hplace : app.tab = tab →
      loaded.place = Selection.clamp loaded.shownIds.length (event.placeFrom app.place)) :
    app.KeepsPlace event (loaded.closeStaleDetail tab) := by
  -- The details are those of the current tab, so a load of the other one finds nothing to close.
  by_cases htab : app.tab = tab
  · rw [closeStaleDetail_of_current hj hn (ho.trans hd) (ht.trans htab)]
    constructor
    case tab_eq => exact ht
    case overlay_eq =>
      show (if loaded.shownIds = [] then Overlay.none else .detail) =
        if event.closes .detail ∨ event.loads? = some app.tab ∧ loaded.shownIds = [] then .none
        else .detail
      simp [hc, hl, htab]
    case record_eq => exact fun h => absurd (htab ▸ hl) h
    case place_eq =>
      intro _
      show loaded.selectedId? =
        loaded.shownIds[Selection.clamp loaded.shownIds.length (event.placeFrom app.place)]?
      rw [selectedId?_eq hj hn, hplace htab]
  · rw [closeStaleDetail_of_other (ht ▸ htab)]
    refine keepsPlace_of_eq hd (fun h => ?_) hc ht ho (hother htab)
    exact htab (Option.some.inj (h.symm.trans hl))

theorem keepsPlace_jobsLoaded (h : app.Consistent) (hd : app.overlay = .detail)
    (jobs : Collection JobRecord) (fetchedAt : Int) (background : Bool) :
    app.KeepsPlace (.data (.jobsLoaded jobs fetchedAt background))
      (app.handle now (.data (.jobsLoaded jobs fetchedAt background))).1 := by
  have hj := h.jobs.load jobs fetchedAt background
  refine keepsPlace_of_load hd rfl rfl hj h.nodes rfl rfl (fun htab => ?_) fun htab => ?_
  · unfold selectedId?
    cases ht : app.tab with
    | jobs => exact absurd ht htab
    | nodes => rfl
  · unfold place shownIds
    simp only [htab, List.length_map]
    rw [JobsTab.load_selected, ← hj.length_rows]
    cases background <;> rfl

theorem keepsPlace_nodesLoaded (h : app.Consistent) (hd : app.overlay = .detail)
    (nodes : Collection NodeRecord) (fetchedAt : Int) :
    app.KeepsPlace (.data (.nodesLoaded nodes fetchedAt))
      (app.handle now (.data (.nodesLoaded nodes fetchedAt))).1 := by
  have hn := NodesTab.sound_load app.nodes nodes fetchedAt
  refine keepsPlace_of_load hd rfl rfl h.jobs hn rfl rfl (fun htab => ?_) fun htab => ?_
  · unfold selectedId?
    cases ht : app.tab with
    | jobs => rfl
    | nodes => exact absurd ht htab
  · unfold place shownIds
    simp only [htab, List.length_map]
    show Selection.clamp (NodeTable.ofNodes nodes).rows.length app.nodes.selected =
      Selection.clamp nodes.records.length app.nodes.selected
    rw [NodeTable.ofNodes, List.length_map]

theorem Consistent.keepsPlace (h : app.Consistent) (hd : app.overlay = .detail) (now : Int)
    (event : Event) : app.KeepsPlace event (app.handle now event).1 := by
  cases event with
  | input event =>
    cases event with
    | key press => exact keepsPlace_key hd press
    | resize => exact keepsPlace_of_eq hd nofun rfl rfl rfl rfl
  | data event =>
    cases event with
    | jobsLoaded jobs fetchedAt background => exact keepsPlace_jobsLoaded h hd _ _ _
    | nodesLoaded nodes fetchedAt => exact keepsPlace_nodesLoaded h hd _ _
    | fetchFailed source error => exact keepsPlace_of_eq hd nofun rfl rfl rfl rfl

/-- The details are closed or keep their record, except after a load of their tab that leaves rows
with another record at the place. -/
theorem KeepsPlace.closed_or_same_iff {event : Event} {next : App}
    (h : app.KeepsPlace event next) :
    next.overlay = .none ∨ next.selectedId? = app.selectedId? ↔
      (event.loads? = some app.tab → next.shownIds = [] ∨ next.shownIds[Selection.clamp
        next.shownIds.length (event.placeFrom app.place)]? = app.selectedId?) := by
  by_cases hl : event.loads? = some app.tab
  · by_cases hrows : next.shownIds = []
    · have ho : next.overlay = .none := by rw [h.overlay_eq, if_pos (Or.inr ⟨hl, hrows⟩)]
      exact iff_of_true (.inl ho) fun _ => .inl hrows
    · have ho : next.overlay = .detail := by
        rw [h.overlay_eq, if_neg]
        rintro (hc | hempty)
        · exact Bool.false_ne_true ((Event.closes_of_loads? hl).symm.trans hc)
        · exact hrows hempty.2
      rw [ho, h.place_eq hl]
      simp [hl, hrows]
  · exact iff_of_true (.inr (h.record_eq hl)) fun hload => absurd hload hl

/-! ## The theorem -/

/-- **Open details keep their place.** Whatever happens while they are open, in every run: the
record changes only with a load of their tab, and then it is the one at the place now. -/
theorem details_keep_place (settings : Settings) (warnings : List String) (client : Web.Client)
    (scope : Web.JobScope) (happenings : List Happening)
    (hd : ((initial settings warnings client scope).after happenings).overlay = .detail)
    (now : Int) (event : Event) :
    let app := (initial settings warnings client scope).after happenings
    let next := (app.handle now event).1
    app.KeepsPlace event next ∧
      (next.overlay = .none ∨ next.selectedId? = app.selectedId? ↔
        (event.loads? = some app.tab → next.shownIds = [] ∨ next.shownIds[Selection.clamp
          next.shownIds.length (event.placeFrom app.place)]? = app.selectedId?)) := by
  intro app next
  have h := (consistent_initial settings warnings client scope).after happenings
  have hk := h.keepsPlace hd now event
  exact ⟨hk, hk.closed_or_same_iff⟩

/-- The nodes of an object are fetched. -/
def nodesFetched (fields : Json.Fields) : Event :=
  .data (.nodesLoaded (.ofRecords (Collection.decoded NodeRecord fields)) 0)

/-- Two nodes. -/
def twoNodes : Json.Fields := [("2", .object []), ("1", .object [])]

/-- Both nodes are fetched, and the details of the first one opened. -/
def openingFirst : List Happening :=
  [.event 0 (.input (.key ⟨.char '2', false, false, false⟩)), .event 0 (nodesFetched twoNodes),
    .event 0 (.input (.key ⟨.enter, false, false, false⟩))]

theorem records_twoNodes : Collection.ofRecords (Collection.decoded NodeRecord twoNodes) =
    ⟨Collection.decoded NodeRecord twoNodes⟩ :=
  Collection.ofRecords_of_descending (by decide)

/-- Fetched again, the same nodes keep the record. -/
theorem details_keep_place_two_nodes :
    let app := (initial .standard [] default .active).after openingFirst
    app.overlay = .detail ∧ app.selectedId? = some ⟨"2"⟩ ∧
      (app.handle 0 (nodesFetched twoNodes)).1.selectedId? = some ⟨"2"⟩ := by
  have hd : ((initial .standard [] default .active).after openingFirst).overlay = .detail := by
    unfold openingFirst nodesFetched
    rw [records_twoNodes]
    decide +kernel
  have hid : ((initial .standard [] default .active).after openingFirst).selectedId? =
      some ⟨"2"⟩ := by
    unfold openingFirst nodesFetched
    rw [records_twoNodes]
    decide +kernel
  have hplace := (details_keep_place .standard [] default .active openingFirst hd 0
    (nodesFetched twoNodes)).1.place_eq
  refine ⟨hd, hid, (hplace ?_).trans ?_⟩
  all_goals
    unfold openingFirst nodesFetched
    rw [records_twoNodes]
    decide +kernel

/-- When the first node is gone the details stay open, on the other node. -/
theorem details_change_record :
    let app := (initial .standard [] default .active).after openingFirst
    let next := (app.handle 0 (nodesFetched [("1", .object [])])).1
    app.overlay = .detail ∧ app.selectedId? = some ⟨"2"⟩ ∧ next.nodes.nodes.find? "2" = none ∧
      next.overlay = .detail ∧ next.selectedId? = some ⟨"1"⟩ := by
  have hone : Collection.ofRecords (Collection.decoded NodeRecord [("1", .object [])]) =
      ⟨Collection.decoded NodeRecord [("1", .object [])]⟩ :=
    congrArg Collection.mk (List.mergeSort_singleton _)
  unfold openingFirst nodesFetched
  rw [records_twoNodes, hone]
  decide +kernel

end App

end ClusterBoard.Console
