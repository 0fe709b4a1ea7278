import Mathlib
import ClusterBoard.Proofs.Record.JobReading

/-!
# The fields of a job and their defaults

`FollowsTable` says what each field of a job record is, `Faulty` which fields cannot be read. The
defects name exactly the faulty fields, so no default is taken silently and no fault hides another
(`JobRecord.ofJson_follows_table`).
-/

namespace ClusterBoard.JobRecord

/-! ## The table -/

/-- What the fields of a record are. -/
structure FollowsTable (job : JobRecord) (value : Json) : Prop where
  user_of_name : ∀ name, value.Leads userPath (.string name) → name ≠ "" → job.user = name
  user_otherwise : (∀ name, value.Leads userPath (.string name) → name = "") →
    job.user = "Unknown"
  spec_iff : ∀ raw, job.spec = some raw ↔ value.Leads specPath raw
  state_running_iff : job.state = .running ↔ value.Leads statePath (.string "RUNNING")
  state_removed_iff : job.state = .removed ↔
    ∀ raw, value.Leads statePath raw → raw = .null ∨ raw = .string "REMOVED"
  state_other_iff : ∀ text, job.state = .other text ↔ ∃ raw, value.Leads statePath raw ∧
    raw.inWords? = some text ∧ raw ≠ .string "RUNNING" ∧ raw ≠ .string "REMOVED"
  snapshots_empty_iff : job.snapshots = .empty ↔
    value.Leads snapshotsPath .null ∨ value.Leads snapshotsPath (.object [])
  /-- One entry for each key, in order. -/
  snapshots_nodes_iff : ∀ entries, job.snapshots = .nodes entries ↔
    ∃ fields, value.Leads snapshotsPath (.object fields) ∧ fields ≠ [] ∧
      (∀ field ∈ fields, field.2.isObject = true) ∧
      entries = fields.map fun field => (field.1, namesOf field.2)
  snapshots_unavailable_iff : job.snapshots = .unavailable ↔ ¬ SnapshotsReadable value
  nodeCount_of_nodes : ∀ fields, value.Leads snapshotsPath (.object fields) →
    (∀ field ∈ fields, field.2.isObject = true) → job.nodeCount = fields.length
  nodeCount_otherwise : (∀ fields, value.Leads snapshotsPath (.object fields) →
    ∃ field ∈ fields, field.2.isObject = false) → job.nodeCount = 0
  history_iff : ∀ raw, job.history = some raw ↔ value.Leads historyPath raw

/-- Every field can be read, and so can every name in the snapshots. -/
structure WellFormed (value : Json) : Prop where
  user : ∃ name, value.Leads userPath (.string name) ∧ name ≠ ""
  spec : ∃ raw, value.Leads specPath raw
  state : ∃ raw, value.Leads statePath raw ∧ raw ≠ .null
  snapshots : SnapshotsReadable value
  names : ∀ fields, value.Leads snapshotsPath (.object fields) → ∀ field ∈ fields,
    ∀ key ∈ NodeSnapshot.keys, ∀ name, field.2.get? key = some name →
      name = .null ∨ ∃ text, name = .string text
  history : ∃ raw, value.Leads historyPath raw

/-- The fields that cannot be read, by the name under which they are reported. -/
inductive Faulty (value : Json) : String → Prop
  | user (h : ¬ ∃ name, value.Leads userPath (.string name) ∧ name ≠ "") :
      Faulty value "spec.userName"
  | spec (h : ¬ ∃ raw, value.Leads specPath raw) : Faulty value "spec"
  | state (h : ¬ ∃ raw, value.Leads statePath raw ∧ raw ≠ .null) :
      Faulty value "status.slurmJobRunCurrentStatus.state"
  | snapshots (h : ¬ SnapshotsReadable value) :
      Faulty value "status.slurmJobRunCurrentStatus.physicalNodeSnapshots"
  | name (fields : Json.Fields) (h : value.Leads snapshotsPath (.object fields))
      (hall : ∀ field ∈ fields, field.2.isObject = true) (field : String × Json)
      (hfield : field ∈ fields) (key : String) (hkey : key ∈ NodeSnapshot.keys) (name : Json)
      (hname : field.2.get? key = some name) (hnull : name ≠ .null)
      (hstring : ∀ text, name ≠ .string text) : Faulty value ("physicalNodeSnapshots.*." ++ key)
  | history (h : ¬ ∃ raw, value.Leads historyPath raw) :
      Faulty value "status.slurmJobRunStatusHistory"

section Table

variable {value : Json} {outcome : Except Defect NodeSnapshots} {added : List Defect}

theorem wellFormed_iff : WellFormed value ↔ ∀ field, ¬ Faulty value field := by
  constructor
  · intro h field hfaulty
    cases hfaulty with
    | user hno => exact hno h.user
    | spec hno => exact hno h.spec
    | state hno => exact hno h.state
    | snapshots hno => exact hno h.snapshots
    | name fields hleads hall field hfield key hkey name hname hnull hstring =>
      rcases h.names fields hleads field hfield key hkey name hname with rfl | ⟨text, rfl⟩
      · exact hnull rfl
      · exact hstring text rfl
    | history hno => exact hno h.history
  · intro h
    have hsnapshots : SnapshotsReadable value := by_contra fun hno => h _ (.snapshots hno)
    constructor
    case user => exact by_contra fun hno => h _ (.user hno)
    case spec => exact by_contra fun hno => h _ (.spec hno)
    case state => exact by_contra fun hno => h _ (.state hno)
    case snapshots => exact hsnapshots
    case names =>
      intro fields hleads field hfield key hkey name hname
      by_contra hno
      obtain ⟨hnull, hstring⟩ := not_or.mp hno
      rcases (snapshotsReadable_iff_of_leads hleads).mp hsnapshots with hnone | ⟨read, hread, hall⟩
      · cases hnone
      · obtain rfl := Json.object.inj hread
        exact h _ (.name fields hleads hall field hfield key hkey name hname hnull
          (not_exists.mp hstring))
    case history => exact by_contra fun hno => h _ (.history hno)

theorem named_nameDefects_iff {entry : Json} {key field : String} :
    (∃ defect ∈ nameDefects entry key, defect.field? = some field) ↔
      ∃ name, entry.get? key = some name ∧ name ≠ .null ∧ (∀ text, name ≠ .string text) ∧
        "physicalNodeSnapshots.*." ++ key = field := by
  unfold nameDefects
  cases entry.get? key with
  | none => simp
  | some name => cases name <;> simp [Defect.field?]

theorem named_entryDefects_iff {fields : Json.Fields} {field : String} :
    (∃ defect ∈ entryDefects fields, defect.field? = some field) ↔
      ∃ entry ∈ fields, ∃ key ∈ NodeSnapshot.keys, ∃ name, entry.2.get? key = some name ∧
        name ≠ .null ∧ (∀ text, name ≠ .string text) ∧
          "physicalNodeSnapshots.*." ++ key = field := by
  simp only [← named_nameDefects_iff]
  unfold entryDefects
  constructor
  · rintro ⟨defect, hmem, hfield⟩
    obtain ⟨entry, hentry, hmem⟩ := List.mem_flatMap.mp hmem
    obtain ⟨key, hkey, hmem⟩ := List.mem_flatMap.mp hmem
    exact ⟨entry, hentry, key, hkey, defect, hmem, hfield⟩
  · rintro ⟨entry, hentry, key, hkey, defect, hmem, hfield⟩
    exact ⟨defect, List.mem_flatMap.mpr ⟨entry, hentry, List.mem_flatMap.mpr ⟨key, hkey, hmem⟩⟩,
      hfield⟩

theorem named_added_iff (hs : SnapshotsRead value outcome added) {field : String} :
    (∃ defect ∈ added, defect.field? = some field) ↔ ∃ fields,
      value.Leads snapshotsPath (.object fields) ∧ (∀ field ∈ fields, field.2.isObject = true) ∧
        ∃ entry ∈ fields, ∃ key ∈ NodeSnapshot.keys, ∃ name, entry.2.get? key = some name ∧
          name ≠ .null ∧ (∀ text, name ≠ .string text) ∧
            "physicalNodeSnapshots.*." ++ key = field := by
  cases hs with
  | failed defect hno =>
    refine iff_of_false (by simp) ?_
    rintro ⟨fields, hleads, hall, -⟩
    exact hno (.inr ⟨fields, hleads, hall⟩)
  | empty hleads =>
    refine iff_of_false (by simp) ?_
    rintro ⟨fields, hfields, -, entry, hentry, -⟩
    obtain rfl := fields_eq_nil_of_leads hleads hfields
    exact absurd hentry List.not_mem_nil
  | nodes fields hleads hne hall =>
    rw [named_entryDefects_iff]
    constructor
    · intro h
      exact ⟨fields, hleads, hall, h⟩
    · rintro ⟨other, hother, -, h⟩
      obtain rfl := hleads.unique_object hother
      exact h

theorem exists_outcome_iff (hs : SnapshotsRead value outcome added) :
    (∃ snapshots, outcome = .ok snapshots) ↔ SnapshotsReadable value := by
  cases hs with
  | failed defect hno => exact iff_of_false nofun hno
  | empty hleads =>
    refine iff_of_true ⟨_, rfl⟩ ?_
    rcases hleads with hnull | hempty
    · exact .inl hnull
    · exact .inr ⟨[], hempty, by simp⟩
  | nodes fields hleads hne hall => exact iff_of_true ⟨_, rfl⟩ (.inr ⟨fields, hleads, hall⟩)

/-- The defects of an object name the fields that cannot be read, and no others. -/
theorem named_defects_iff (ho : value.isObject = true) (id : RecordId) (field : String) :
    (∃ defect ∈ (ofJson id value).defects, defect.field? = some field) ↔ Faulty value field := by
  obtain ⟨outcome, added, hadds, hs, hblames⟩ := exists_adds_readSnapshotsInPlace value
  rw [ofJson_of_object ho, ofObject_run id hadds]
  have huser : Blames userField (readUser value) := blames_lookupText ho userField
  have hspec : Blames specField (readSpec value) := blames_lookup ho specField
  have hhistory : Blames historyField (readHistory value) := blames_lookup ho historyField
  simp only [List.mem_append, or_and_right, exists_or, named_defectOf_iff huser,
    named_defectOf_iff hspec, named_defectOf_iff (blames_readState ho), named_added_iff hs,
    named_defectOf_iff (hblames ho), named_defectOf_iff hhistory, readUser_eq_ok_iff,
    readSpec_eq_ok_iff, exists_readState_iff, exists_outcome_iff hs, readHistory_eq_ok_iff]
  constructor
  · rintro (((((⟨h, rfl⟩ | ⟨h, rfl⟩) | ⟨h, rfl⟩) | h) | ⟨h, rfl⟩) | ⟨h, rfl⟩)
    · exact .user h
    · exact .spec h
    · exact .state h
    · obtain ⟨fields, hleads, hall, entry, hentry, key, hkey, name, hname, hnull, hstring, rfl⟩ := h
      exact .name fields hleads hall entry hentry key hkey name hname hnull hstring
    · exact .snapshots h
    · exact .history h
  · intro h
    cases h with
    | user h => exact .inl (.inl (.inl (.inl (.inl ⟨h, rfl⟩))))
    | spec h => exact .inl (.inl (.inl (.inl (.inr ⟨h, rfl⟩))))
    | state h => exact .inl (.inl (.inl (.inr ⟨h, rfl⟩)))
    | name fields hleads hall entry hentry key hkey name hname hnull hstring =>
      exact .inl (.inl (.inr ⟨fields, hleads, hall, entry, hentry, key, hkey, name, hname, hnull,
        hstring, rfl⟩))
    | snapshots h => exact .inl (.inr ⟨h, rfl⟩)
    | history h => exact .inr ⟨h, rfl⟩

theorem exists_field_of_mem_defects (ho : value.isObject = true) (id : RecordId)
    {defect : Defect} (h : defect ∈ (ofJson id value).defects) :
    ∃ field, defect.field? = some field := by
  obtain ⟨outcome, added, hadds, hs, hblames⟩ := exists_adds_readSnapshotsInPlace value
  have hknown : ∀ {α : Type} {field : String} {read : Except Defect α}, Blames field read →
      defect ∈ defectOf read → ∃ field, defect.field? = some field := by
    intro α field read hread hmem
    cases read with
    | ok a => cases hmem
    | error other =>
      obtain rfl := List.mem_singleton.mp hmem
      exact ⟨field, hread _ rfl⟩
  rw [ofJson_of_object ho, ofObject_run id hadds] at h
  simp only [List.mem_append] at h
  rcases h with ((((h | h) | h) | h) | h) | h
  · exact hknown (blames_lookupText ho userField) h
  · exact hknown (blames_lookup ho specField) h
  · exact hknown (blames_readState ho) h
  · cases hs with
    | failed | empty => cases h
    | nodes fields hleads hne hall =>
      obtain ⟨entry, -, h⟩ := List.mem_flatMap.mp h
      obtain ⟨key, -, h⟩ := List.mem_flatMap.mp h
      unfold nameDefects at h
      split at h
      · cases h
      · cases h
      · cases h
      · obtain rfl := List.mem_singleton.mp h
        exact ⟨_, rfl⟩
  · exact hknown (hblames ho) h
  · exact hknown (blames_lookup ho historyField) h

/-- No default is taken silently. -/
theorem defects_eq_nil_iff (id : RecordId) (value : Json) :
    (ofJson id value).defects = [] ↔ value.isObject = true ∧ WellFormed value := by
  cases ho : value.isObject with
  | false =>
    have hdefects : (ofJson id value).defects = [.notAnObject value.kind] := by
      unfold ofJson
      rw [if_neg (Bool.eq_false_iff.mp ho)]
    rw [hdefects]
    exact iff_of_false (List.cons_ne_nil _ _) fun h => Bool.false_ne_true h.1
  | true =>
    simp only [wellFormed_iff, ← named_defects_iff ho id, true_and]
    constructor
    · rintro h field ⟨defect, hmem, -⟩
      rw [h] at hmem
      cases hmem
    · intro h
      refine List.eq_nil_iff_forall_not_mem.mpr fun defect hmem => ?_
      obtain ⟨field, hfield⟩ := exists_field_of_mem_defects ho id hmem
      exact h field ⟨defect, hmem, hfield⟩

/-! ### The fields of the record -/

theorem getD_eq_iff {α : Type} {read : Except Defect α} {default a : α} (hne : a ≠ default) :
    read.toOption.getD default = a ↔ read = .ok a := by
  cases read with
  | ok b => simp [Except.toOption]
  | error defect => simp [Except.toOption, Ne.symm hne]

theorem state_removed_iff : (readState value).toOption.getD .removed = .removed ↔
    ∀ raw, value.Leads statePath raw → raw = .null ∨ raw = .string "REMOVED" := by
  cases hr : readState value with
  | error defect =>
    refine iff_of_true rfl fun raw hleads => .inl (by_contra fun hne => ?_)
    obtain ⟨state, hs⟩ := exists_readState_iff.mpr ⟨raw, hleads, hne⟩
    cases hs.symm.trans hr
  | ok state =>
    obtain ⟨raw, hleads, hs⟩ := readState_eq_ok_iff.mp hr
    constructor
    · rintro rfl other hother
      obtain rfl := hleads.unique hother
      exact .inr (JobState.ofJson?_eq_removed_iff.mp hs)
    · intro h
      rcases h raw hleads with rfl | rfl
      · cases hs
      · exact (Option.some.inj hs).symm

theorem snapshots_empty_iff (hs : SnapshotsRead value outcome added) :
    outcome = .ok .empty ↔
      value.Leads snapshotsPath .null ∨ value.Leads snapshotsPath (.object []) := by
  cases hs with
  | failed defect hno =>
    refine iff_of_false nofun ?_
    rintro (hnull | hempty)
    · exact hno (.inl hnull)
    · exact hno (.inr ⟨[], hempty, by simp⟩)
  | empty hleads => exact iff_of_true rfl hleads
  | nodes fields hleads hne hall =>
    refine iff_of_false nofun ?_
    rintro (hnull | hempty)
    · cases hleads.unique hnull
    · exact hne (hleads.unique_object hempty)

theorem snapshots_nodes_iff (hs : SnapshotsRead value outcome added)
    {entries : List (String × NodeSnapshot)} : outcome = .ok (.nodes entries) ↔
      ∃ fields, value.Leads snapshotsPath (.object fields) ∧ fields ≠ [] ∧
        (∀ field ∈ fields, field.2.isObject = true) ∧
        entries = fields.map fun field => (field.1, namesOf field.2) := by
  cases hs with
  | failed defect hno =>
    refine iff_of_false nofun ?_
    rintro ⟨fields, hleads, -, hall, -⟩
    exact hno (.inr ⟨fields, hleads, hall⟩)
  | empty hleads =>
    refine iff_of_false nofun ?_
    rintro ⟨fields, hfields, hne, -⟩
    exact hne (fields_eq_nil_of_leads hleads hfields)
  | nodes fields hleads hne hall =>
    constructor
    · intro h
      exact ⟨fields, hleads, hne, hall, (NodeSnapshots.nodes.inj (Except.ok.inj h)).symm⟩
    · rintro ⟨other, hother, -, -, rfl⟩
      obtain rfl := hleads.unique_object hother
      rfl

theorem ofJson_followsTable (id : RecordId) (value : Json) :
    (ofJson id value).FollowsTable value := by
  obtain ⟨outcome, added, hadds, hs, -⟩ := exists_adds_readSnapshotsInPlace value
  obtain ⟨defects, heq⟩ := ofJson_eq id hadds hs
  rw [heq]
  constructor
  case user_of_name =>
    intro name hleads hne
    show (readUser value).toOption.getD unknownUser = name
    rw [readUser_eq_ok_iff.mpr ⟨hleads, hne⟩]
    rfl
  case user_otherwise =>
    intro h
    show (readUser value).toOption.getD unknownUser = "Unknown"
    cases hr : readUser value with
    | error defect => rfl
    | ok name =>
      obtain ⟨hleads, hne⟩ := readUser_eq_ok_iff.mp hr
      exact absurd (h name hleads) hne
  case spec_iff => exact fun raw => toOption_eq_some_iff.trans readSpec_eq_ok_iff
  case history_iff => exact fun raw => toOption_eq_some_iff.trans readHistory_eq_ok_iff
  case state_running_iff =>
    have hne : JobState.running ≠ .removed := nofun
    refine (getD_eq_iff hne).trans (readState_eq_ok_iff.trans ?_)
    simp [JobState.ofJson?_eq_running_iff]
  case state_removed_iff => exact state_removed_iff
  case state_other_iff =>
    intro text
    have hne : JobState.other text ≠ .removed := nofun
    refine (getD_eq_iff hne).trans (readState_eq_ok_iff.trans ?_)
    simp only [JobState.ofJson?_eq_other_iff]
  case snapshots_empty_iff =>
    have hne : NodeSnapshots.empty ≠ .unavailable := nofun
    exact (getD_eq_iff hne).trans (snapshots_empty_iff hs)
  case snapshots_nodes_iff =>
    intro entries
    have hne : NodeSnapshots.nodes entries ≠ .unavailable := nofun
    exact (getD_eq_iff hne).trans (snapshots_nodes_iff hs)
  case snapshots_unavailable_iff =>
    rw [← exists_outcome_iff hs]
    cases hs with
    | failed defect hno => exact iff_of_true rfl nofun
    | empty | nodes => exact iff_of_false nofun fun h => h ⟨_, rfl⟩
  case nodeCount_of_nodes =>
    intro fields hfields hall
    cases hs with
    | failed defect hno => exact absurd (.inr ⟨fields, hfields, hall⟩) hno
    | empty hleads =>
      obtain rfl := fields_eq_nil_of_leads hleads hfields
      rfl
    | nodes other hother hne _ =>
      obtain rfl := hfields.unique_object hother
      exact List.length_map _
  case nodeCount_otherwise =>
    intro h
    cases hs with
    | failed | empty => rfl
    | nodes fields hleads hne hall =>
      obtain ⟨field, hmem, hno⟩ := h fields hleads
      exact absurd (hall field hmem) (by simp [hno])

/-- A snapshot map that cannot be read leaves the defects found before as they are. -/
theorem readSnapshotsInPlace_of_error {found : List Defect} {defect : Defect}
    (h : ((readSnapshotsInPlace value).run found).1 = .error defect) :
    ((readSnapshotsInPlace value).run found).2 = found := by
  obtain ⟨outcome, added, hadds, hs, -⟩ := exists_adds_readSnapshotsInPlace value
  rw [hadds found] at h ⊢
  cases hs with
  | failed | empty => exact List.append_nil found
  | nodes fields hleads hne hall => cases h

end Table

/-- **Every field is read on its own.** Whatever the value, each field is what the table says; the
defects of an object name exactly the fields that cannot be read, so there is none where all can;
and a snapshot map that cannot be read leaves the defects found before as they are. -/
theorem ofJson_follows_table (id : RecordId) (value : Json) :
    (ofJson id value).FollowsTable value ∧
    ((ofJson id value).defects = [] ↔ value.isObject = true ∧ WellFormed value) ∧
    (value.isObject = true → ∀ field,
      (∃ defect ∈ (ofJson id value).defects, defect.field? = some field) ↔ Faulty value field) ∧
    ∀ found defect, ((readSnapshotsInPlace value).run found).1 = .error defect →
      ((readSnapshotsInPlace value).run found).2 = found :=
  ⟨ofJson_followsTable id value, defects_eq_nil_iff id value, fun ho => named_defects_iff ho id,
    fun _ _ => readSnapshotsInPlace_of_error⟩

/-- A job whose owner is a number, and whose second node is no object. -/
def numberedOwner : Json :=
  .object [("spec", .object [("userName", .ofNat 7)]),
    ("status", .object [("slurmJobRunCurrentStatus", .object
      [("physicalNodeSnapshots", .object
        [("n1", .object [("slurmNodeName", .ofNat 3)]), ("n2", .null)])])])]

/-- Neither fault hides the other, and the name of the first node is not reported. -/
theorem ofJson_follows_table_numbered_owner :
    numberedOwner.isObject = true ∧
    (∃ defect ∈ (ofJson ⟨"1"⟩ numberedOwner).defects, defect.field? = some "spec.userName") ∧
    ∃ defect, ((readSnapshotsInPlace numberedOwner).run [.missing "id"]).1 = .error defect ∧
      ((readSnapshotsInPlace numberedOwner).run [.missing "id"]).2 = [.missing "id"] := by
  have ho : numberedOwner.isObject = true := rfl
  obtain ⟨-, -, hnamed, huntouched⟩ := ofJson_follows_table ⟨"1"⟩ numberedOwner
  have hleads : numberedOwner.Leads userPath (.ofNat 7) :=
    .step rfl (.step rfl (.here _))
  have huser : Faulty numberedOwner "spec.userName" := by
    refine .user ?_
    rintro ⟨name, hname, -⟩
    cases hleads.unique hname
  have herror : ((readSnapshotsInPlace numberedOwner).run [.missing "id"]).1 =
      .error (.wrongType snapshotsField "a map of node snapshots" "null") := rfl
  exact ⟨ho, (hnamed ho _).mpr huser, _, herror, huntouched _ _ herror⟩

end ClusterBoard.JobRecord
