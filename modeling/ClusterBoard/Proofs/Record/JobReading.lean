import Mathlib
import ClusterBoard.Record.Job
import ClusterBoard.Proofs.Record.Paths

/-!
# Reading a job

A job is read field by field. First comes what each field is read from (`readUser_eq_ok_iff` and the
like), then what reading adds to the defects found so far (`Adds`): a field that cannot be read adds
the one defect that names it, a snapshot map the defects of its names. Put together they say what
the record of an object is (`JobRecord.ofObject_run`).
-/

namespace ClusterBoard

/-! ## Values in words -/

/-- A string in its own words, null as nothing, any other value as its JSON text. -/
def Json.inWords? : Json → Option String
  | .null => none
  | .string text => some text
  | other => some other.compact

/-- The names that a snapshot entry has. -/
def NodeSnapshot.keys : List String := ["slurmNodeName", "physicalNodeName", "k8sNodeName"]

namespace JobState

variable {raw : Json}

theorem ofName_eq_running_iff {name : String} : ofName name = .running ↔ name = "RUNNING" := by
  unfold ofName
  split_ifs <;> simp_all

theorem ofName_eq_removed_iff {name : String} : ofName name = .removed ↔ name = "REMOVED" := by
  unfold ofName
  split_ifs <;> simp_all

theorem ofName_eq_other_iff {name text : String} :
    ofName name = .other text ↔ name = text ∧ text ≠ "RUNNING" ∧ text ≠ "REMOVED" := by
  unfold ofName
  constructor
  · intro h
    split_ifs at h with hrunning hremoved
    obtain rfl := JobState.other.inj h
    exact ⟨rfl, hrunning, hremoved⟩
  · rintro ⟨rfl, hrunning, hremoved⟩
    rw [if_neg hrunning, if_neg hremoved]

theorem ofJson?_eq_running_iff : ofJson? raw = some .running ↔ raw = .string "RUNNING" := by
  cases raw <;> simp [ofJson?, ofName_eq_running_iff]

theorem ofJson?_eq_removed_iff : ofJson? raw = some .removed ↔ raw = .string "REMOVED" := by
  cases raw <;> simp [ofJson?, ofName_eq_removed_iff]

/-- Any other state stands for itself. -/
theorem ofJson?_eq_other_iff {text : String} : ofJson? raw = some (.other text) ↔
    raw.inWords? = some text ∧ raw ≠ .string "RUNNING" ∧ raw ≠ .string "REMOVED" := by
  cases raw with
  | string name =>
    simp only [ofJson?, Json.inWords?, Option.some.injEq, ofName_eq_other_iff, ne_eq,
      Json.string.injEq]
    constructor
    · rintro ⟨rfl, h⟩
      exact ⟨rfl, h⟩
    · rintro ⟨rfl, h⟩
      exact ⟨rfl, h⟩
  | null | bool | number | array | object => simp [ofJson?, Json.inWords?]

end JobState

namespace JobRecord

/-! ## Where the fields stand -/

def userPath : List String := ["spec", "userName"]

def specPath : List String := ["spec"]

def statePath : List String := ["status", "slurmJobRunCurrentStatus", "state"]

def snapshotsPath : List String :=
  ["status", "slurmJobRunCurrentStatus", "physicalNodeSnapshots"]

def historyPath : List String := ["status", "slurmJobRunStatusHistory"]

theorem segments_userField : pathSegments userField = userPath := by decide

theorem segments_specField : pathSegments specField = specPath := by decide

theorem segments_stateField : pathSegments stateField = statePath := by decide

theorem segments_snapshotsField : pathSegments snapshotsField = snapshotsPath := by decide

theorem segments_historyField : pathSegments historyField = historyPath := by decide

section Fields

variable {value raw : Json}

theorem readUser_eq_ok_iff {name : String} :
    readUser value = .ok name ↔ value.Leads userPath (.string name) ∧ name ≠ "" := by
  rw [← segments_userField]
  exact lookupText_eq_ok_iff

theorem readSpec_eq_ok_iff : readSpec value = .ok raw ↔ value.Leads specPath raw := by
  rw [← segments_specField]
  exact lookup_eq_ok_iff

theorem readHistory_eq_ok_iff : readHistory value = .ok raw ↔ value.Leads historyPath raw := by
  rw [← segments_historyField]
  exact lookup_eq_ok_iff

theorem readState_eq_ok_iff {state : JobState} : readState value = .ok state ↔
    ∃ raw, value.Leads statePath raw ∧ JobState.ofJson? raw = some state := by
  rw [← segments_stateField]
  unfold readState
  constructor
  · intro h
    cases hl : lookupPresent value stateField with
    | error defect =>
      rw [hl] at h
      cases h
    | ok raw =>
      rw [hl] at h
      refine ⟨raw, (lookupPresent_eq_ok_iff.mp hl).1, ?_⟩
      cases hs : JobState.ofJson? raw with
      | none => simp [hs, bind, Except.bind] at h
      | some read => simpa [hs, bind, Except.bind] using h
  · rintro ⟨raw, hleads, hs⟩
    have hne : raw ≠ .null := by
      rintro rfl
      cases hs
    rw [lookupPresent_eq_ok_iff.mpr ⟨hleads, hne⟩]
    simp [hs, bind, Except.bind]

theorem exists_readState_iff : (∃ state, readState value = .ok state) ↔
    ∃ raw, value.Leads statePath raw ∧ raw ≠ .null := by
  simp only [readState_eq_ok_iff]
  constructor
  · rintro ⟨state, raw, hleads, hs⟩
    refine ⟨raw, hleads, ?_⟩
    rintro rfl
    cases hs
  · rintro ⟨raw, hleads, hne⟩
    obtain ⟨state, hs⟩ : ∃ state, JobState.ofJson? raw = some state := by
      cases raw with
      | null => exact absurd rfl hne
      | bool | number | string | array | object => exact ⟨_, rfl⟩
    exact ⟨state, raw, hleads, hs⟩

theorem blames_readState (ho : value.isObject = true) : Blames stateField (readState value) := by
  refine (blames_lookupPresent ho stateField).bind fun raw => ?_
  cases JobState.ofJson? raw with
  | none => exact blames_missing stateField
  | some state => exact blames_ok stateField state

end Fields

/-! ## What reading adds to the defects -/

/-- Whatever was found before, a reader gives a value and adds certain defects at the end. -/
def Adds {α : Type} (reader : StateM (List Defect) α) (a : α) (defects : List Defect) : Prop :=
  ∀ found, reader.run found = (a, found ++ defects)

section Adds

variable {α β : Type}

theorem adds_pure (a : α) : Adds (pure a) a [] := by
  intro found
  rw [List.append_nil]
  rfl

theorem adds_note (defect : Defect) : Adds (note defect) () [defect] := fun _ => rfl

theorem run_bind (reader : StateM (List Defect) α) (next : α → StateM (List Defect) β)
    (found : List Defect) :
    (reader >>= next).run found = (next (reader.run found).1).run (reader.run found).2 := rfl

theorem Adds.bind {reader : StateM (List Defect) α} {next : α → StateM (List Defect) β} {a : α}
    {b : β} {defects more : List Defect} (h : Adds reader a defects)
    (hnext : Adds (next a) b more) : Adds (reader >>= next) b (defects ++ more) := by
  intro found
  rw [run_bind, h, hnext, List.append_assoc]

theorem Adds.map {reader : StateM (List Defect) α} {a : α} {defects : List Defect}
    (h : Adds reader a defects) (f : α → β) :
    Adds (reader >>= fun a => pure (f a)) (f a) defects := by
  intro found
  exact congrArg (fun result => (f result.1, result.2)) (h found)

theorem adds_orDefault (default : α) (read : Except Defect α) :
    Adds (orDefault default read) (read.toOption.getD default) (defectOf read) := by
  cases read with
  | ok value => exact adds_pure value
  | error defect => exact (adds_note defect).bind (adds_pure default)

end Adds

/-! ### Snapshots -/

/-- The defects of a name in a snapshot entry. -/
def nameDefects (entry : Json) (key : String) : List Defect :=
  match entry.get? key with
  | none | some .null | some (.string _) => []
  | some other => [.wrongType ("physicalNodeSnapshots.*." ++ key) "a string" other.kind]

/-- The defects of all names in a snapshot map. -/
def entryDefects (fields : Json.Fields) : List Defect :=
  fields.flatMap fun field => NodeSnapshot.keys.flatMap (nameDefects field.2)

/-- A snapshot with the names of an entry, in words. -/
def namesOf (entry : Json) : NodeSnapshot where
  logical := (entry.get? "slurmNodeName").bind Json.inWords?
  physical := (entry.get? "physicalNodeName").bind Json.inWords?
  k8s := (entry.get? "k8sNodeName").bind Json.inWords?

/-- There is a snapshot map, or null in its place, and all its entries are objects. -/
def SnapshotsReadable (value : Json) : Prop :=
  value.Leads snapshotsPath .null ∨ ∃ fields, value.Leads snapshotsPath (.object fields) ∧
    ∀ field ∈ fields, field.2.isObject = true

/-- What reading the snapshots gives and what it adds to the defects. -/
inductive SnapshotsRead (value : Json) : Except Defect NodeSnapshots → List Defect → Prop
  | failed (defect : Defect) (h : ¬ SnapshotsReadable value) :
      SnapshotsRead value (.error defect) []
  | empty (h : value.Leads snapshotsPath .null ∨ value.Leads snapshotsPath (.object [])) :
      SnapshotsRead value (.ok .empty) []
  | nodes (fields : Json.Fields) (h : value.Leads snapshotsPath (.object fields))
      (hne : fields ≠ []) (hall : ∀ field ∈ fields, field.2.isObject = true) :
      SnapshotsRead value (.ok (.nodes (fields.map fun field => (field.1, namesOf field.2))))
        (entryDefects fields)

section Snapshots

variable {value : Json}

theorem adds_readSnapshotName (entry : Json) (key : String) :
    Adds (readSnapshotName entry key) ((entry.get? key).bind Json.inWords?)
      (nameDefects entry key) := by
  unfold readSnapshotName nameDefects
  cases entry.get? key with
  | none => exact adds_pure none
  | some name =>
    cases name with
    | null => exact adds_pure none
    | string text => exact adds_pure (some text)
    | bool | number | array | object => exact (adds_note _).bind (adds_pure _)

theorem adds_readSnapshot (entry : Json) :
    Adds (readSnapshot entry) (namesOf entry) (NodeSnapshot.keys.flatMap (nameDefects entry)) :=
  (adds_readSnapshotName entry _).bind <| (adds_readSnapshotName entry _).bind <|
    (adds_readSnapshotName entry _).bind <| adds_pure (namesOf entry)

theorem adds_readEntries (fields : Json.Fields) :
    Adds (readEntries fields) (fields.map fun field => (field.1, namesOf field.2))
      (entryDefects fields) := by
  induction fields with
  | nil => exact adds_pure []
  | cons field rest ih =>
    have hcons := ih.map fun entries => (field.1, namesOf field.2) :: entries
    exact (adds_readSnapshot field.2).bind hcons

/-- Where there is no node there is no field. -/
theorem fields_eq_nil_of_leads {fields : Json.Fields}
    (h : value.Leads snapshotsPath .null ∨ value.Leads snapshotsPath (.object []))
    (hfields : value.Leads snapshotsPath (.object fields)) : fields = [] := by
  rcases h with hnull | hempty
  · cases hfields.unique hnull
  · exact hfields.unique_object hempty

theorem snapshotsReadable_iff_of_leads {raw : Json} (h : value.Leads snapshotsPath raw) :
    SnapshotsReadable value ↔ raw = .null ∨
      ∃ fields, raw = .object fields ∧ ∀ field ∈ fields, field.2.isObject = true := by
  constructor
  · rintro (hnull | ⟨fields, hleads, hall⟩)
    · exact .inl (h.unique hnull)
    · exact .inr ⟨fields, h.unique hleads, hall⟩
  · rintro (rfl | ⟨fields, rfl, hall⟩)
    · exact .inl h
    · exact .inr ⟨fields, h, hall⟩

/-- A snapshot map that cannot be read adds nothing to the defects but its own. -/
theorem exists_adds_readSnapshotsInPlace (value : Json) : ∃ outcome added,
    Adds (readSnapshotsInPlace value) outcome added ∧ SnapshotsRead value outcome added ∧
      (value.isObject = true → Blames snapshotsField outcome) := by
  unfold readSnapshotsInPlace
  cases hl : lookup value snapshotsField with
  | error defect =>
    have hno : ∀ raw, ¬ value.Leads snapshotsPath raw := by
      intro raw hleads
      rw [← segments_snapshotsField, ← lookup_eq_ok_iff, hl] at hleads
      cases hleads
    refine ⟨_, _, adds_pure _, .failed defect ?_, fun ho => ?_⟩
    · rintro (hnull | ⟨fields, hleads, -⟩)
      · exact hno _ hnull
      · exact hno _ hleads
    · rintro _ ⟨⟩
      exact blames_lookup ho snapshotsField defect hl
  | ok raw =>
    have hleads : value.Leads snapshotsPath raw := by
      rw [← segments_snapshotsField, ← lookup_eq_ok_iff, hl]
    cases raw with
    | null => exact ⟨_, _, adds_pure _, .empty (.inl hleads), fun _ => blames_ok _ _⟩
    | object fields =>
      cases fields with
      | nil => exact ⟨_, _, adds_pure _, .empty (.inr hleads), fun _ => blames_ok _ _⟩
      | cons field rest =>
        dsimp only
        cases hf : (field :: rest).find? fun entry => !entry.2.isObject with
        | some entry =>
          have hbad : entry.2.isObject = false := by simpa using List.find?_some hf
          refine ⟨_, _, adds_pure _, .failed _ ?_, fun _ => blames_wrongType _ _ _⟩
          rw [snapshotsReadable_iff_of_leads hleads]
          rintro (h | ⟨fields, h, hall⟩)
          · cases h
          · obtain rfl := Json.object.inj h
            exact Bool.false_ne_true (hbad.symm.trans (hall _ (List.mem_of_find?_eq_some hf)))
        | none =>
          have hall : ∀ field' ∈ field :: rest, field'.2.isObject = true := by
            simpa using List.find?_eq_none.mp hf
          have hread := (adds_readEntries (field :: rest)).map fun entries =>
            (.ok (.nodes entries) : Except Defect NodeSnapshots)
          exact ⟨_, _, hread, .nodes _ hleads (List.cons_ne_nil _ _) hall, fun _ => blames_ok _ _⟩
    | bool | number | string | array =>
      refine ⟨_, _, adds_pure _, .failed _ ?_, fun _ => blames_wrongType _ _ _⟩
      rw [snapshotsReadable_iff_of_leads hleads]
      rintro (h | ⟨fields, h, -⟩) <;> cases h

end Snapshots

/-! ## The record -/

section Record

variable {value : Json} {outcome : Except Defect NodeSnapshots} {added : List Defect}

/-- The fields of a record are read one by one, and so are their defects. -/
theorem ofObject_run (id : RecordId) (h : Adds (readSnapshotsInPlace value) outcome added) :
    ((ofObject id value).run []).1 =
      { id
        user := (readUser value).toOption.getD unknownUser
        spec := (readSpec value).toOption
        state := (readState value).toOption.getD .removed
        snapshots := outcome.toOption.getD .unavailable
        history := (readHistory value).toOption
        defects := defectOf (readUser value) ++ defectOf (readSpec value) ++
          defectOf (readState value) ++ added ++ defectOf outcome ++
          defectOf (readHistory value) } := by
  have hsome : ∀ read : Except Defect Json, (read.map some).toOption.getD none = read.toOption ∧
      defectOf (read.map some) = defectOf read := by
    rintro (defect | raw) <;> exact ⟨rfl, rfl⟩
  unfold ofObject
  rw [run_bind, adds_orDefault, run_bind, adds_orDefault, run_bind, adds_orDefault, run_bind, h,
    run_bind, adds_orDefault, run_bind, adds_orDefault, (hsome _).1, (hsome _).1, (hsome _).2,
    (hsome _).2]
  rfl

theorem toOption_eq_some_iff {α : Type} {read : Except Defect α} {a : α} :
    read.toOption = some a ↔ read = .ok a := by
  cases read <;> simp [Except.toOption]

/-- A value that is no object leads nowhere, so nothing is read from it. -/
theorem toOption_of_not_object {α : Type} {read : Except Defect α} {path : List String}
    (ho : value.isObject = false) (hp : path ≠ [])
    (h : ∀ a, read = .ok a → ∃ raw, value.Leads path raw) : read.toOption = none := by
  refine Option.eq_none_iff_forall_ne_some.mpr fun a ha => ?_
  obtain ⟨raw, hleads⟩ := h a (toOption_eq_some_iff.mp ha)
  exact Bool.false_ne_true (ho.symm.trans (hleads.isObject hp))

theorem ofJson_of_object (ho : value.isObject = true) (id : RecordId) :
    ofJson id value = ((ofObject id value).run []).1 := if_pos ho

/-- Whatever the value, a field is what can be read of it, or its default. -/
theorem ofJson_eq (id : RecordId) (h : Adds (readSnapshotsInPlace value) outcome added)
    (hs : SnapshotsRead value outcome added) : ∃ defects, ofJson id value =
      { id
        user := (readUser value).toOption.getD unknownUser
        spec := (readSpec value).toOption
        state := (readState value).toOption.getD .removed
        snapshots := outcome.toOption.getD .unavailable
        history := (readHistory value).toOption
        defects } := by
  cases ho : value.isObject with
  | true => exact ⟨_, (ofJson_of_object ho id).trans (ofObject_run id h)⟩
  | false =>
    have huser : (readUser value).toOption = none :=
      toOption_of_not_object ho (by decide) fun _ hr => ⟨_, (readUser_eq_ok_iff.mp hr).1⟩
    have hspec : (readSpec value).toOption = none :=
      toOption_of_not_object ho (by decide) fun _ hr => ⟨_, readSpec_eq_ok_iff.mp hr⟩
    have hstate : (readState value).toOption = none := by
      refine toOption_of_not_object ho (show statePath ≠ [] by decide) fun _ hr => ?_
      obtain ⟨raw, hleads, -⟩ := readState_eq_ok_iff.mp hr
      exact ⟨raw, hleads⟩
    have hsnapshots : outcome.toOption = none := by
      refine toOption_of_not_object ho (show snapshotsPath ≠ [] by decide) fun _ hr => ?_
      cases hs with
      | failed defect hno => cases hr
      | empty hleads => exact hleads.elim (fun h => ⟨_, h⟩) fun h => ⟨_, h⟩
      | nodes fields hleads hne hall => exact ⟨_, hleads⟩
    have hhistory : (readHistory value).toOption = none :=
      toOption_of_not_object ho (by decide) fun _ hr => ⟨_, readHistory_eq_ok_iff.mp hr⟩
    refine ⟨[.notAnObject value.kind], ?_⟩
    unfold ofJson
    rw [huser, hspec, hstate, hsnapshots, hhistory, if_neg (Bool.eq_false_iff.mp ho)]
    rfl

end Record

end JobRecord

end ClusterBoard
