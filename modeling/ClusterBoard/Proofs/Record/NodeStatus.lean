import Mathlib
import ClusterBoard.Record.Node
import ClusterBoard.Proofs.Record.Paths

/-!
# The tone of a status block

A node has two status blocks. `StatusBlock.Shows` says which tone a block has and when the defects
name it, for a block that is missing and for one that is an object: a missing block is flagged, one
with an unreadable `removed` member is not, since the member takes its default, but leaves a defect
(`NodeRecord.ofJson_shows`).
-/

namespace ClusterBoard

namespace StatusBlock

/-- The `removed` member, if there is one, is null or a boolean. -/
def FlagReadable (fields : Json.Fields) : Prop :=
  ∀ flag, fields.get? "removed" = some flag → flag = .null ∨ ∃ removed, flag = .bool removed

/-- How a block shows what the record has at its path, and whether the defects name it. -/
structure Shows (block : StatusBlock) (value : Json) (path : List String) (field : String)
    (defects : List Defect) : Prop where
  tone_of_missing : (∀ raw, value.Leads path raw → raw = .null) → block.tone = .alert
  named_of_missing : (∀ raw, value.Leads path raw → raw = .null) →
    ∃ defect ∈ defects, defect.field? = some field
  alert_of_object_iff : ∀ fields : Json.Fields, value.Leads path (.object fields) →
    (block.tone = .alert ↔ fields.get? "removed" = some (.bool true))
  normal_of_object_iff : ∀ fields : Json.Fields, value.Leads path (.object fields) →
    (block.tone = .normal ↔ fields.get? "removed" ≠ some (.bool true))
  named_of_object_iff : ∀ fields, value.Leads path (.object fields) →
    ((∃ defect ∈ defects, defect.field? = some field) ↔ ¬ FlagReadable fields)

section Read

variable {value : Json} {field : String}

theorem read_of_missing (h : ∀ raw, value.Leads (pathSegments field) raw → raw = .null) :
    ∃ defect, lookupPresent value field = .error defect ∧
      read value field = (.unknown, [defect]) := by
  cases hl : lookupPresent value field with
  | ok raw =>
    obtain ⟨hleads, hne⟩ := lookupPresent_eq_ok_iff.mp hl
    exact absurd (h raw hleads) hne
  | error defect =>
    refine ⟨defect, rfl, ?_⟩
    unfold read
    rw [hl]

/-- The flag is true only if the record says so, and only an unreadable one leaves a defect. -/
theorem read_of_object {fields : Json.Fields}
    (h : value.Leads (pathSegments field) (.object fields)) :
    ∃ removed defects, read value field = (⟨some (.object fields), removed⟩, defects) ∧
      (removed = true ↔ fields.get? "removed" = some (.bool true)) ∧
      ((∃ defect ∈ defects, defect.field? = some field) ↔ ¬ FlagReadable fields) := by
  have hl : lookupPresent value field = .ok (.object fields) :=
    lookupPresent_eq_ok_iff.mpr ⟨h, nofun⟩
  have hget : (Json.object fields).get? "removed" = fields.get? "removed" := rfl
  unfold read FlagReadable
  rw [hl]
  dsimp only
  rw [hget]
  cases fields.get? "removed" with
  | none => exact ⟨false, [], rfl, by simp, by simp⟩
  | some flag =>
    cases flag with
    | null => exact ⟨false, [], rfl, by simp, by simp⟩
    | bool removed => exact ⟨removed, [], rfl, by simp, by simp⟩
    | number | string | array | object =>
      exact ⟨false, _, rfl, by simp, by simp [Defect.field?]⟩

theorem field?_of_mem_read (ho : value.isObject = true) {defect : Defect}
    (h : defect ∈ (read value field).2) : defect.field? = some field := by
  unfold read at h
  split at h
  · split at h
    · cases h
    · cases h
    · cases h
    · obtain rfl := List.mem_singleton.mp h
      rfl
  · next other hl =>
    obtain rfl := List.mem_singleton.mp h
    exact blames_lookupPresent ho field _ hl

theorem read_shows (ho : value.isObject = true) (field : String) :
    (read value field).1.Shows value (pathSegments field) field (read value field).2 := by
  constructor
  case tone_of_missing =>
    intro h
    obtain ⟨defect, -, hread⟩ := read_of_missing h
    rw [hread]
    rfl
  case named_of_missing =>
    intro h
    obtain ⟨defect, hl, hread⟩ := read_of_missing h
    rw [hread]
    exact ⟨defect, List.mem_singleton_self _, blames_lookupPresent ho field defect hl⟩
  case alert_of_object_iff =>
    intro fields h
    obtain ⟨removed, defects, hread, hremoved, -⟩ := read_of_object h
    rw [hread, ← hremoved]
    cases removed <;> simp [tone]
  case normal_of_object_iff =>
    intro fields h
    obtain ⟨removed, defects, hread, hremoved, -⟩ := read_of_object h
    rw [hread, ne_eq, ← hremoved]
    cases removed <;> simp [tone]
  case named_of_object_iff =>
    intro fields h
    obtain ⟨removed, defects, hread, -, hnamed⟩ := read_of_object h
    rw [hread]
    exact hnamed

theorem Shows.of_named_iff {block : StatusBlock} {path : List String} {defects more : List Defect}
    (h : block.Shows value path field defects)
    (hiff : (∃ defect ∈ more, defect.field? = some field) ↔
      ∃ defect ∈ defects, defect.field? = some field) : block.Shows value path field more where
  tone_of_missing := h.tone_of_missing
  named_of_missing := fun hno => hiff.mpr (h.named_of_missing hno)
  alert_of_object_iff := h.alert_of_object_iff
  normal_of_object_iff := h.normal_of_object_iff
  named_of_object_iff := fun fields hleads => hiff.trans (h.named_of_object_iff fields hleads)

end Read

end StatusBlock

namespace NodeRecord

def k8sPath : List String := ["status", "k8sNodeStatus"]

def slurmPath : List String := ["status", "slurmNodeStatus"]

theorem segments_k8sField : pathSegments k8sField = k8sPath := by decide

theorem segments_slurmField : pathSegments slurmField = slurmPath := by decide

section Record

variable {value : Json}

theorem blames_readGoal (value : Json) : Blames goalField (readGoal value) := by
  unfold readGoal
  dsimp only
  split
  · exact blames_missing goalField
  · exact blames_ok goalField _
  · exact blames_wrongType goalField _ _

/-- Each field of an object is read on its own, and so are its defects. -/
theorem ofJson_of_object (ho : value.isObject = true) (id : RecordId) :
    ofJson id value =
      { id
        name := (readName value).toOption.getD id.text
        spec := (lookup value specField).toOption
        goal := (readGoal value).toOption.getD default
        k8s := (StatusBlock.read value k8sField).1
        slurm := (StatusBlock.read value slurmField).1
        defects := defectOf (readName value) ++ defectOf (readGoal value) ++
          (StatusBlock.read value k8sField).2 ++ (StatusBlock.read value slurmField).2 } := by
  unfold ofJson
  rw [if_pos ho]
  cases readName value <;> cases readGoal value <;> rfl

/-- The defects of an object that name a status block are those found there. -/
theorem named_defects_iff (ho : value.isObject = true) (id : RecordId) {field : String}
    (hfield : field = k8sField ∨ field = slurmField) :
    (∃ defect ∈ (ofJson id value).defects, defect.field? = some field) ↔
      ∃ defect ∈ (StatusBlock.read value field).2, defect.field? = some field := by
  -- The name, the goal state and the two blocks blame four different fields.
  have hname : Blames nameField (readName value) := blames_lookupText ho nameField
  have helsewhere : ∀ {other}, other ≠ field →
      ¬ ∃ defect ∈ (StatusBlock.read value other).2, defect.field? = some field := by
    rintro other hne ⟨defect, hmem, hnamed⟩
    have hother := StatusBlock.field?_of_mem_read ho hmem
    exact hne (Option.some.inj (hother.symm.trans hnamed))
  rw [ofJson_of_object ho]
  simp only [List.mem_append, or_and_right, exists_or, named_defectOf_iff hname,
    named_defectOf_iff (blames_readGoal value)]
  rcases hfield with rfl | rfl
  · have hne : nameField ≠ k8sField ∧ goalField ≠ k8sField := by decide
    simp [hne, helsewhere (show slurmField ≠ k8sField by decide)]
  · have hne : nameField ≠ slurmField ∧ goalField ≠ slurmField := by decide
    simp [hne, helsewhere (show k8sField ≠ slurmField by decide)]

theorem read_shows (ho : value.isObject = true) (id : RecordId) {field : String}
    (hfield : field = k8sField ∨ field = slurmField) :
    (StatusBlock.read value field).1.Shows value (pathSegments field) field
      (ofJson id value).defects :=
  (StatusBlock.read_shows ho field).of_named_iff (named_defects_iff ho id hfield)

end Record

/-- **A missing status never looks healthy.** Of every record that is an object, a status block that
is not there is flagged and leaves a defect with its path. A block that is an object is flagged
exactly if it says that the node was removed, and leaves a defect exactly if its `removed` member
is neither null nor a boolean. -/
theorem ofJson_shows (id : RecordId) (fields : Json.Fields) :
    (ofJson id (.object fields)).k8s.Shows (.object fields) k8sPath k8sField
      (ofJson id (.object fields)).defects ∧
    (ofJson id (.object fields)).slurm.Shows (.object fields) slurmPath slurmField
      (ofJson id (.object fields)).defects := by
  have ho : (Json.object fields).isObject = true := rfl
  have hk8s := read_shows ho id (.inl rfl)
  have hslurm := read_shows ho id (.inr rfl)
  rw [segments_k8sField] at hk8s
  rw [segments_slurmField] at hslurm
  have hblocks : (ofJson id (.object fields)).k8s = (StatusBlock.read (.object fields) k8sField).1 ∧
      (ofJson id (.object fields)).slurm = (StatusBlock.read (.object fields) slurmField).1 := by
    rw [ofJson_of_object ho]
    exact ⟨rfl, rfl⟩
  rw [hblocks.1, hblocks.2]
  exact ⟨hk8s, hslurm⟩

/-- A node whose `removed` member is a word. -/
def wordyStatus : Json :=
  .object [("status", .object [("k8sNodeStatus", .object [("removed", .string "yes")])])]

/-- An unreadable `removed` member takes its default and looks healthy. -/
theorem normal_of_wordyStatus :
    (¬ ∃ fields, wordyStatus.Leads k8sPath (.object fields) ∧ StatusBlock.FlagReadable fields) ∧
      (ofJson ⟨"n1"⟩ wordyStatus).k8s.tone = .normal := by
  refine ⟨?_, rfl⟩
  rintro ⟨fields, hleads, hreadable⟩
  have hblock : wordyStatus.Leads k8sPath (.object [("removed", .string "yes")]) :=
    .step rfl (.step rfl (.here _))
  obtain rfl := hleads.unique_object hblock
  rcases hreadable _ rfl with hnull | ⟨removed, hbool⟩
  · cases hnull
  · cases hbool

end NodeRecord

end ClusterBoard
