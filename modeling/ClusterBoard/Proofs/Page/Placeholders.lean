import Mathlib
import ClusterBoard.Page.Document
import ClusterBoard.Proofs.Json.Literals
import ClusterBoard.Proofs.Json.Numerals
import ClusterBoard.Proofs.Record.JobTable
import ClusterBoard.Proofs.Record.NodeStatus

/-!
# Placeholders

A cell shows the text of a value, or a placeholder where the record has none. That the record has
none is read off the text again: the page quotes a status whose text is the placeholder. No value is
written as a placeholder (`Json.pretty_ne`), since by its first character the text is that of a
literal, a number, a string, an array or an object. So the text tells what is missing
(`Page.placeholders_unambiguous`).
-/

namespace ClusterBoard

/-! ## What a value is written as -/

namespace Json

/-- The characters that the text of a value may begin with. -/
def Opens (c : Char) : Prop := IsNumeral c ∨ c ∈ ['n', 't', 'f', '"', '[', '\x7b']

instance (c : Char) : Decidable (Opens c) :=
  inferInstanceAs (Decidable ((c.isDigit = true ∨ c ∈ ['-', '+', '.', 'e']) ∨ _))

theorem exists_prettyChars_cons (depth : Nat) (v : Json) :
    ∃ c rest, v.prettyChars depth = c :: rest ∧ Opens c := by
  cases v with
  | null => exact ⟨'n', _, rfl, by decide⟩
  | bool value =>
    cases value with
    | true => exact ⟨'t', _, rfl, by decide⟩
    | false => exact ⟨'f', _, rfl, by decide⟩
  | number value =>
    obtain ⟨c, rest, hchars⟩ := List.exists_cons_of_ne_nil (Number.chars_ne_nil value)
    exact ⟨c, rest, hchars, .inl (Number.isNumeral_chars value c (hchars ▸ List.mem_cons_self))⟩
  | string value => exact ⟨'"', _, rfl, by decide⟩
  | array items =>
    cases items with
    | nil => exact ⟨'[', _, rfl, by decide⟩
    | cons item rest => exact ⟨'[', _, rfl, by decide⟩
  | object fields =>
    cases fields with
    | nil => exact ⟨'\x7b', _, rfl, by decide⟩
    | cons field rest => exact ⟨'\x7b', _, rfl, by decide⟩

/-- A text that begins otherwise is not that of a value. -/
theorem pretty_ne {text : String} {c : Char} {rest : List Char} (htext : text.toList = c :: rest)
    (hc : ¬ Opens c) (v : Json) : v.pretty ≠ text := by
  rintro rfl
  obtain ⟨d, more, hd, hopens⟩ := exists_prettyChars_cons 0 v
  rw [pretty, String.toList_ofList, hd] at htext
  exact hc ((List.cons.inj htext).1 ▸ hopens)

theorem pretty_ne_notAvailable (v : Json) : v.pretty ≠ notAvailable :=
  pretty_ne (c := 'N') rfl (by decide) v

theorem pretty_ne_unknownStatus (v : Json) : v.pretty ≠ unknownStatus :=
  pretty_ne (c := 'U') rfl (by decide) v

end Json

theorem prettyOr_eq_iff {placeholder : String} (h : ∀ v : Json, v.pretty ≠ placeholder)
    {raw : Option Json} : prettyOr placeholder raw = placeholder ↔ raw = none := by
  cases raw with
  | none => exact iff_of_true rfl rfl
  | some v => exact iff_of_false (h v) nofun

/-! ## What a record lacks -/

namespace StatusBlock

variable {value raw : Json} {field : String}

theorem raw_read : (read value field).1.raw = (lookupPresent value field).toOption := by
  unfold read
  cases lookupPresent value field with
  | error defect => rfl
  | ok raw =>
    dsimp only
    split <;> rfl

theorem raw_read_eq_some_iff : (read value field).1.raw = some raw ↔
    value.Leads (pathSegments field) raw ∧ raw ≠ .null := by
  rw [raw_read, JobRecord.toOption_eq_some_iff, lookupPresent_eq_ok_iff]

end StatusBlock

namespace NodeRecord

/-- The raw values of a node are those that its record has; a status block that is null is none. -/
structure Carries (node : NodeRecord) (value : Json) : Prop where
  spec_iff : ∀ raw, node.spec = some raw ↔ value.Leads ["spec"] raw
  k8s_iff : ∀ raw, node.k8s.raw = some raw ↔ value.Leads k8sPath raw ∧ raw ≠ .null
  slurm_iff : ∀ raw, node.slurm.raw = some raw ↔ value.Leads slurmPath raw ∧ raw ≠ .null

theorem carries_ofJson (id : RecordId) (value : Json) : (ofJson id value).Carries value := by
  cases ho : value.isObject with
  | true =>
    rw [ofJson_of_object ho]
    constructor
    case spec_iff =>
      intro raw
      have hsegments : pathSegments specField = ["spec"] := by decide
      rw [JobRecord.toOption_eq_some_iff, lookup_eq_ok_iff, hsegments]
    case k8s_iff =>
      intro raw
      rw [StatusBlock.raw_read_eq_some_iff, segments_k8sField]
    case slurm_iff =>
      intro raw
      rw [StatusBlock.raw_read_eq_some_iff, segments_slurmField]
  | false =>
    -- A value that is no object leads nowhere, and its record has no raw values.
    have hno {path : List String} {raw : Json} (hp : path ≠ []) : ¬ value.Leads path raw :=
      fun h => Bool.false_ne_true (ho.symm.trans (h.isObject hp))
    unfold ofJson
    rw [if_neg (Bool.eq_false_iff.mp ho)]
    constructor
    case spec_iff => exact fun raw => iff_of_false nofun (hno (by decide))
    case k8s_iff | slurm_iff => exact fun raw => iff_of_false nofun fun h => hno (by decide) h.1

end NodeRecord

/-! ## Cells -/

namespace Page

theorem length_le_length_quotedChars (text : String) :
    text.toList.length + 2 ≤ (Json.quotedChars text).length := by
  have hone (c : Char) : 1 ≤ (Json.escapeChar c).length := by
    rcases Json.escapeChar_cases c with ⟨hc, -⟩ | ⟨d, tail, hc, -, -⟩
    · rw [hc, List.length_singleton]
    · rw [hc, List.length_cons]
      omega
  have hescaped : ∀ cs : List Char, cs.length ≤ (cs.flatMap Json.escapeChar).length := by
    intro cs
    induction cs with
    | nil => exact le_rfl
    | cons c cs ih =>
      rw [List.flatMap_cons, List.length_append, List.length_cons]
      have hc := hone c
      omega
  have hle := hescaped text.toList
  rw [Json.quotedChars, List.length_append, List.length_cons, List.length_singleton]
  omega

theorem cellOf_injective {tone : Tone} : Function.Injective (cellOf tone) := by
  intro text other h
  simpa [cellOf, preformatted] using h

theorem quotedCell_ne_plainCell (cell : Cell) : quotedCell cell ≠ plainCell cell := by
  intro h
  have htext := congrArg String.toList (cellOf_injective h)
  rw [String.toList_ofList] at htext
  have hle := length_le_length_quotedChars cell.text
  rw [htext] at hle
  omega

/-- Exactly for a missing block the cell has the text of the placeholder, and the page quotes it. -/
structure TellsMissing (cell : Cell) (block : StatusBlock) : Prop where
  unknown_iff : cell.text = unknownStatus ↔ block.raw = none
  quoted_iff : statusCell cell = quotedCell cell ↔ block.raw = none
  plain_iff : statusCell cell = plainCell cell ↔ block.raw ≠ none

theorem tellsMissing (block : StatusBlock) : TellsMissing (NodeRow.statusCell block) block := by
  have hunknown : (NodeRow.statusCell block).text = unknownStatus ↔ block.raw = none :=
    prettyOr_eq_iff Json.pretty_ne_unknownStatus
  have hne := quotedCell_ne_plainCell (NodeRow.statusCell block)
  by_cases hraw : block.raw = none
  · have hquoted : statusCell (NodeRow.statusCell block) = quotedCell (NodeRow.statusCell block) :=
      if_pos (hunknown.mpr hraw)
    refine ⟨hunknown, iff_of_true hquoted hraw, ?_⟩
    rw [hquoted]
    exact iff_of_false hne (not_not_intro hraw)
  · have hplain : statusCell (NodeRow.statusCell block) = plainCell (NodeRow.statusCell block) :=
      if_neg (mt hunknown.mp hraw)
    refine ⟨hunknown, ?_, iff_of_true hplain hraw⟩
    rw [hplain]
    exact iff_of_false hne.symm hraw

/-! ## The theorem -/

/-- **Placeholders are unambiguous.** No value is written as a placeholder. So a cell of a job or of
a node has the text of a placeholder exactly if the record lacks the value, and the page quotes a
status exactly if the block is missing, whatever a block holds. -/
theorem placeholders_unambiguous :
    (∀ v : Json, v.pretty ≠ notAvailable ∧ v.pretty ≠ unknownStatus) ∧
    (∀ job : JobRecord, ((JobRow.ofJob job).spec = notAvailable ↔ job.spec = none) ∧
      ((JobRow.ofJob job).history.content = notAvailable ↔ job.history = none)) ∧
    (∀ node : NodeRecord, ((NodeRow.ofNode node).spec.text = notAvailable ↔ node.spec = none) ∧
      TellsMissing (NodeRow.ofNode node).k8s node.k8s ∧
      TellsMissing (NodeRow.ofNode node).slurm node.slurm) ∧
    (∀ (id : RecordId) (value raw : Json),
      ((JobRecord.ofJson id value).spec = some raw ↔ value.Leads JobRecord.specPath raw) ∧
      ((JobRecord.ofJson id value).history = some raw ↔ value.Leads JobRecord.historyPath raw)) ∧
    ∀ (id : RecordId) (value : Json), (NodeRecord.ofJson id value).Carries value := by
  have hmissing {raw : Option Json} : prettyOr notAvailable raw = notAvailable ↔ raw = none :=
    prettyOr_eq_iff Json.pretty_ne_notAvailable
  refine ⟨fun v => ⟨v.pretty_ne_notAvailable, v.pretty_ne_unknownStatus⟩,
    fun job => ⟨hmissing, hmissing⟩,
    fun node => ⟨hmissing, tellsMissing node.k8s, tellsMissing node.slurm⟩, ?_,
    NodeRecord.carries_ofJson⟩
  intro id value raw
  have htable := JobRecord.ofJson_followsTable id value
  exact ⟨htable.spec_iff raw, htable.history_iff raw⟩

/-- A block that holds the word of the placeholder is not quoted once more. -/
example : statusCell (NodeRow.statusCell ⟨some (.string "UNKNOWN"), false⟩) =
    cellOf .normal "\"UNKNOWN\"" := by decide

end Page

end ClusterBoard
