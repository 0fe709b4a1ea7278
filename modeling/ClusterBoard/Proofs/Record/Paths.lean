import Mathlib
import ClusterBoard.Record.Lookup

/-!
# Following a path

A value leads along a path to another one if every key of the path is found, each in an object
inside the one before (`Json.Leads`). A look-up gives exactly that value (`lookup_eq_ok_iff`). Where
it fails on an object the defect names the path, and so does every field that is read from look-ups
(`Blames`).
-/

namespace ClusterBoard

namespace Json

/-- A chain of nested objects leads from a value, key by key, to another one. -/
inductive Leads : Json → List String → Json → Prop
  | here (value : Json) : Leads value [] value
  | step {fields : Fields} {key : String} {value found : Json} {path : List String}
      (hkey : fields.get? key = some value) (h : Leads value path found) :
      Leads (.object fields) (key :: path) found

variable {value found other : Json} {path : List String}

theorem leads_nil : value.Leads [] found ↔ found = value := by
  constructor
  · intro h
    cases h
    rfl
  · rintro rfl
    exact .here found

theorem leads_object {fields : Fields} {key : String} :
    (object fields).Leads (key :: path) found ↔
      ∃ value, fields.get? key = some value ∧ value.Leads path found := by
  constructor
  · intro h
    cases h with
    | step hkey h => exact ⟨_, hkey, h⟩
  · rintro ⟨value, hkey, h⟩
    exact .step hkey h

theorem Leads.isObject (h : value.Leads path found) (hp : path ≠ []) : value.isObject = true := by
  cases h with
  | here => exact absurd rfl hp
  | step hkey h => rfl

theorem Leads.unique (h : value.Leads path found) (h' : value.Leads path other) :
    found = other := by
  induction h with
  | here value => exact (leads_nil.mp h').symm
  | step hkey h ih =>
    obtain ⟨next, hnext, h'⟩ := leads_object.mp h'
    obtain rfl := Option.some.inj (hkey.symm.trans hnext)
    exact ih h'

theorem Leads.unique_object {fields others : Fields} (h : value.Leads path (.object fields))
    (h' : value.Leads path (.object others)) : fields = others :=
  object.inj (h.unique h')

end Json

/-! ## Look-ups -/

section Lookup

variable {value found : Json} {path : String}

theorem follow_eq_ok_iff {holder : String} {segments : List String} :
    follow path holder value segments = .ok found ↔ value.Leads segments found := by
  induction segments generalizing value holder with
  | nil =>
    rw [Json.leads_nil]
    unfold follow
    exact ⟨fun h => (Except.ok.inj h).symm, fun h => congrArg Except.ok h.symm⟩
  | cons segment rest ih =>
    -- Only an object has a way on; everything else is an error at this step.
    cases value with
    | object fields =>
      rw [Json.leads_object]
      unfold follow
      cases hkey : Json.Fields.get? fields segment with
      | none => simp
      | some next => simp [ih]
    | null => exact iff_of_false nofun nofun
    | bool | number | string | array => exact iff_of_false nofun nofun

theorem lookup_eq_ok_iff :
    lookup value path = .ok found ↔ value.Leads (pathSegments path) found :=
  follow_eq_ok_iff

theorem lookupPresent_eq_ok_iff : lookupPresent value path = .ok found ↔
    value.Leads (pathSegments path) found ∧ found ≠ .null := by
  rw [← lookup_eq_ok_iff]
  unfold lookupPresent
  cases hl : lookup value path with
  | error defect => simp
  | ok raw =>
    cases raw with
    | null =>
      refine iff_of_false nofun ?_
      rintro ⟨heq, hne⟩
      exact hne (Except.ok.inj heq).symm
    | bool | number | string | array | object =>
      refine ⟨fun h => ⟨h, ?_⟩, fun h => h.1⟩
      obtain rfl := Except.ok.inj h
      nofun

theorem lookupText_eq_ok_iff {text : String} : lookupText value path = .ok text ↔
    value.Leads (pathSegments path) (.string text) ∧ text ≠ "" := by
  constructor
  · intro h
    unfold lookupText at h
    cases hl : lookupPresent value path with
    | error defect =>
      rw [hl] at h
      cases h
    | ok raw =>
      rw [hl] at h
      have hleads := (lookupPresent_eq_ok_iff.mp hl).1
      cases raw with
      | string found =>
        change (if found = "" then Except.error (Defect.missing path) else .ok found) =
          .ok text at h
        split_ifs at h with hempty
        obtain rfl := Except.ok.inj h
        exact ⟨hleads, hempty⟩
      | null | bool | number | array | object => cases h
  · rintro ⟨hleads, hne⟩
    have hl : lookupPresent value path = .ok (.string text) :=
      lookupPresent_eq_ok_iff.mpr ⟨hleads, nofun⟩
    unfold lookupText
    rw [hl]
    exact if_neg hne

end Lookup

/-! ## Blame -/

/-- The field that a defect names. -/
def Defect.field? : Defect → Option String
  | .notAnObject _ => none
  | .missing field => some field
  | .wrongType field _ _ => some field

/-- A field that could not be read is the one that the defect names. -/
def Blames {α : Type} (field : String) (read : Except Defect α) : Prop :=
  ∀ defect, read = .error defect → defect.field? = some field

section Blames

variable {α β : Type} {field : String} {value : Json}

theorem blames_ok (field : String) (a : α) : Blames field (.ok a) := nofun

theorem blames_missing (field : String) : Blames field (.error (.missing field) : Except _ α) := by
  rintro defect ⟨⟩
  rfl

theorem blames_wrongType (field expected found : String) :
    Blames field (.error (.wrongType field expected found) : Except _ α) := by
  rintro defect ⟨⟩
  rfl

theorem Blames.bind {read : Except Defect α} {next : α → Except Defect β} (h : Blames field read)
    (hnext : ∀ a, Blames field (next a)) : Blames field (read >>= next) := by
  cases read with
  | error defect =>
    rintro _ ⟨⟩
    exact h defect rfl
  | ok a => exact hnext a

theorem blames_follow (path : String) (value : Json) (segments : List String) :
    Blames path (follow path path value segments) := by
  induction segments generalizing value with
  | nil => exact blames_ok path value
  | cons segment rest ih =>
    cases value with
    | object fields =>
      unfold follow
      cases Json.Fields.get? fields segment with
      | none => exact blames_missing path
      | some next => exact ih next
    | null => exact blames_missing path
    | bool | number | string | array => exact blames_wrongType path _ _

/-- The record itself is to blame only if it is no object. -/
theorem blames_lookup (ho : value.isObject = true) (path : String) :
    Blames path (lookup value path) := by
  unfold lookup
  cases value with
  | object fields =>
    cases pathSegments path with
    | nil => exact blames_ok path _
    | cons segment rest => exact blames_follow path (.object fields) (segment :: rest)
  | null | bool | number | string | array => cases ho

theorem blames_lookupPresent (ho : value.isObject = true) (path : String) :
    Blames path (lookupPresent value path) := by
  unfold lookupPresent
  split
  · exact blames_missing path
  · exact blames_lookup ho path

theorem blames_lookupText (ho : value.isObject = true) (path : String) :
    Blames path (lookupText value path) := by
  refine (blames_lookupPresent ho path).bind fun raw => ?_
  cases raw with
  | string text =>
    change Blames path (if text = "" then Except.error (Defect.missing path) else .ok text)
    split_ifs
    · exact blames_missing path
    · exact blames_ok path text
  | null | bool | number | array | object => exact blames_wrongType path _ _

/-- The defect of a field that could not be read. -/
def defectOf : Except Defect α → List Defect
  | .ok _ => []
  | .error defect => [defect]

/-- The defect of a field names it, and there is one exactly if the field cannot be read. -/
theorem named_defectOf_iff {read : Except Defect α} {known field : String}
    (h : Blames known read) : (∃ defect ∈ defectOf read, defect.field? = some field) ↔
      (¬ ∃ a, read = .ok a) ∧ known = field := by
  cases read with
  | ok a => simp [defectOf]
  | error defect => simp [defectOf, h defect rfl]

end Blames

end ClusterBoard
