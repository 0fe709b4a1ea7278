import Mathlib
import ClusterBoard.Proofs.Record.Paths
import ClusterBoard.Proofs.Text.Pieces

/-!
# What a look-up answers

From any value a path leads to its end, or it stops at the first key that cannot be taken
(`Json.leads_or_stopsAt`). In the second case the value there decides the defect
(`lookup_of_stopsAt`). A path joined of two with a dot is followed one after the other
(`lookup_append_eq_ok_iff`).
-/

namespace ClusterBoard

namespace Json

variable {value found stop : Json} {key : String} {path taken : List String}

/-- The path leads along the keys `taken` to `stop`, and no further: the next key is not there. -/
def StopsAt (value : Json) (path taken : List String) (stop : Json) : Prop :=
  ∃ key rest, path = taken ++ key :: rest ∧ value.Leads taken stop ∧ stop.get? key = none

theorem not_stopsAt_nil : ¬ value.StopsAt [] taken stop := by
  rintro ⟨key, rest, hpath, -⟩
  simp at hpath

theorem stopsAt_of_get?_eq_none (h : value.get? key = none) (path : List String) :
    value.StopsAt (key :: path) [] value :=
  ⟨key, path, rfl, .here value, h⟩

/-- A path stops right away, or it takes the first key and stops later. -/
theorem stopsAt_cons_iff : value.StopsAt (key :: path) taken stop ↔
    (value.get? key = none ∧ taken = [] ∧ stop = value) ∨
      ∃ (fields : Fields) (next : Json) (more : List String), value = .object fields ∧
        fields.get? key = some next ∧ taken = key :: more ∧ next.StopsAt path more stop := by
  constructor
  · rintro ⟨last, rest, hpath, hleads, hstop⟩
    cases hleads with
    | here =>
      obtain ⟨rfl, rfl⟩ := List.cons.inj hpath
      exact .inl ⟨hstop, rfl, rfl⟩
    | step hkey hleads =>
      obtain ⟨rfl, rfl⟩ := List.cons.inj hpath
      exact .inr ⟨_, _, _, rfl, hkey, rfl, last, rest, rfl, hleads, hstop⟩
  · rintro (⟨hstop, rfl, rfl⟩ |
      ⟨fields, next, more, rfl, hkey, rfl, last, rest, rfl, hleads, hstop⟩)
    · exact stopsAt_of_get?_eq_none hstop path
    · exact ⟨last, rest, rfl, .step hkey hleads, hstop⟩

theorem leads_or_stopsAt (value : Json) (path : List String) :
    (∃ found, value.Leads path found) ∨ ∃ taken stop, value.StopsAt path taken stop := by
  induction path generalizing value with
  | nil => exact .inl ⟨value, .here value⟩
  | cons key path ih =>
    cases hget : value.get? key with
    | none => exact .inr ⟨[], value, stopsAt_of_get?_eq_none hget path⟩
    | some next =>
      cases value with
      | object fields =>
        rcases ih next with ⟨found, hleads⟩ | ⟨taken, stop, hstops⟩
        · exact .inl ⟨found, .step hget hleads⟩
        · exact .inr ⟨key :: taken, stop,
            stopsAt_cons_iff.mpr (.inr ⟨fields, next, taken, rfl, hget, rfl, hstops⟩)⟩
      | null | bool | number | string | array => cases hget

theorem leads_append_iff {rest : List String} : value.Leads (path ++ rest) found ↔
    ∃ middle, value.Leads path middle ∧ middle.Leads rest found := by
  induction path generalizing value with
  | nil => simp [leads_nil]
  | cons key path ih =>
    constructor
    · intro h
      cases h with
      | step hkey h =>
        obtain ⟨middle, hpath, hrest⟩ := ih.mp h
        exact ⟨middle, .step hkey hpath, hrest⟩
    · rintro ⟨middle, hpath, hrest⟩
      cases hpath with
      | step hkey hpath => exact .step hkey (ih.mpr ⟨middle, hpath, hrest⟩)

end Json

variable {value found stop : Json} {path holder : String} {segments taken : List String}

/-! ## Where a look-up stops -/

/-- The defect where a path stops: null and an object lack a field, anything else is no object. -/
def defectAt (path holder : String) : Json → Defect
  | .null | .object _ => .missing path
  | other => .wrongType holder "an object" other.kind

theorem follow_of_get?_eq_none {key : String} {rest : List String} (h : value.get? key = none) :
    follow path holder value (key :: rest) = .error (defectAt path holder value) := by
  cases value with
  | object fields =>
    unfold follow
    rw [show Json.Fields.get? fields key = none from h]
    rfl
  | null | bool | number | string | array => rfl

theorem follow_of_stopsAt (h : value.StopsAt segments taken stop) :
    follow path holder value segments =
      .error (defectAt path (if taken = [] then holder else path) stop) := by
  induction segments generalizing value taken holder with
  | nil => exact absurd h Json.not_stopsAt_nil
  | cons key rest ih =>
    rcases Json.stopsAt_cons_iff.mp h with
      ⟨hstop, rfl, rfl⟩ | ⟨fields, next, more, rfl, hkey, rfl, hstops⟩
    · rw [follow_of_get?_eq_none hstop, if_pos rfl]
    · unfold follow
      rw [hkey]
      -- From the second key on the path is to blame in any case.
      exact (ih hstops).trans (by rw [ite_self, if_neg (List.cons_ne_nil key more)])

/-- The value at which a path stops decides the defect. -/
theorem lookup_of_stopsAt (h : value.StopsAt (pathSegments path) taken stop) :
    lookup value path = .error (defectAt path (if taken = [] then "record" else path) stop) :=
  follow_of_stopsAt h

/-- A path of several keys has a dot in it, so it is not the name that stands for the root. -/
theorem ne_record_of_stopsAt (h : value.StopsAt (pathSegments path) taken stop) (ht : taken ≠ []) :
    path ≠ "record" := by
  rintro rfl
  obtain ⟨key, rest, hpath, -⟩ := h
  have hsegments : pathSegments "record" = ["record"] := by decide
  have hlength := congrArg List.length (hsegments.symm.trans hpath)
  have hpos := List.length_pos_iff.mpr ht
  simp at hlength
  omega

/-! ## Paths of two parts -/

theorem pathSegments_append (path rest : String) :
    pathSegments (path ++ "." ++ rest) = pathSegments path ++ pathSegments rest := by
  unfold pathSegments
  rw [String.toList_append, String.toList_append, List.append_assoc]
  exact (congrArg _ (Text.splitOn_append '.' _ _)).trans List.map_append

theorem lookup_append_eq_ok_iff {rest : String} : lookup value (path ++ "." ++ rest) = .ok found ↔
    ∃ middle, lookup value path = .ok middle ∧ lookup middle rest = .ok found := by
  simp only [lookup_eq_ok_iff]
  rw [pathSegments_append, Json.leads_append_iff]

/-! ## The theorem -/

/-- What a look-up of a path in a value answers. -/
structure AnswersLookup (value : Json) (path : String) : Prop where
  ok_iff : ∀ found, lookup value path = .ok found ↔ value.Leads (pathSegments path) found
  /-- A path that does not lead to its end stops somewhere, -/
  stops : (¬ ∃ found, value.Leads (pathSegments path) found) →
    ∃ taken stop, value.StopsAt (pathSegments path) taken stop
  /-- and where it stops, null and an object lack the field; -/
  missing : ∀ taken stop, value.StopsAt (pathSegments path) taken stop →
    stop = .null ∨ stop.isObject = true → lookup value path = .error (.missing path)
  /-- any other value has the wrong type, and only the record itself is called the record. -/
  wrongType : ∀ taken stop, value.StopsAt (pathSegments path) taken stop →
    ¬ (stop = .null ∨ stop.isObject = true) →
      ∃ field, lookup value path = .error (.wrongType field "an object" stop.kind) ∧
        (taken = [] → field = "record") ∧ (taken ≠ [] → field = path ∧ field ≠ "record")
  present_null : lookup value path = .ok .null → lookupPresent value path = .error (.missing path)
  /-- A null at the end is all in which the two look-ups differ. -/
  present_eq : lookup value path ≠ .ok .null → lookupPresent value path = lookup value path
  appends : ∀ rest found, lookup value (path ++ "." ++ rest) = .ok found ↔
    ∃ middle, lookup value path = .ok middle ∧ lookup middle rest = .ok found

/-- **Look-ups.** A look-up gives the value to which a path leads, or else the defect of the place
where it stops. -/
theorem lookup_answers (value : Json) (path : String) : AnswersLookup value path where
  ok_iff _ := lookup_eq_ok_iff
  stops h := (Json.leads_or_stopsAt value (pathSegments path)).resolve_left h
  missing := by
    rintro taken stop h (rfl | hobject)
    · exact lookup_of_stopsAt h
    · rw [lookup_of_stopsAt h]
      cases stop with
      | object fields => rfl
      | null | bool | number | string | array => cases hobject
  wrongType := by
    intro taken stop h hkind
    refine ⟨if taken = [] then "record" else path, ?_, fun ht => if_pos ht, fun ht => ?_⟩
    · rw [lookup_of_stopsAt h]
      cases stop with
      | null | object => simp [Json.isObject] at hkind
      | bool | number | string | array => rfl
    · rw [if_neg ht]
      exact ⟨rfl, ne_record_of_stopsAt h ht⟩
  present_null h := by
    unfold lookupPresent
    rw [h]
  present_eq h := by
    unfold lookupPresent
    split
    · exact absurd ‹_› h
    · rfl
  appends _ _ := lookup_append_eq_ok_iff

end ClusterBoard
