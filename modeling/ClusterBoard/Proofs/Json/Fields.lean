import Mathlib
import ClusterBoard.Json.Reader

/-!
# Fields with distinct keys

Where no key occurs twice, a new value for a key that is there changes that field only
(`insert_eq_map`). An object that was read has no key twice (`parse?_distinct`).
-/

namespace ClusterBoard.Json.Fields

variable {fields : Fields} {key : String} {value : Json}

theorem mem_keys : key ∈ fields.keys ↔ ∃ value, (key, value) ∈ fields := by
  simp [keys]

theorem distinct_cons {field : String × Json} :
    Distinct (field :: fields) ↔ field.1 ∉ fields.keys ∧ fields.Distinct := by
  simp [Distinct, keys]

/-- A new value for a key that is there replaces the old one in place. -/
theorem insert_eq_map (h : fields.Distinct) (hk : key ∈ fields.keys) :
    fields.insert key value =
      fields.map fun field => if field.1 = key then (key, value) else field := by
  induction fields with
  | nil => simp [keys] at hk
  | cons field fields ih =>
    obtain ⟨hnew, hrest⟩ := distinct_cons.mp h
    rw [insert, List.map_cons]
    by_cases he : field.1 = key
    · subst he
      have hne : ∀ f ∈ fields, f.1 ≠ field.1 := fun f hf he =>
        hnew (mem_keys.mpr ⟨f.2, by rwa [← he]⟩)
      have hid : (fields.map fun f => if f.1 = field.1 then (field.1, value) else f) = fields :=
        (List.map_congr_left fun f hf => if_neg (hne f hf)).trans fields.map_id
      rw [if_pos rfl, if_pos rfl, hid]
    · have hmem : key ∈ keys fields := by simpa [keys, Ne.symm he] using hk
      rw [if_neg he, if_neg he, ih hrest hmem]

theorem mem_keys_insert {k : String} (h : k ∈ (fields.insert key value).keys) :
    k = key ∨ k ∈ fields.keys := by
  induction fields with
  | nil => exact .inl (by simpa [insert, keys] using h)
  | cons field fields ih =>
    rw [insert] at h
    split_ifs at h with he
    · exact .inr h
    · rcases List.mem_cons.mp h with rfl | h
      · exact .inr List.mem_cons_self
      · exact (ih h).imp_right (List.mem_cons_of_mem _)

/-- A value for a key, old or new, keeps the keys distinct. -/
theorem Distinct.insert (h : fields.Distinct) : (fields.insert key value).Distinct := by
  induction fields with
  | nil => exact List.nodup_singleton key
  | cons field fields ih =>
    obtain ⟨hnew, hrest⟩ := distinct_cons.mp h
    rw [Fields.insert]
    split_ifs with he
    · exact distinct_cons.mpr ⟨hnew, hrest⟩
    · refine distinct_cons.mpr ⟨fun hmem => ?_, ih hrest⟩
      rcases mem_keys_insert hmem with heq | hmem
      · exact he heq
      · exact hnew hmem

theorem ofPairs_distinct (pairs : List (String × Json)) : (ofPairs pairs).Distinct := by
  induction pairs using List.reverseRecOn with
  | nil => exact List.nodup_nil
  | append_singleton pairs pair ih =>
    unfold ofPairs at *
    rw [List.foldl_append]
    exact ih.insert

end ClusterBoard.Json.Fields

/-! ## What is read -/

namespace ClusterBoard.Json

open Reader

variable {depth : Nat} {cs rest : List Char} {fields : Fields}

/-- Only braces open an object. -/
theorem scalar?_ne_object : scalar? cs ≠ some (.object fields, rest) := by
  unfold scalar?
  split <;> simp [Option.map_eq_some_iff]

theorem value?_distinct (h : value? depth cs = some (.object fields, rest)) :
    fields.Distinct := by
  cases depth with
  | zero => exact absurd h scalar?_ne_object
  | succ depth =>
    unfold value? at h
    split at h
    · obtain ⟨read, -, heq⟩ := Option.map_eq_some_iff.mp h
      cases heq
    · obtain ⟨read, -, heq⟩ := Option.map_eq_some_iff.mp h
      cases heq
      exact Fields.ofPairs_distinct read.1
    · exact absurd h scalar?_ne_object

/-- An object that was read has no key twice. -/
theorem parse?_distinct {text : String} (h : parse? depth text = some (.object fields)) :
    fields.Distinct := by
  unfold parse? at h
  split at h
  · rename_i value rest hread
    split_ifs at h with hend
    cases h
    exact value?_distinct hread
  · cases h

end ClusterBoard.Json
