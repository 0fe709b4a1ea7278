import Mathlib
import ClusterBoard.Board.Pager
import ClusterBoard.Proofs.Json.Fields
import ClusterBoard.Proofs.Record.Order

/-!
# Decoding a collection

A payload decodes to one record for each key, highest ID first. The result does not depend on the
order of the keys, a new value for a key changes the record at that key's place and nothing else,
and look-up by ID finds the record of that key (`ofJson_canonical`).
-/

namespace ClusterBoard.Collection

variable {α : Type} [Record α] {fields other : Json.Fields} {key : String} {value : Json}

/-- The records of the fields, in payload order. -/
def decoded (α : Type) [Record α] (fields : Json.Fields) : List α :=
  fields.map fun field => Record.ofJson ⟨field.1⟩ field.2

theorem ofJson_object (fields : Json.Fields) :
    ofJson (.object fields) = .ok (ofRecords (decoded α fields)) := rfl

theorem ofJson_eq_error_iff {payload : Json} {e : CollectionError} :
    (ofJson payload : Except CollectionError (Collection α)) = .error e ↔
      payload.isObject = false ∧ e = ⟨payload.kind⟩ := by
  cases payload <;> simp [ofJson, Json.isObject, eq_comm]

/-! ## The IDs are the keys -/

theorem ids_decoded (fields : Json.Fields) :
    (decoded α fields).map Record.id = fields.keys.map RecordId.mk := by
  simp [decoded, Json.Fields.keys, Record.id_ofJson]

theorem nodup_ids (h : fields.Distinct) : ((decoded α fields).map Record.id).Nodup := by
  rw [ids_decoded]
  exact List.Nodup.map (fun _ _ he => congrArg RecordId.text he) h

theorem mem_decoded {r : α} :
    r ∈ decoded α fields ↔ ∃ key value, (key, value) ∈ fields ∧ Record.ofJson ⟨key⟩ value = r := by
  simp [decoded]

theorem records_perm (records : List α) : (ofRecords records).records.Perm records :=
  sortDescending_perm _ _

theorem texts_perm (α : Type) [Record α] (fields : Json.Fields) :
    ((ofRecords (decoded α fields)).records.map fun r => (Record.id r).text).Perm fields.keys := by
  have hids := (records_perm (decoded α fields)).map fun r => (Record.id r).text
  have hkeys : ((decoded α fields).map fun r => (Record.id r).text) = fields.keys := by
    simp [decoded, Json.Fields.keys, Record.id_ofJson]
  rwa [hkeys] at hids

/-! ## Other orders, other values -/

/-- Records that stand highest ID first stay as they stand. -/
theorem ofRecords_of_descending {records : List α}
    (h : records.Pairwise fun a b => (Record.id a).compare (Record.id b) ≠ .lt) :
    ofRecords records = ⟨records⟩ :=
  congrArg Collection.mk (sortDescending_of_descending h)

theorem ofRecords_eq_of_perm (h : fields.Distinct) (hp : other.Perm fields) :
    ofRecords (decoded α other) = ofRecords (decoded α fields) := by
  have hperm : (decoded α fields).Perm (decoded α other) := hp.symm.map _
  exact congrArg Collection.mk (sortDescending_eq_of_perm (nodup_ids h) hperm).symm

/-- The record with the key's ID gives way to another one. -/
def replacing (key : String) (record : α) (r : α) : α :=
  if Record.id r = ⟨key⟩ then record else r

theorem decoded_insert (h : fields.Distinct) (hk : key ∈ fields.keys) :
    decoded α (fields.insert key value) =
      (decoded α fields).map (replacing key (Record.ofJson ⟨key⟩ value)) := by
  rw [Json.Fields.insert_eq_map h hk]
  unfold decoded replacing
  rw [List.map_map, List.map_map]
  refine List.map_congr_left fun field _ => ?_
  by_cases he : field.1 = key <;> simp [he, Record.id_ofJson]

theorem id_replacing (r : α) :
    Record.id (replacing key (Record.ofJson ⟨key⟩ value) r) = Record.id r := by
  unfold replacing
  split_ifs with h
  · rw [Record.id_ofJson, h]
  · rfl

theorem ofRecords_insert (h : fields.Distinct) (hk : key ∈ fields.keys) :
    (ofRecords (decoded α (fields.insert key value))).records =
      (ofRecords (decoded α fields)).records.map (replacing key (Record.ofJson ⟨key⟩ value)) := by
  rw [decoded_insert h hk]
  exact (map_sortDescending fun r _ => id_replacing r).symm

/-- Among records with distinct IDs only one place is touched. -/
theorem map_replacing {records : List α} {record : α} {place : Nat}
    (h : (records.map Record.id).Nodup) (hp : (records[place]?).map Record.id = some ⟨key⟩) :
    records.map (replacing key record) = records.set place record := by
  obtain ⟨r, hr, hid⟩ := Option.map_eq_some_iff.mp hp
  refine List.ext_getElem? fun i => ?_
  rw [List.getElem?_map, List.getElem?_set]
  have hlt : place < records.length := (List.getElem?_eq_some_iff.mp hr).1
  by_cases hi : place = i
  · subst hi
    rw [hr, if_pos rfl, if_pos hlt, Option.map_some, replacing, if_pos hid]
  · rw [if_neg hi]
    cases hq : records[i]? with
    | none => rfl
    | some q =>
      have hne : Record.id q ≠ ⟨key⟩ := by
        intro he
        refine hi ((List.getElem?_inj (by simpa using hlt) h).mp ?_)
        simp [hr, hq, hid, he]
      rw [Option.map_some, replacing, if_neg hne]

theorem exists_place (α : Type) [Record α] (hk : key ∈ fields.keys) :
    ∃ (place : Nat) (old : α), (ofRecords (decoded α fields)).records[place]? = some old ∧
      Record.id old = ⟨key⟩ := by
  obtain ⟨old, hold, htext⟩ := List.mem_map.mp ((texts_perm α fields).mem_iff.mpr hk)
  obtain ⟨place, hplace⟩ := List.mem_iff_getElem?.mp hold
  exact ⟨place, old, hplace, by rw [← htext]⟩

/-- A new value for a key changes the record at that key's place and nothing else. -/
theorem ofRecords_insert_eq_set {place : Nat} {old : α} (h : fields.Distinct)
    (hk : key ∈ fields.keys) (hplace : (ofRecords (decoded α fields)).records[place]? = some old)
    (hid : Record.id old = ⟨key⟩) :
    ofRecords (decoded α (fields.insert key value)) =
      ⟨(ofRecords (decoded α fields)).records.set place (Record.ofJson ⟨key⟩ value)⟩ := by
  have hnodup : ((ofRecords (decoded α fields)).records.map Record.id).Nodup :=
    ((records_perm (decoded α fields)).map Record.id).nodup_iff.mpr (nodup_ids h)
  have hfound : ((ofRecords (decoded α fields)).records[place]?).map Record.id = some ⟨key⟩ := by
    rw [hplace, Option.map_some, hid]
  exact congrArg Collection.mk ((ofRecords_insert h hk).trans (map_replacing hnodup hfound))

/-! ## Look-up -/

theorem eq_of_mem_ofRecords (h : fields.Distinct) {r q : α}
    (hr : r ∈ (ofRecords (decoded α fields)).records)
    (hq : q ∈ (ofRecords (decoded α fields)).records) (he : Record.id r = Record.id q) : r = q :=
  List.inj_on_of_nodup_map (nodup_ids h) (mem_sortDescending.mp hr) (mem_sortDescending.mp hq) he

theorem find?_eq_some_iff (h : fields.Distinct) {r : α} :
    (ofRecords (decoded α fields)).find? key = some r ↔
      ∃ value, (key, value) ∈ fields ∧ r = Record.ofJson ⟨key⟩ value := by
  unfold find?
  constructor
  · intro hf
    have hkey : (Record.id r).text = key := by simpa using List.find?_some hf
    obtain ⟨k, value, hmem, rfl⟩ :=
      mem_decoded.mp (mem_sortDescending.mp (List.mem_of_find?_eq_some hf))
    rw [Record.id_ofJson] at hkey
    subst hkey
    exact ⟨value, hmem, rfl⟩
  · rintro ⟨value, hmem, rfl⟩
    have hr : (Record.ofJson ⟨key⟩ value : α) ∈ (ofRecords (decoded α fields)).records :=
      mem_sortDescending.mpr (mem_decoded.mpr ⟨key, value, hmem, rfl⟩)
    cases hf : (ofRecords (decoded α fields)).records.find? fun q => (Record.id q).text == key with
    | none =>
      have := List.find?_eq_none.mp hf _ hr
      simp [Record.id_ofJson] at this
    | some q =>
      have hkey : (Record.id q).text = key := by simpa using List.find?_some hf
      refine congrArg some (eq_of_mem_ofRecords h (List.mem_of_find?_eq_some hf) hr ?_)
      rw [Record.id_ofJson, ← hkey]

theorem find?_isSome_iff (h : fields.Distinct) :
    ((ofRecords (decoded α fields)).find? key).isSome ↔ key ∈ fields.keys := by
  rw [Option.isSome_iff_exists, Json.Fields.mem_keys]
  constructor
  · rintro ⟨r, hr⟩
    obtain ⟨value, hmem, -⟩ := (find?_eq_some_iff h).mp hr
    exact ⟨value, hmem⟩
  · rintro ⟨value, hmem⟩
    exact ⟨_, (find?_eq_some_iff h).mpr ⟨value, hmem, rfl⟩⟩

/-! ## The theorem -/

/-- What the collection of distinct fields is, whatever their order and their values. -/
structure Canonical (c : Collection α) (fields : Json.Fields) : Prop where
  /-- One record for each field. -/
  perm : c.records.Perm (fields.map fun field => Record.ofJson ⟨field.1⟩ field.2)
  /-- One ID for each key. -/
  ids : (c.records.map fun r => (Record.id r).text).Perm fields.keys
  descending : c.records.Pairwise fun a b => (Record.id a).compare (Record.id b) = .gt
  /-- The same for every order of the fields. -/
  order : ∀ other : Json.Fields, other.Perm fields → ofJson (.object other) = .ok c
  /-- A new value for a key changes the record at one place. -/
  replace : ∀ key ∈ fields.keys, ∀ value, ∃ (place : Nat) (old : α),
    c.records[place]? = some old ∧ Record.id old = ⟨key⟩ ∧
      ofJson (.object (fields.insert key value)) =
        .ok ⟨c.records.set place (Record.ofJson ⟨key⟩ value)⟩
  find_isSome : ∀ id, (c.find? id).isSome ↔ id ∈ fields.keys
  find_eq : ∀ id r, c.find? id = some r ↔
    ∃ value, (id, value) ∈ fields ∧ r = Record.ofJson ⟨id⟩ value

theorem ofRecords_canonical (h : fields.Distinct) :
    (ofRecords (decoded α fields)).Canonical fields := by
  constructor
  case perm => exact records_perm _
  case ids => exact texts_perm α fields
  case descending => exact sortDescending_strict (nodup_ids h)
  case order =>
    intro other hp
    rw [ofJson_object, ofRecords_eq_of_perm h hp]
  case replace =>
    intro key hk value
    obtain ⟨place, old, hplace, hid⟩ := exists_place α hk
    refine ⟨place, old, hplace, hid, ?_⟩
    rw [ofJson_object, ofRecords_insert_eq_set h hk hplace hid]
  case find_isSome => exact fun _ => find?_isSome_iff h
  case find_eq => exact fun _ _ => find?_eq_some_iff h

/-- **Decoding is canonical.** An object decodes to one record for each key in strictly descending
order of ID, in every order of its keys to the same records, and so to the same pager; a new value
for a key changes the record at one place; look-up finds the record of each key. Other payloads are
the only errors. -/
theorem ofJson_canonical (α : Type) [Record α] :
    (∀ fields : Json.Fields, fields.Distinct →
      ∃ c : Collection α, ofJson (.object fields) = .ok c ∧ c.Canonical fields) ∧
    (∀ fields other : Json.Fields, fields.Distinct → other.Perm fields →
      (ofJson (.object other)).map Pager.ofJobs = (ofJson (.object fields)).map Pager.ofJobs) ∧
    ∀ payload e, (ofJson payload : Except CollectionError (Collection α)) = .error e ↔
      payload.isObject = false ∧ e = ⟨payload.kind⟩ := by
  refine ⟨fun fields h => ?_, fun fields other h hp => ?_, fun _ _ => ofJson_eq_error_iff⟩
  · exact ⟨_, ofJson_object fields, ofRecords_canonical h⟩
  · rw [ofJson_object, ofJson_object, ofRecords_eq_of_perm h hp]

/-- Three spellings of one number and a name, in two orders. -/
theorem ofJson_canonical_tied_ids :
    Json.Fields.Distinct [("7", .null), ("gpu", .null), ("007", .bool true), ("+7", .object [])] ∧
    ∃ c : Collection JobRecord,
      ofJson (.object [("7", .null), ("gpu", .null), ("007", .bool true), ("+7", .object [])]) =
        .ok c ∧
      ofJson (.object [("+7", .object []), ("007", .bool true), ("gpu", .null), ("7", .null)]) =
        .ok c ∧
      c.find? "007" = some (JobRecord.ofJson ⟨"007"⟩ (.bool true)) := by
  have hd : Json.Fields.Distinct
      [("7", .null), ("gpu", .null), ("007", .bool true), ("+7", .object [])] := by
    unfold Json.Fields.Distinct; decide
  obtain ⟨c, hc, hcanonical⟩ := (ofJson_canonical JobRecord).1 _ hd
  have hp := List.reverse_perm
    [("7", Json.null), ("gpu", .null), ("007", .bool true), ("+7", .object [])]
  refine ⟨hd, c, hc, hcanonical.order _ hp, ?_⟩
  exact (hcanonical.find_eq _ _).mpr ⟨.bool true, by simp, rfl⟩

end ClusterBoard.Collection
