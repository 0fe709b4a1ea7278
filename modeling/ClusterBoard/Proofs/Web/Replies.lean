import Mathlib
import ClusterBoard.Proofs.Json.Fields
import ClusterBoard.Proofs.Record.Decoding
import ClusterBoard.Web.Client

/-!
# What a reply brings

A reply brings the fields of an object (`Reply.fields?`), or it fails in one of four ways
(`Reply.Fails`). A collection is fetched from every reply of the first kind and from no other; it
depends on the fields only, and no ID occurs in it twice.
-/

namespace ClusterBoard.Web

/-- The JSON value in a body. -/
def bodyValue? (body : ByteArray) : Option Json :=
  (String.fromUTF8? body).bind (Json.parse? Json.bodyDepth)

/-- The fields of a value, if it is an object. -/
def objectFields? : Json → Option Json.Fields
  | .object fields => some fields
  | _ => none

/-- The fields of the object that a reply brings. -/
def Reply.fields? : Reply → Option Json.Fields
  | .none => Option.none
  | .answer status body =>
    if Client.isSuccess status then (bodyValue? body).bind objectFields? else Option.none

/-- The ways in which a reply brings no fields. -/
inductive Reply.Fails : Reply → Prop
  | missing : Fails Reply.none
  | status {status : Nat} {body : ByteArray} (h : status < 200 ∨ 300 ≤ status) :
      Fails (.answer status body)
  /-- The body is no JSON. -/
  | body {status : Nat} {body : ByteArray} (h : bodyValue? body = Option.none) :
      Fails (.answer status body)
  /-- The body is a value of another kind. -/
  | kind {status : Nat} {body : ByteArray} {value : Json} (h : bodyValue? body = some value)
      (ho : value.isObject = false) : Fails (.answer status body)

section Reply

variable {reply : Reply} {fields : Json.Fields} {value : Json}

theorem isSuccess_eq_false_iff {status : Nat} :
    Client.isSuccess status = false ↔ status < 200 ∨ 300 ≤ status := by
  unfold Client.isSuccess
  rw [Bool.and_eq_false_iff, decide_eq_false_iff_not, decide_eq_false_iff_not]
  omega

theorem objectFields?_eq_none_iff : objectFields? value = none ↔ value.isObject = false := by
  cases value <;> simp [objectFields?, Json.isObject]

theorem objectFields?_eq_some_iff : objectFields? value = some fields ↔ value = .object fields := by
  cases value <;> simp [objectFields?]

theorem fields?_eq_some_iff : reply.fields? = some fields ↔ ∃ status body,
    reply = .answer status body ∧ Client.isSuccess status = true ∧
      bodyValue? body = some (.object fields) := by
  cases reply with
  | none => simp [Reply.fields?]
  | answer status body => simp [Reply.fields?, Option.bind_eq_some_iff, objectFields?_eq_some_iff]

/-- A reply brings fields or fails. -/
theorem fails_iff : reply.Fails ↔ reply.fields? = none := by
  constructor
  · intro h
    cases h with
    | missing => rfl
    | status h => simp [Reply.fields?, isSuccess_eq_false_iff.mpr h]
    | body h => simp [Reply.fields?, h]
    | kind h ho => simp [Reply.fields?, h, objectFields?_eq_none_iff.mpr ho]
  · intro h
    cases reply with
    | none => exact .missing
    | answer status body =>
      cases hs : Client.isSuccess status with
      | false => exact .status (isSuccess_eq_false_iff.mp hs)
      | true =>
        cases hv : bodyValue? body with
        | none => exact .body hv
        | some value =>
          rw [Reply.fields?, if_pos hs, hv, Option.bind_some, objectFields?_eq_none_iff] at h
          exact .kind hv h

/-- A text that is sent in UTF-8 is read as it stands. -/
theorem fields?_of_text {text : String}
    (h : Json.parse? Json.bodyDepth text = some (.object fields)) :
    (Reply.answer 200 text.toUTF8).fields? = some fields := by
  have hutf8 : String.fromUTF8? text.toUTF8 = some text := dif_pos text.isValidUTF8
  refine fields?_eq_some_iff.mpr ⟨200, text.toUTF8, rfl, rfl, ?_⟩
  rw [bodyValue?, hutf8]
  exact h

theorem fields?_distinct (h : reply.fields? = some fields) : fields.Distinct := by
  obtain ⟨status, body, -, -, hv⟩ := fields?_eq_some_iff.mp h
  obtain ⟨text, -, hparse⟩ := Option.bind_eq_some_iff.mp hv
  exact Json.parse?_distinct hparse

end Reply

namespace Client

variable {α : Type} [Record α] {url : Url} {reply : Reply} {fields : Json.Fields}

section Body

variable {code : Nat} {body : ByteArray} {value : Json}

theorem readReply_of_status (hs : isSuccess code = false) :
    readReply url (.answer code body) = .error (.status url.text code) := by
  simp only [readReply, hs]
  rfl

theorem readReply_of_value (hs : isSuccess code = true) (hv : bodyValue? body = some value) :
    readReply url (.answer code body) = .ok value := by
  unfold bodyValue? at hv
  simp only [readReply, hs, if_true, hv]

theorem readReply_of_no_value (hs : isSuccess code = true) (hv : bodyValue? body = none) :
    readReply url (.answer code body) = .error (.decode url.text) := by
  unfold bodyValue? at hv
  simp only [readReply, hs, if_true, hv]

end Body

theorem readCollection_of_value {value : Json} (h : readReply url reply = .ok value) :
    (readCollection url reply : Except FetchError (Collection α)) =
      (Collection.ofJson value).mapError .collection := by
  unfold readCollection
  rw [h]
  cases hc : (Collection.ofJson value : Except CollectionError (Collection α)) <;>
    simp [bind, Except.bind, Except.mapError, hc]

theorem readCollection_of_error {e : FetchError} (h : readReply url reply = .error e) :
    (readCollection url reply : Except FetchError (Collection α)) = .error e := by
  unfold readCollection
  rw [h]
  rfl

/-- From fields the records are fetched. -/
theorem readCollection_of_fields (h : reply.fields? = some fields) :
    (readCollection url reply : Except FetchError (Collection α)) =
      .ok (.ofRecords (Collection.decoded α fields)) := by
  obtain ⟨code, body, rfl, hs, hv⟩ := fields?_eq_some_iff.mp h
  rw [readCollection_of_value (readReply_of_value hs hv), Collection.ofJson_object]
  rfl

/-- Without fields nothing is fetched. -/
theorem readCollection_of_no_fields (h : reply.fields? = none) :
    ∃ e, (readCollection url reply : Except FetchError (Collection α)) = .error e := by
  cases reply with
  | none => exact ⟨_, readCollection_of_error rfl⟩
  | answer code body =>
    cases hs : isSuccess code with
    | false => exact ⟨_, readCollection_of_error (readReply_of_status hs)⟩
    | true =>
      cases hv : bodyValue? body with
      | none => exact ⟨_, readCollection_of_error (readReply_of_no_value hs hv)⟩
      | some value =>
        rw [Reply.fields?, if_pos hs, hv, Option.bind_some, objectFields?_eq_none_iff] at h
        rw [readCollection_of_value (readReply_of_value hs hv),
          Collection.ofJson_eq_error_iff.mpr ⟨h, rfl⟩]
        exact ⟨_, rfl⟩

end Client

end ClusterBoard.Web
