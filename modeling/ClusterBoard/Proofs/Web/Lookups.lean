import Mathlib
import ClusterBoard.Proofs.Web.Addresses

/-!
# Asking for one record

The URL of a record ends with its ID as one segment, in which everything that would cut the URL is
encoded. Two things about an ID are lost on the way: tabs and line ends are left out of any segment,
and a point or two are no segment at all. The other IDs are told apart by their URLs
(`singleUrl_names_iff`).
-/

namespace ClusterBoard.Web

open Percent (utf8 encode decode specialSegmentSet StandsFor)

namespace Url

/-! ## Literal segments -/

section Segment

variable {cs : List Char} {path : List String} {segment : String}

theorem isSingleDot_encode : isSingleDot (encode specialSegmentSet cs) = true ↔ cs = ['.'] := by
  constructor
  · intro h
    exact Percent.eq_of_decode_encode rfl (decode_of_isSingleDot h)
  · rintro rfl
    rfl

theorem isDoubleDot_encode :
    isDoubleDot (encode specialSegmentSet cs) = true ↔ cs = ['.', '.'] := by
  constructor
  · intro h
    exact Percent.eq_of_decode_encode rfl (decode_of_isDoubleDot h)
  · rintro rfl
    rfl

/-- A text that is no segment. -/
def IsDots (segment : String) : Prop := segment = "." ∨ segment = ".."

instance (segment : String) : Decidable (IsDots segment) := inferInstanceAs (Decidable (_ ∨ _))

theorem pushSegment_of_dots (h : IsDots segment) : pushSegment .special path segment = path :=
  if_pos h

theorem pushSegment_of_not_dots (h : ¬ IsDots segment) : pushSegment .special path segment =
    pushLast .special (if path = [""] then [] else path)
      (encode specialSegmentSet (visible segment)) := if_neg h

/-- A text that is one segment, and the same in a segment and in a link. -/
def IsWord (segment : String) : Prop := segment ≠ "" ∧ segment.toList.all Char.isAlpha = true

instance (segment : String) : Decidable (IsWord segment) := inferInstanceAs (Decidable (_ ∧ _))

theorem IsWord.isAlpha (h : IsWord segment) {c : Char} (hc : c ∈ segment.toList) :
    c.isAlpha = true := List.all_eq_true.mp h.2 c hc

theorem IsWord.visible (h : IsWord segment) : visible segment = segment.toList := by
  refine List.filter_eq_self.mpr fun c hc => ?_
  have halpha := h.isAlpha hc
  rw [Bool.not_eq_true', Bool.eq_false_iff]
  intro hskipped
  unfold isSkipped at hskipped
  simp only [Bool.or_eq_true, beq_iff_eq] at hskipped
  rcases hskipped with (rfl | rfl) | rfl <;> cases halpha

theorem IsWord.not_dots (h : IsWord segment) : ¬ IsDots segment := by
  rintro (rfl | rfl) <;> exact absurd h (by decide)

theorem IsWord.concat_ne (h : IsWord segment) (path : List String) : path ++ [segment] ≠ [""] := by
  intro heq
  have hlast := congrArg List.getLast? heq
  rw [List.getLast?_concat] at hlast
  exact h.1 (Option.some.inj hlast)

theorem pushSegment_of_word (h : IsWord segment) : pushSegment .special path segment =
    (if path = [""] then [] else path) ++ [segment] := by
  have hencode : encode specialSegmentSet segment.toList = segment.toList :=
    Percent.encode_eq_self fun c hc => (Percent.not_in_of_isAlpha (h.isAlpha hc)).2
  obtain ⟨hsingle, hdouble⟩ := no_dots_of_isAlpha fun c hc => h.isAlpha hc
  rw [pushSegment_of_not_dots h.not_dots, h.visible, hencode, pushLast_of_plain hsingle hdouble,
    String.ofList_toList]

end Segment

end Url

open Url (IsDots visible stem openEnd)

/-! ## Requests for records -/

/-- What is asked for one by one. -/
inductive Single where
  | job
  | node
  deriving DecidableEq, Repr

/-- The word for it in a path. -/
def Single.noun : Single → String
  | .job => "job"
  | .node => "node"

theorem Single.slash_not_mem_noun (single : Single) : '/' ∉ single.noun.toList := by
  cases single <;> decide

/-- The URL of one record. -/
def Client.singleUrl (client : Client) : Single → String → Url
  | .job => client.jobUrl
  | .node => client.nodeUrl

/-- The segment of what stays of an ID; a point stays where it is. -/
def recordSegment (cs : List Char) : List Char :=
  if cs = ['.'] then [] else encode specialSegmentSet cs

/-- The segments after those of the server's address. -/
def asked (noun id : String) : List String :=
  if IsDots id then ["api", noun]
  else if visible id = ['.', '.'] then ["api", ""]
  else ["api", noun, String.ofList (recordSegment (visible id))]

/-- An ID that is asked for as it is. -/
def IsLiteral (id : String) : Prop := ¬ IsDots id ∧ visible id = id.toList

instance (id : String) : Decidable (IsLiteral id) := inferInstanceAs (Decidable (_ ∧ _))

/-- A URL under the address of a server asks for the record of an ID: one segment follows the word,
and it stands for the ID. -/
def AsksFor (base : Url) (single : Single) (id : String) (u : Url) : Prop :=
  u = { base with path := u.path } ∧
    ∃ segment : String, u.path.text = stem base.path.text ++ "/api/".toList ++
      single.noun.toList ++ '/' :: segment.toList ∧ Url.IsSegment segment ∧ StandsFor segment id

/-- What is written as an empty segment. -/
def IsBare (cs : List Char) : Prop := cs = [] ∨ cs = ['.']

/-- IDs that are asked for alike: points are all one, and of other IDs only what stays matters. -/
def Alike (id other : String) : Prop :=
  (IsDots id ∧ IsDots other) ∨
    (¬ IsDots id ∧ ¬ IsDots other ∧
      (visible id = visible other ∨ IsBare (visible id) ∧ IsBare (visible other)))

section Requests

variable {client : Client} {single : Single} {path : List String} {id other : String}

theorem pushSegment_api (path : List String) :
    Url.pushSegment .special path "api" = (if path = [""] then [] else path) ++ ["api"] :=
  Url.pushSegment_of_word (by decide)

theorem pushSegment_noun (path : List String) (single : Single) :
    Url.pushSegment .special (path ++ ["api"]) single.noun = path ++ ["api", single.noun] := by
  have hapi : Url.IsWord "api" := by decide
  have hnoun : Url.IsWord single.noun := by cases single <;> decide
  rw [Url.pushSegment_of_word hnoun, if_neg (hapi.concat_ne path), List.append_assoc]
  rfl

theorem parent_noun (path : List String) (single : Single) :
    Url.parent (path ++ ["api", single.noun]) = path ++ ["api"] := by
  have hlast : path ++ ["api", single.noun] = (path ++ ["api"]) ++ [single.noun] := by
    rw [List.append_assoc]
    rfl
  have hdrive : Url.startsWithDrive single.noun.toList = false := by cases single <;> decide
  unfold Url.parent
  rw [hlast, List.getLast?_concat]
  simp only [hdrive, List.dropLast_concat]
  rfl

theorem pushSegment_id (path : List String) (single : Single) (id : String) :
    Url.pushSegment .special (path ++ ["api", single.noun]) id = path ++ asked single.noun id := by
  have hne : path ++ ["api", single.noun] ≠ [""] := by
    intro heq
    have hlength := congrArg List.length heq
    rw [List.length_append, List.length_singleton] at hlength
    exact absurd hlength (by simp)
  unfold asked
  by_cases hdots : IsDots id
  · rw [Url.pushSegment_of_dots hdots, if_pos hdots]
  rw [Url.pushSegment_of_not_dots hdots, if_neg hne, if_neg hdots]
  by_cases hdouble : visible id = ['.', '.']
  · rw [Url.pushLast_of_double (Url.isDoubleDot_encode.mpr hdouble), if_pos hdouble, parent_noun,
      List.append_assoc]
    rfl
  have hd := Bool.eq_false_iff.mpr (mt Url.isDoubleDot_encode.mp hdouble)
  rw [if_neg hdouble]
  unfold recordSegment
  by_cases hsingle : visible id = ['.']
  · rw [Url.pushLast_of_single (Url.isSingleDot_encode.mpr hsingle) hd, if_pos hsingle,
      List.append_assoc]
    rfl
  have hs := Bool.eq_false_iff.mpr (mt Url.isSingleDot_encode.mp hsingle)
  rw [Url.pushLast_of_plain hs hd, if_neg hsingle, List.append_assoc]
  rfl

theorem singleUrl_eq (h : client.base.IsWebAt path) (single : Single) (id : String) :
    client.singleUrl single id =
      { client.base with path := .segments (openEnd path ++ asked single.noun id) } := by
  have hendpoint : client.singleUrl single id =
      client.base.pushSegments ["api", single.noun, id] := by cases single <;> rfl
  have hsegments : ["api", single.noun, id].foldl (Url.pushSegment .special) (Url.popIfEmpty path) =
      openEnd path ++ asked single.noun id := by
    rw [List.foldl_cons, List.foldl_cons, List.foldl_cons, List.foldl_nil, pushSegment_api,
      pushSegment_noun, pushSegment_id]
    rfl
  rw [hendpoint, ← hsegments]
  unfold Url.pushSegments
  rw [h.segments, h.kind]

theorem text_singleUrl (h : client.base.IsWebAt path) (single : Single) (id : String) :
    (client.singleUrl single id).path.text =
      stem client.base.path.text ++ (UrlPath.segments (asked single.noun id)).text := by
  rw [singleUrl_eq h, h.segments, ← Url.text_openEnd h.nonempty h.slashless, ← Url.text_append]

end Requests

/-! ## What is asked for -/

section Asked

variable {single : Single} {id other : String} {cs ds : List Char}

theorem text_record (noun segment : String) : (UrlPath.segments ["api", noun, segment]).text =
    "/api/".toList ++ noun.toList ++ '/' :: segment.toList := by
  simp [UrlPath.text]

theorem slash_not_mem_recordSegment (cs : List Char) : '/' ∉ recordSegment cs := by
  unfold recordSegment
  split_ifs
  · exact List.not_mem_nil
  · exact Percent.not_mem_encode (by decide) fun _ => by decide

theorem slashless_asked (single : Single) (id : String) : Url.Slashless (asked single.noun id) := by
  have hsegment := slash_not_mem_recordSegment (visible id)
  unfold asked
  split_ifs <;> simp [Url.Slashless, single.slash_not_mem_noun, hsegment]

theorem asked_of_literal (h : IsLiteral id) : asked single.noun id =
    ["api", single.noun, String.ofList (encode specialSegmentSet id.toList)] := by
  obtain ⟨hdots, hvisible⟩ := h
  have hsingle : id.toList ≠ ['.'] := fun heq => hdots (.inl (String.toList_injective heq))
  have hdouble : id.toList ≠ ['.', '.'] := fun heq => hdots (.inr (String.toList_injective heq))
  unfold asked recordSegment
  rw [if_neg hdots, hvisible, if_neg hdouble, if_neg hsingle]

theorem recordSegment_eq_nil_iff : recordSegment cs = [] ↔ IsBare cs := by
  unfold recordSegment IsBare
  split_ifs with hsingle
  · simp [hsingle]
  · have hnil : encode specialSegmentSet cs = [] ↔ cs = [] :=
      ⟨fun h => Percent.encode_injective rfl (h.trans rfl), by rintro rfl; rfl⟩
    simp [hnil, hsingle]

theorem recordSegment_eq_iff :
    recordSegment cs = recordSegment ds ↔ cs = ds ∨ IsBare cs ∧ IsBare ds := by
  constructor
  · intro h
    by_cases hbare : IsBare cs
    · rw [recordSegment_eq_nil_iff.mpr hbare] at h
      exact .inr ⟨hbare, recordSegment_eq_nil_iff.mp h.symm⟩
    have hbare' : ¬ IsBare ds := by
      rw [← recordSegment_eq_nil_iff, ← h, recordSegment_eq_nil_iff]
      exact hbare
    unfold recordSegment at h
    rw [if_neg fun heq => hbare (.inr heq), if_neg fun heq => hbare' (.inr heq)] at h
    exact .inl (Percent.encode_injective rfl h)
  · rintro (rfl | ⟨hbare, hbare'⟩)
    · rfl
    · rw [recordSegment_eq_nil_iff.mpr hbare, recordSegment_eq_nil_iff.mpr hbare']

theorem asked_eq_iff (single : Single) {id other : String} :
    asked single.noun id = asked single.noun other ↔ Alike id other := by
  have hnoun : single.noun ≠ "" := by cases single <;> decide
  have hbare : ¬ IsBare ['.', '.'] := by rintro (h | h) <;> cases h
  unfold asked Alike
  by_cases hid : IsDots id <;> by_cases hother : IsDots other
  · simp [hid, hother]
  · by_cases hdouble : visible other = ['.', '.'] <;> simp [hid, hother, hdouble, hnoun]
  · by_cases hdouble : visible id = ['.', '.'] <;> simp [hid, hother, hdouble, hnoun.symm]
  · by_cases hdouble : visible id = ['.', '.'] <;> by_cases hdouble' : visible other = ['.', '.']
    · simp [hid, hother, hdouble, hdouble']
    · simp [hid, hother, hdouble, hdouble', hbare, Ne.symm hdouble']
    · simp [hid, hother, hdouble, hdouble', hbare]
    · simp [hid, hother, hdouble, hdouble', String.ofList_inj, recordSegment_eq_iff]

theorem Alike.eq (h : Alike id other) (hid : IsLiteral id) (hother : IsLiteral other) :
    id = other := by
  have hempty {s : String} (hs : IsLiteral s) (hbare : IsBare (visible s)) : s = "" := by
    rw [hs.2] at hbare
    rcases hbare with hnil | hdot
    · exact String.toList_eq_nil_iff.mp hnil
    · exact absurd (.inl (String.toList_injective hdot)) hs.1
  rcases h with ⟨hdots, -⟩ | ⟨-, -, heq | ⟨hbare, hbare'⟩⟩
  · exact absurd hdots hid.1
  · rw [hid.2, hother.2] at heq
    exact String.toList_injective heq
  · rw [hempty hid hbare, hempty hother hbare']

end Asked

/-! ## The URL of a record -/

section Record

variable {client : Client} {path : List String}

theorem text_singleUrl_eq_iff (h : client.base.IsWebAt path) (single : Single)
    (id other : String) : (client.singleUrl single id).text = (client.singleUrl single other).text ↔
      Alike id other := by
  rw [singleUrl_eq h, singleUrl_eq h, Url.text_eq_iff, Url.text_append, Url.text_append,
    List.append_right_inj, ← asked_eq_iff single]
  constructor
  · exact Url.text_injective (slashless_asked single id) (slashless_asked single other)
  · intro heq
    rw [heq]

theorem asksFor_of_literal (h : client.base.IsWebAt path) (single : Single) {id : String}
    (hid : id ≠ "") (hliteral : IsLiteral id) :
    AsksFor client.base single id (client.singleUrl single id) := by
  have hcs : id.toList ≠ [] := mt String.toList_eq_nil_iff.mp hid
  have hcut : "/\\?#".toList.all specialSegmentSet = true := by decide
  have hsegment := Url.isSegment_encode hcs fun c hc _ => List.all_eq_true.mp hcut c hc
  refine ⟨?_, String.ofList (encode specialSegmentSet id.toList), ?_, hsegment, ?_⟩
  · rw [singleUrl_eq h]
  · rw [text_singleUrl h, asked_of_literal hliteral, text_record, ← List.append_assoc,
      ← List.append_assoc]
  · unfold StandsFor
    rw [String.toList_ofList, Percent.decode_encode rfl]
    exact Percent.text?_eq_some_iff.mpr rfl

theorem literal_of_asksFor (h : client.base.IsWebAt path) (single : Single) {id : String}
    (hasks : AsksFor client.base single id (client.singleUrl single id)) : IsLiteral id := by
  obtain ⟨-, segment, htext, ⟨hne, hplain⟩, hstands⟩ := hasks
  rw [text_singleUrl h, List.append_assoc, List.append_assoc, ← List.append_assoc "/api/".toList,
    ← text_record, List.append_right_inj] at htext
  have hslashless : Url.Slashless ["api", single.noun, segment] := by
    have hsegment : '/' ∉ segment.toList := hplain '/' (by decide)
    simp [Url.Slashless, single.slash_not_mem_noun, hsegment]
  have hasked := Url.text_injective (slashless_asked single id) hslashless htext
  unfold asked at hasked
  split_ifs at hasked with hdots hdouble
  · simp at hasked
  · simp at hasked
  · refine ⟨hdots, ?_⟩
    simp only [List.cons.injEq, and_true, true_and] at hasked
    subst hasked
    unfold recordSegment at hne hstands
    split_ifs at hne hstands with hsingle
    · exact absurd rfl hne
    · unfold StandsFor at hstands
      rw [String.toList_ofList, Percent.text?_eq_some_iff] at hstands
      exact Percent.eq_of_decode_encode rfl hstands

theorem fetchJob_of_none (client : Client) (id : String) :
    client.fetchJob id .none = .error (.request (client.jobUrl id).text) := rfl

/-- **Records are told apart.** The URL of a record asks for its ID as one segment exactly if the ID
is literal: none of points, and without tabs and line ends. Literal IDs have different URLs; other
ones share theirs with every ID that is alike. -/
theorem singleUrl_names_iff {address : String} (hclient : Client.ofAddress address = .ok client)
    (hweb : IsWebAddress address) (single : Single) {id : String} (hid : id ≠ "") :
    (AsksFor client.base single id (client.singleUrl single id) ↔ IsLiteral id) ∧
    (∀ other, (client.singleUrl single id).text = (client.singleUrl single other).text ↔
      Alike id other) ∧
    (IsLiteral id → ∀ other, IsLiteral other → id ≠ other →
      (client.singleUrl single id).text ≠ (client.singleUrl single other).text) := by
  obtain ⟨path, h⟩ := isWebAt_of_ofAddress hclient hweb
  refine ⟨⟨literal_of_asksFor h single, asksFor_of_literal h single hid⟩,
    text_singleUrl_eq_iff h single id, ?_⟩
  intro hliteral other hother hne heq
  exact hne (((text_singleUrl_eq_iff h single id other).mp heq).eq hliteral hother)

/-- Slashes, percent signs and blanks of an ID are encoded. -/
theorem singleUrl_names_iff_slashed :
    Client.ofAddress "http://h" = .ok plainHost ∧ IsWebAddress "http://h" ∧ "a/b %?" ≠ "" ∧
    IsLiteral "a/b %?" ∧ AsksFor plainHost.base .job "a/b %?" (plainHost.jobUrl "a/b %?") ∧
    (plainHost.jobUrl "a/b %?").text = "http://h/api/job/a%2Fb%20%25%3F" := by
  have hweb : IsWebAddress "http://h" := by decide
  have hne : "a/b %?" ≠ "" := by decide
  have hliteral : IsLiteral "a/b %?" := by decide
  obtain ⟨hasks, -⟩ := singleUrl_names_iff ofAddress_plainHost hweb .job hne
  exact ⟨ofAddress_plainHost, hweb, hne, hliteral, hasks.mpr hliteral, by decide +kernel⟩

/-- A tab is left out: two IDs, one URL. -/
theorem singleUrl_tab :
    Client.ofAddress "http://h" = .ok plainHost ∧
    plainHost.fetchJob "a\tb" .none = .error (.request "http://h/api/job/ab") ∧
    plainHost.fetchJob "ab" .none = .error (.request "http://h/api/job/ab") ∧
    ¬ AsksFor plainHost.base .job "a\tb" (plainHost.jobUrl "a\tb") := by
  have htab : (plainHost.jobUrl "a\tb").text = "http://h/api/job/ab" := by decide +kernel
  have hplain : (plainHost.jobUrl "ab").text = "http://h/api/job/ab" := by decide +kernel
  obtain ⟨path, h⟩ := isWebAt_of_ofAddress ofAddress_plainHost (by decide)
  refine ⟨ofAddress_plainHost, ?_, ?_, fun hasks => ?_⟩
  · rw [fetchJob_of_none, htab]
  · rw [fetchJob_of_none, hplain]
  · exact absurd (literal_of_asksFor h .job hasks) (by decide)

end Record

end ClusterBoard.Web
