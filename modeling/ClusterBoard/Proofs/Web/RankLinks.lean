import Mathlib
import ClusterBoard.Board.NodeList
import ClusterBoard.Proofs.Text.Numbers
import ClusterBoard.Proofs.Web.Links

/-!
# Links of ranks

The link of a rank is made of the node's logical name and the rank's port, and the name is written
into it as it is. Read again relative to the server's address, it leads to the proxy's entry of that
name and port exactly if the name is plain (`rankLinks_lead_iff`): nothing in it cuts a URL, is left
out of it or looks like an escape. A link that is read differently has fewer bytes for the entry
than the name and the port have.
-/

namespace ClusterBoard.Web

open Percent (utf8 decode encode pathSet HasEscape StandsFor)
open Url (IsSegment Slashless folder slashed visible endsPath isSkipped pushPath withPath)

/-! ## Names and entries -/

/-- A backslash is read as a slash. -/
def asSlash (c : Char) : Char := if c = '\\' then '/' else c

/-- What cuts a link or is left out of it. -/
def cuts : List Char := "/\\?#\t\n\r".toList

theorem mem_cuts_iff {c : Char} :
    c ∈ cuts ↔ asSlash c = '/' ∨ endsPath c = true ∨ isSkipped c = true := by
  show c ∈ ['/', '\\', '?', '#', '\t', '\n', '\r'] ↔ _
  unfold asSlash endsPath isSkipped
  split_ifs with hback
  · simp [hback]
  · simp [hback, or_assoc]

/-- A name that stands for itself in a link. -/
structure IsPlainName (name : String) : Prop where
  nonempty : name ≠ ""
  uncut : ∀ c ∈ cuts, c ∉ name.toList
  unescaped : ¬ HasEscape name.toList

/-- The colon and the port that follow a name. -/
def portText (port : Nat) : List Char := ':' :: (toString port).toList

/-- The name and the port of a rank. -/
def rankLabel (name : String) (port : Nat) : String := name ++ ":" ++ toString port

/-- A URL is the entry of a named node's port with the proxy of the server. -/
structure IsProxyEntry (base : Url) (name : String) (port : Nat) (u : Url) : Prop where
  query : u.query = none
  fragment : u.fragment = none
  named : name ≠ ""
  entry : ∃ segment : String, u.path.text = slashed base.path.text ++ "api/proxy/".toList ++
    segment.toList ++ ['/'] ∧ IsSegment segment ∧ StandsFor segment (rankLabel name port)

section Label

variable {name : String} {port : Nat} {c : Char}

theorem toList_rankLabel (name : String) (port : Nat) :
    (rankLabel name port).toList = name.toList ++ portText port := by
  simp [rankLabel, portText]

theorem not_mem_portText (port : Nat) (hc : c = '%' ∨ c ∈ cuts) : c ∉ portText port := by
  have hall : ('%' :: cuts).all fun c => c != ':' && !c.isDigit := by decide
  have hplain := List.all_eq_true.mp hall c (List.mem_cons.mpr hc)
  rw [Bool.and_eq_true, bne_iff_ne, Bool.not_eq_true'] at hplain
  unfold portText
  rw [List.mem_cons, not_or]
  exact ⟨hplain.1, Text.not_mem_toString hplain.2 port⟩

/-- Nothing in a port is left out. -/
theorem visible_rankLabel (name : String) (port : Nat) :
    visible (rankLabel name port) = visible name ++ portText port := by
  have hport : (portText port).filter (!isSkipped ·) = portText port := by
    refine List.filter_eq_self.mpr fun c hc => ?_
    rw [Bool.not_eq_true', Bool.eq_false_iff]
    intro hskipped
    exact not_mem_portText port (.inr (mem_cuts_iff.mpr (.inr (.inr hskipped)))) hc
  unfold visible
  rw [toList_rankLabel, List.filter_append, hport]

theorem hasEscape_rankLabel_iff :
    HasEscape (rankLabel name port).toList ↔ HasEscape name.toList := by
  rw [toList_rankLabel]
  exact Percent.hasEscape_append_iff rfl (not_mem_portText port (.inl rfl))

end Label

/-! ## Bytes -/

section Bytes

variable {label : String} {cs last : List Char}

theorem map_asSlash (h : '\\' ∉ cs) : cs.map asSlash = cs := by
  conv_rhs => rw [← List.map_id cs]
  refine List.map_congr_left fun c hc => if_neg ?_
  rintro rfl
  exact h hc

theorem length_utf8_asSlash (cs : List Char) :
    (utf8 (cs.map asSlash)).length = (utf8 cs).length := by
  induction cs with
  | nil => rfl
  | cons c cs ih =>
    have hc : (String.utf8EncodeChar (asSlash c)).length = (String.utf8EncodeChar c).length := by
      unfold asSlash
      split_ifs with hback
      · subst hback
        rfl
      · rfl
    rw [List.map_cons, Percent.length_utf8_cons, Percent.length_utf8_cons, hc, ih]

/-- What stands for a label and is part of what is read of it is all of the label. -/
theorem whole_of_decode (hlast : last.Sublist ((visible label).map asSlash))
    (hdecode : decode last = utf8 label.toList) :
    visible label = label.toList ∧ last = label.toList.map asSlash ∧ ¬ HasEscape last := by
  -- From the label to what is decoded again no step adds bytes, so no step loses any.
  have hdecoded : (utf8 label.toList).length ≤ (utf8 last).length :=
    hdecode ▸ Percent.length_decode_le last
  have hkept : (visible label).Sublist label.toList := List.filter_sublist
  have hkept_le := Percent.length_utf8_le hkept
  have hlast_le := Percent.length_utf8_le hlast
  rw [length_utf8_asSlash] at hlast_le
  have hvisible : visible label = label.toList := Percent.eq_of_sublist hkept (by omega)
  rw [hvisible] at hlast
  have hwhole : last = label.toList.map asSlash :=
    Percent.eq_of_sublist hlast (by rw [length_utf8_asSlash]; exact hdecoded)
  refine ⟨hvisible, hwhole, fun hescape => ?_⟩
  have hlt := Percent.length_decode_lt hescape
  rw [hdecode] at hlt
  omega

end Bytes

/-! ## The path of an entry -/

section Entry

variable {path : List String} {cs last : List Char} {before : List (List Char)}

theorem pieces_proxy (cs : List Char) : Url.pieces .special ("api/proxy/".toList ++ cs ++ ['/']) =
    ["api".toList, "proxy".toList] ++ Text.splitOn '/' (cs.map asSlash) ++ [[]] := by
  have htext : ("api/proxy/".toList ++ cs ++ ['/']).map asSlash =
      "api".toList ++ '/' :: ("proxy".toList ++ '/' :: (cs.map asSlash ++ '/' :: [])) := by
    rw [List.map_append, List.map_append]
    simp [asSlash]
  show Text.splitOn '/' (("api/proxy/".toList ++ cs ++ ['/']).map asSlash) = _
  rw [htext, Text.splitOn_append, Text.splitOn_append, Text.splitOn_append]
  rfl

theorem pushPath_proxy (path : List String)
    (hsplit : Text.splitOn '/' (cs.map asSlash) = before ++ [last]) (hcolon : ':' ∈ last) :
    pushPath .special path ("api/proxy/".toList ++ cs ++ ['/']) =
      (before.map (encode pathSet)).foldl (Url.pushInner .special) (path ++ ["api", "proxy"]) ++
        [String.ofList (encode pathSet last), ""] := by
  have hmap : (["api".toList, "proxy".toList] ++ (before ++ [last]) ++ [[]]).map (encode pathSet) =
      ["api".toList, "proxy".toList] ++ before.map (encode pathSet) ++ [encode pathSet last] ++
        [[]] := by
    simp only [List.map_append, List.map_cons, List.map_nil, List.append_assoc]
    rfl
  have hencoded : ':' ∈ encode pathSet last := Percent.mem_encode (by decide) hcolon
  obtain ⟨hsingle, hdouble⟩ := Url.no_dots_of_colon hencoded
  have hstart : (["api".toList, "proxy".toList] : List (List Char)).foldl
      (Url.pushInner .special) path = path ++ ["api", "proxy"] := by
    rw [List.foldl_cons, List.foldl_cons, List.foldl_nil, Url.pushInner_of_plain rfl rfl,
      Url.pushInner_of_plain rfl rfl, List.append_assoc]
    rfl
  rw [Url.pushPath_special, pieces_proxy, hsplit, hmap, Url.pushAll_concat, List.foldl_append,
    List.foldl_append, hstart, List.foldl_cons, List.foldl_nil,
    Url.pushInner_of_plain hsingle hdouble, Url.pushLast_of_plain rfl rfl, List.append_assoc]
  rfl

theorem text_entry (hne : path ≠ []) (h : Slashless path) (segment : String) :
    (UrlPath.segments (folder path ++ ["api", "proxy"] ++ [segment, ""])).text =
      slashed (UrlPath.segments path).text ++ "api/proxy/".toList ++ segment.toList ++ ['/'] := by
  rw [← Url.text_folder hne h, Url.text_concat, Url.text_append, Url.text_append]
  simp [UrlPath.text]

theorem slashless_folder (h : Slashless path) : Slashless (folder path) := by
  unfold folder
  split_ifs
  · exact fun segment hsegment => h segment (List.dropLast_subset path hsegment)
  · exact h

end Entry

/-! ## Where a link leads -/

/-- The URL that the link of a label is read as. -/
def labelUrl (base : Url) (path : List String) (label : String) : Url :=
  withPath base.scheme base.authority (folder path)
    ("api/proxy/".toList ++ visible label ++ ['/'])

section Leads

variable {base : Url} {path : List String} {name : String} {port : Nat}

theorem join_rankHref (h : base.IsWebAt path) (name : String) (rank : Nat) :
    base.withFinalSlash.join (rankHref name rank) =
      .ok (labelUrl base path (rankLabel name (rankPort rank))) := by
  have htext : (rankHref name rank).toList =
      'a' :: ("pi/proxy/".toList ++ (rankLabel name (rankPort rank)).toList) ++ ['/'] := by
    simp [rankHref, proxyBase, rankLabel]
  have hcleaned : Url.cleaned (rankHref name rank).toList =
      "api/".toList ++ ("proxy/".toList ++ visible (rankLabel name (rankPort rank)) ++ ['/']) := by
    rw [htext, Url.cleaned_of_ends rfl rfl]
    unfold visible
    rw [← List.cons_append, List.filter_append, List.filter_append]
    rfl
  rw [Url.join_api h hcleaned]
  rfl

theorem path_labelUrl (h : base.IsWebAt path) {label : String} {before : List (List Char)}
    {last : List Char}
    (hmarks : ∀ c ∈ "api/proxy/".toList ++ visible label ++ ['/'], endsPath c = false)
    (hsplit : Text.splitOn '/' ((visible label).map asSlash) = before ++ [last])
    (hcolon : ':' ∈ last) : (labelUrl base path label).path =
      .segments ((before.map (encode pathSet)).foldl (Url.pushInner .special)
        (folder path ++ ["api", "proxy"]) ++ [String.ofList (encode pathSet last), ""]) := by
  have hkind : SchemeKind.ofScheme base.scheme = .special := h.kind
  unfold labelUrl
  rw [Url.path_withPath hmarks, hkind, pushPath_proxy _ hsplit hcolon]

/-- The entry is the last piece of what is read of the label. -/
theorem exists_piece_of_isProxyEntry (h : base.IsWebAt path)
    (hmarks : ∀ c ∈ "api/proxy/".toList ++ visible (rankLabel name port) ++ ['/'],
      endsPath c = false)
    (hentry : IsProxyEntry base name port (labelUrl base path (rankLabel name port))) :
    ∃ piece, piece.Sublist ((visible (rankLabel name port)).map asSlash) ∧ '/' ∉ piece ∧
      decode piece = utf8 (rankLabel name port).toList := by
  obtain ⟨-, -, -, segment, htext, hsegment, hstands⟩ := hentry
  have hport : '/' ∉ portText port := not_mem_portText port (.inr (by decide))
  have hback : '\\' ∉ portText port := not_mem_portText port (.inr (by decide))
  have hmap : (visible (rankLabel name port)).map asSlash =
      (visible name).map asSlash ++ portText port := by
    rw [visible_rankLabel, List.map_append, map_asSlash hback]
  obtain ⟨before, last, hsplit, hsuffix⟩ :=
    Text.exists_splitOn_append ((visible name).map asSlash) hport
  rw [← hmap] at hsplit
  have hcolon : ':' ∈ last ++ portText port := List.mem_append_right _ List.mem_cons_self
  have hslashless := (slashless_folder h.slashless).pushPath
    ("api/proxy/".toList ++ visible (rankLabel name port) ++ ['/'])
  rw [pushPath_proxy _ hsplit hcolon] at hslashless
  have hright : Slashless (folder path ++ ["api", "proxy"] ++ [segment, ""]) := by
    have hsegment' : '/' ∉ segment.toList := hsegment.2 '/' (by decide)
    rw [Url.slashless_append_iff, Url.slashless_append_iff]
    exact ⟨⟨slashless_folder h.slashless, by simp [Slashless]⟩, by simp [Slashless, hsegment']⟩
  rw [path_labelUrl h hmarks hsplit hcolon, h.segments,
    ← text_entry h.nonempty h.slashless] at htext
  -- Both paths end with a segment and an empty one, so the two segments are the same.
  have hlist := Url.text_injective hslashless hright htext
  obtain ⟨rfl, -⟩ := List.cons.inj (List.append_inj' hlist rfl).2
  refine ⟨last ++ portText port, ?_, ?_, ?_⟩
  · rw [hmap]
    exact hsuffix.sublist.append (List.Sublist.refl _)
  · intro hmem
    refine hsegment.2 '/' (by decide) ?_
    rw [String.toList_ofList]
    exact Percent.mem_encode (by decide) hmem
  · unfold StandsFor at hstands
    rwa [String.toList_ofList, Percent.leavesEscapes_pathSet.decode_encode,
      Percent.text?_eq_some_iff] at hstands

theorem isPlainName_of_isProxyEntry (h : base.IsWebAt path)
    (hentry : IsProxyEntry base name port (labelUrl base path (rankLabel name port))) :
    IsPlainName name := by
  have hmarks := Url.plain_withPath_iff.mp ⟨hentry.query, hentry.fragment⟩
  obtain ⟨piece, hpart, hslash, hdecode⟩ := exists_piece_of_isProxyEntry h hmarks hentry
  obtain ⟨hvisible, rfl, hescape⟩ := whole_of_decode hpart hdecode
  rw [hvisible] at hmarks
  have hlabel {c : Char} (hc : c ∈ name.toList) : c ∈ (rankLabel name port).toList := by
    rw [toList_rankLabel]
    exact List.mem_append_left _ hc
  have hslash' {c : Char} (hc : asSlash c = '/') : c ∉ (rankLabel name port).toList := fun hmem =>
    hslash (hc ▸ List.mem_map_of_mem hmem)
  have hkept := List.filter_eq_self.mp hvisible
  refine ⟨hentry.named, ?_, ?_⟩
  · intro c hc hmem
    rcases mem_cuts_iff.mp hc with hcut | hmark | hskipped
    · exact hslash' hcut (hlabel hmem)
    · rw [hmarks c (List.mem_append_left _ (List.mem_append_right _ (hlabel hmem)))] at hmark
      cases hmark
    · have hstays := hkept c (hlabel hmem)
      rw [hskipped] at hstays
      cases hstays
  · have hback : '\\' ∉ (rankLabel name port).toList := hslash' rfl
    rwa [map_asSlash hback, hasEscape_rankLabel_iff] at hescape

theorem isProxyEntry_of_isPlainName (h : base.IsWebAt path) (hname : IsPlainName name)
    (port : Nat) : IsProxyEntry base name port (labelUrl base path (rankLabel name port)) := by
  have huncut {c : Char} (hmem : c ∈ (rankLabel name port).toList) : c ∉ cuts := by
    rw [toList_rankLabel, List.mem_append] at hmem
    intro hc
    exact hmem.elim (hname.uncut c hc) (not_mem_portText port (.inr hc))
  have hplain {c : Char} (hmem : c ∈ (rankLabel name port).toList) :
      asSlash c ≠ '/' ∧ endsPath c = false ∧ isSkipped c = false := by
    simpa [mem_cuts_iff] using huncut hmem
  have hvisible : visible (rankLabel name port) = (rankLabel name port).toList :=
    List.filter_eq_self.mpr fun c hc => by rw [(hplain hc).2.2]; rfl
  have hmarks : ∀ c ∈ "api/proxy/".toList ++ visible (rankLabel name port) ++ ['/'],
      endsPath c = false := by
    have hproxy : "api/proxy/".toList.all (!endsPath ·) = true := by decide
    simp only [List.all_eq_true, Bool.not_eq_true'] at hproxy
    rw [hvisible, List.forall_mem_append, List.forall_mem_append]
    exact ⟨⟨hproxy, fun c hc => (hplain hc).2.1⟩, List.forall_mem_singleton.mpr rfl⟩
  have hmap : (rankLabel name port).toList.map asSlash = (rankLabel name port).toList :=
    map_asSlash fun hmem => (hplain hmem).1 rfl
  have hslash : '/' ∉ (rankLabel name port).toList := fun hmem => (hplain hmem).1 rfl
  have hsplit : Text.splitOn '/' ((visible (rankLabel name port)).map asSlash) =
      [] ++ [(rankLabel name port).toList] := by
    rw [hvisible, hmap, Text.splitOn_of_not_mem hslash]
    rfl
  have hcolon : ':' ∈ (rankLabel name port).toList := by
    rw [toList_rankLabel]
    exact List.mem_append_right _ List.mem_cons_self
  have hescape : ¬ HasEscape (rankLabel name port).toList :=
    mt hasEscape_rankLabel_iff.mp hname.unescaped
  obtain ⟨hquery, hfragment⟩ := Url.plain_withPath_iff.mpr hmarks
  have hsegment : IsSegment (String.ofList (encode pathSet (rankLabel name port).toList)) := by
    have hcuts : "/\\?#".toList.all cuts.contains = true := by decide
    simp only [List.all_eq_true, List.contains_iff_mem] at hcuts
    exact Url.isSegment_encode (List.ne_nil_of_mem hcolon) fun c hc hmem =>
      absurd (hcuts c hc) (huncut hmem)
  refine ⟨hquery, hfragment, hname.nonempty, _, ?_, hsegment, ?_⟩
  · rw [path_labelUrl h hmarks hsplit hcolon, h.segments, ← text_entry h.nonempty h.slashless]
    rfl
  · unfold StandsFor
    rw [String.toList_ofList, Percent.leavesEscapes_pathSet.decode_encode,
      Percent.decode_eq_utf8_iff.mpr hescape]
    exact Percent.text?_eq_some_iff.mpr rfl

end Leads

/-! ## The links of a job -/

theorem exists_of_mem_rankLinks {name : String} {link : RankLink} (h : link ∈ rankLinks name) :
    ∃ rank, link = ⟨rank, rankPort rank, rankHref name rank⟩ := by
  obtain ⟨rank, -, rfl⟩ := List.mem_map.mp h
  exact ⟨rank, rfl⟩

/-- Only a line with a logical name has links, and they are those of the name. -/
theorem exists_of_mem_ranks {snapshots : NodeSnapshots} {lines : List NodeLine} {line : NodeLine}
    {link : RankLink} (hlines : (nodeListCell snapshots).content = .nodes lines)
    (hline : line ∈ lines) (hlink : link ∈ line.ranks) :
    ∃ name, line.logical = some name ∧ link ∈ rankLinks name := by
  cases snapshots with
  | nodes entries =>
    obtain rfl : entries.map (fun entry => NodeListView.lineOf entry.2) = lines :=
      NodeListView.nodes.inj hlines
    obtain ⟨⟨key, snapshot⟩, -, rfl⟩ := List.mem_map.mp hline
    cases hname : snapshot.logical with
    | none => simp [NodeListView.lineOf, hname] at hlink
    | some name =>
      refine ⟨name, hname, ?_⟩
      simpa [NodeListView.lineOf, hname] using hlink
  | empty => cases hlines
  | unavailable => cases hlines

/-- **Links of plain names lead to the proxy's entries.** Every link of a job's nodes can be
followed, and it leads to the entry of its node and port exactly if the node's logical name is
plain. -/
theorem rankLinks_lead_iff {address : String} {client : Client}
    (hclient : Client.ofAddress address = .ok client) (hweb : IsWebAddress address) (id : RecordId)
    (value : Json) {lines : List NodeLine} {line : NodeLine} {link : RankLink}
    (hlines : (nodeListCell (JobRecord.ofJson id value).snapshots).content = .nodes lines)
    (hline : line ∈ lines) (hlink : link ∈ line.ranks) :
    ∃ name u, line.logical = some name ∧ client.base.withFinalSlash.join link.href = .ok u ∧
      client.resolve link.href = u.text ∧
      (IsProxyEntry client.base name link.port u ↔ IsPlainName name) := by
  obtain ⟨path, h⟩ := isWebAt_of_ofAddress hclient hweb
  obtain ⟨name, hname, hmem⟩ := exists_of_mem_ranks hlines hline hlink
  obtain ⟨rank, rfl⟩ := exists_of_mem_rankLinks hmem
  have hjoin := join_rankHref h name rank
  have hresolve : client.resolve (rankHref name rank) =
      (labelUrl client.base path (rankLabel name (rankPort rank))).text := by
    unfold Client.resolve
    rw [hjoin]
  exact ⟨name, _, hname, hjoin, hresolve, isPlainName_of_isProxyEntry h,
    fun hplain => isProxyEntry_of_isPlainName h hplain (rankPort rank)⟩

/-- The record of a job that runs on one node. -/
def jobOn (name : String) : Json :=
  .object [("status", .object [("slurmJobRunCurrentStatus", .object [("physicalNodeSnapshots",
    .object [("1", .object [("slurmNodeName", .string name)])])])])]

theorem content_jobOn (name : String) :
    (nodeListCell (JobRecord.ofJson ⟨"1"⟩ (jobOn name)).snapshots).content =
      .nodes [⟨some name, none, rankLinks name⟩] := rfl

theorem head_mem_rankLinks (name : String) : ⟨0, 3724, rankHref name 0⟩ ∈ rankLinks name :=
  List.mem_map.mpr ⟨0, by decide, rfl⟩

/-- A plain name. -/
theorem rankLinks_lead_iff_node :
    Client.ofAddress "http://h" = .ok plainHost ∧ IsWebAddress "http://h" ∧
    (nodeListCell (JobRecord.ofJson ⟨"1"⟩ (jobOn "node-7")).snapshots).content =
      .nodes [⟨some "node-7", none, rankLinks "node-7"⟩] ∧
    IsPlainName "node-7" ∧
    ∃ u, plainHost.base.withFinalSlash.join (rankHref "node-7" 0) = .ok u ∧
      IsProxyEntry plainHost.base "node-7" 3724 u := by
  have hweb : IsWebAddress "http://h" := by decide
  have hescape : ¬ HasEscape "node-7".toList := mt Percent.mem_of_hasEscape (by decide)
  have huncut : cuts.all (!"node-7".toList.contains ·) = true := by decide
  simp only [List.all_eq_true, Bool.not_eq_true', List.contains_eq_mem,
    decide_eq_false_iff_not] at huncut
  have hplain : IsPlainName "node-7" := ⟨by decide, huncut, hescape⟩
  obtain ⟨name, u, hname, hjoin, -, hlead⟩ := rankLinks_lead_iff ofAddress_plainHost hweb ⟨"1"⟩
    (jobOn "node-7") (content_jobOn _) List.mem_cons_self (head_mem_rankLinks _)
  obtain rfl : "node-7" = name := Option.some.inj hname
  exact ⟨ofAddress_plainHost, hweb, content_jobOn _, hplain, u, hjoin, hlead.mpr hplain⟩

/-- A slash of a name cuts its link. -/
theorem rankHref_slash :
    Client.ofAddress "http://h" = .ok plainHost ∧
    (nodeListCell (JobRecord.ofJson ⟨"1"⟩ (jobOn "a/b")).snapshots).content =
      .nodes [⟨some "a/b", none, rankLinks "a/b"⟩] ∧
    ⟨0, 3724, rankHref "a/b" 0⟩ ∈ rankLinks "a/b" ∧
    plainHost.resolve (rankHref "a/b" 0) = "http://h/api/proxy/a/b:3724/" ∧
    ∀ u, plainHost.base.withFinalSlash.join (rankHref "a/b" 0) = .ok u →
      ¬ IsProxyEntry plainHost.base "a/b" 3724 u := by
  obtain ⟨path, h⟩ := isWebAt_of_ofAddress ofAddress_plainHost (by decide)
  refine ⟨ofAddress_plainHost, content_jobOn _, head_mem_rankLinks _, by decide +kernel, ?_⟩
  intro u hu hentry
  rw [join_rankHref h "a/b" 0] at hu
  obtain rfl := Except.ok.inj hu
  exact (isPlainName_of_isProxyEntry h hentry).uncut '/' (by decide) (by decide)

end ClusterBoard.Web
