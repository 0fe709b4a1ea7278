import Mathlib
import ClusterBoard.Proofs.Web.Lookups
import ClusterBoard.Proofs.Web.RankLinks

/-!
# Asking for lists

The URL of a list is made in two ways: a request adds segments to the path of the server's address,
and a link is read relative to the folder of the address. Where segments are words, both add the
same text, and they differ only in what they take for the end of the path. That is the same for
every path but two slashes (`slashed_eq_stem_iff`), so the two URLs of a list are one exactly for
the others (`listing_link_iff`).
-/

namespace ClusterBoard.Web

open Percent (encode pathSet)
open Url (IsWord folder openEnd slashed stem endsPath isSkipped isOuterBlank pushPath)

/-! ## Lists -/

/-- What is asked for as a whole. -/
inductive Listing where
  | jobs (scope : JobScope)
  | nodes
  deriving DecidableEq, Repr

namespace Listing

/-- The segments of its path. -/
def segments : Listing → List String
  | .jobs scope => scope.path
  | .nodes => ["api", "nodes"]

/-- Its path as a link. -/
def link (listing : Listing) : String := Text.join "/" listing.segments

example : (jobs .active).link = "api/jobs/active" := by decide

theorem exists_segments (listing : Listing) : ∃ word words,
    listing.segments = "api" :: word :: words ∧ ∀ w ∈ listing.segments, IsWord w := by
  cases listing with
  | jobs scope => cases scope <;> exact ⟨_, _, rfl, by decide⟩
  | nodes => exact ⟨_, _, rfl, by decide⟩

end Listing

namespace Url

/-- The URL without query and fragment. -/
def bare (u : Url) : Url := { u with query := none, fragment := none }

end Url

/-- The URL that is asked for a list. -/
def Client.listingUrl (client : Client) : Listing → Url
  | .jobs scope => client.jobsUrl scope
  | .nodes => client.nodesUrl

theorem Client.listingUrl_eq (client : Client) (listing : Listing) :
    client.listingUrl listing = client.base.pushSegments listing.segments := by
  cases listing <;> rfl

namespace Url

/-! ## Words in a path -/

section Words

variable {u : Url} {path words : List String} {word : String}

theorem foldl_pushSegment (hwords : ∀ w ∈ words, IsWord w) (hpath : path ≠ [""]) :
    words.foldl (pushSegment .special) path = path ++ words := by
  induction words generalizing path with
  | nil => exact (List.append_nil path).symm
  | cons word words ih =>
    obtain ⟨hword, hwords⟩ := List.forall_mem_cons.mp hwords
    rw [List.foldl_cons, pushSegment_of_word hword, if_neg hpath,
      ih hwords (hword.concat_ne path), List.append_assoc]
    rfl

/-- A request goes to the words after the end of the path. -/
theorem pushSegments_eq (h : u.IsWebAt path) (hwords : ∀ w ∈ word :: words, IsWord w) :
    u.pushSegments (word :: words) =
      { u with path := .segments (openEnd path ++ word :: words) } := by
  obtain ⟨hword, hwords⟩ := List.forall_mem_cons.mp hwords
  have hfold : (word :: words).foldl (pushSegment .special) (popIfEmpty path) =
      openEnd path ++ word :: words := by
    rw [List.foldl_cons, pushSegment_of_word hword]
    show words.foldl (pushSegment .special) (openEnd path ++ [word]) = _
    rw [foldl_pushSegment hwords (hword.concat_ne _), List.append_assoc]
    rfl
  rw [← hfold]
  unfold pushSegments
  rw [h.segments, h.kind]

theorem pushAll_words (hne : words ≠ []) (hwords : ∀ w ∈ words, IsWord w) :
    pushAll .special path (words.map String.toList) = path ++ words := by
  induction words generalizing path with
  | nil => exact absurd rfl hne
  | cons word words ih =>
    obtain ⟨hword, hwords⟩ := List.forall_mem_cons.mp hwords
    obtain ⟨hsingle, hdouble⟩ := no_dots_of_isAlpha fun c hc => hword.isAlpha hc
    cases words with
    | nil =>
      show pushLast .special path word.toList = _
      rw [pushLast_of_plain hsingle hdouble, String.ofList_toList]
    | cons next words =>
      show pushAll .special (pushInner .special path word.toList)
        ((next :: words).map String.toList) = _
      rw [pushInner_of_plain hsingle hdouble, String.ofList_toList,
        ih (List.cons_ne_nil _ _) hwords, List.append_assoc]
      rfl

theorem mem_join_words (hwords : ∀ w ∈ words, IsWord w) {c : Char}
    (hc : c ∈ (Text.join "/" words).toList) : c = '/' ∨ c.isAlpha = true := by
  rw [Text.toList_join] at hc
  refine (Text.mem_joinWith hc).imp List.mem_singleton.mp ?_
  rintro ⟨piece, hpiece, hmem⟩
  obtain ⟨word, hword, rfl⟩ := List.mem_map.mp hpiece
  exact (hwords word hword).isAlpha hmem

theorem pieces_join (hne : words ≠ []) (hwords : ∀ w ∈ words, IsWord w) :
    pieces .special (Text.join "/" words).toList = words.map String.toList := by
  have hback : '\\' ∉ (Text.join "/" words).toList := fun hmem => by
    rcases mem_join_words hwords hmem with h | h <;> cases h
  have hslash : ∀ piece ∈ words.map String.toList, '/' ∉ piece := by
    intro piece hpiece hmem
    obtain ⟨word, hword, rfl⟩ := List.mem_map.mp hpiece
    cases (hwords word hword).isAlpha hmem
  show Text.splitOn '/' ((Text.join "/" words).toList.map asSlash) = _
  rw [map_asSlash hback, Text.toList_join]
  exact Text.splitOn_joinWith (mt List.map_eq_nil_iff.mp hne) hslash

/-- Words of a link are added as they are. -/
theorem pushPath_words (hne : words ≠ []) (hwords : ∀ w ∈ words, IsWord w) :
    pushPath .special path (Text.join "/" words).toList = path ++ words := by
  have hencode : (words.map String.toList).map (encode pathSet) = words.map String.toList := by
    rw [List.map_map]
    refine List.map_congr_left fun word hword => Percent.encode_eq_self fun c hc => ?_
    exact (Percent.not_in_of_isAlpha ((hwords word hword).isAlpha hc)).1
  rw [pushPath_special, pieces_join hne hwords, hencode, pushAll_words hne hwords]

theorem plain_of_mem_join_words (hwords : ∀ w ∈ words, IsWord w) {c : Char}
    (hc : c ∈ (Text.join "/" words).toList) : isOuterBlank c = false ∧ endsPath c = false := by
  rcases mem_join_words hwords hc with rfl | halpha
  · decide
  have hnat := Percent.toNat_of_isAlpha halpha
  unfold isOuterBlank endsPath
  rw [decide_eq_false_iff_not, Bool.or_eq_false_iff, beq_eq_false_iff_ne, beq_eq_false_iff_ne]
  refine ⟨by omega, ?_, ?_⟩ <;> rintro rfl <;> cases halpha

/-- A link goes to the words after the folder. -/
theorem join_words (h : u.IsWebAt path) (hwords : ∀ w ∈ "api" :: word :: words, IsWord w) :
    u.withFinalSlash.join (Text.join "/" ("api" :: word :: words)) =
      .ok (bare { u with path := .segments (folder path ++ "api" :: word :: words) }) := by
  have hlink : (Text.join "/" ("api" :: word :: words)).toList =
      "api/".toList ++ (Text.join "/" (word :: words)).toList := by
    rw [Text.toList_join, Text.toList_join, List.map_cons, List.map_cons, Text.joinWith_cons_cons]
    rfl
  have hcleaned : cleaned (Text.join "/" ("api" :: word :: words)).toList =
      "api/".toList ++ (Text.join "/" (word :: words)).toList :=
    (cleaned_of_plain fun c hc => (plain_of_mem_join_words hwords hc).1).trans hlink
  have hends : ∀ c ∈ (Text.join "/" ("api" :: word :: words)).toList, endsPath c = false :=
    fun c hc => (plain_of_mem_join_words hwords hc).2
  have hkind : SchemeKind.ofScheme u.scheme = .special := h.kind
  have hguarded : u.authority.isNone = false := Option.isNone_eq_false_iff.mpr h.authority
  rw [join_api h hcleaned, ← hlink, withPath_of_plain hends, hkind,
    pushPath_words (List.cons_ne_nil _ _) hwords, hguarded, Bool.false_and, ← h.unguarded]
  rfl

end Words

/-! ## The end of a path -/

theorem text_words {words : List String} (hne : words ≠ []) :
    (UrlPath.segments words).text = '/' :: (Text.join "/" words).toList := by
  rw [Text.toList_join]
  induction words with
  | nil => exact absurd rfl hne
  | cons word words ih =>
    cases words with
    | nil => exact List.append_nil _
    | cons next words =>
      have htext : (UrlPath.segments (word :: next :: words)).text =
          '/' :: word.toList ++ (UrlPath.segments (next :: words)).text := rfl
      rw [htext, ih (List.cons_ne_nil _ _), List.map_cons, List.map_cons, List.map_cons,
        Text.joinWith_cons_cons]
      rfl

/-- The two ends of a path differ for two slashes only. -/
theorem slashed_eq_stem_iff {text : List Char} :
    slashed text = stem text ++ ['/'] ↔ text ≠ ['/', '/'] := by
  unfold slashed stem
  by_cases htwo : text = ['/', '/']
  · subst htwo
    decide
  · rw [if_neg htwo]
    refine iff_of_true ?_ htwo
    split_ifs with hlast
    · exact (List.dropLast_append_getLast? '/' hlast).symm
    · rfl

end Url

section Links

variable {client : Client} {path : List String}

theorem join_link (h : client.base.IsWebAt path) (listing : Listing) :
    client.base.withFinalSlash.join listing.link =
      .ok { client.base.bare with path := .segments (folder path ++ listing.segments) } := by
  obtain ⟨word, words, hsegments, hwords⟩ := listing.exists_segments
  rw [hsegments] at hwords
  unfold Listing.link
  rw [hsegments]
  exact Url.join_words h hwords

theorem bare_listingUrl (h : client.base.IsWebAt path) (listing : Listing) :
    (client.listingUrl listing).bare =
      { client.base.bare with path := .segments (openEnd path ++ listing.segments) } := by
  obtain ⟨word, words, hsegments, hwords⟩ := listing.exists_segments
  rw [Client.listingUrl_eq]
  rw [hsegments] at hwords ⊢
  exact congrArg Url.bare (Url.pushSegments_eq h hwords)

theorem path_listingUrl (h : client.base.IsWebAt path) (listing : Listing) :
    (client.listingUrl listing).path = .segments (openEnd path ++ listing.segments) :=
  congrArg Url.path (bare_listingUrl h listing)

theorem text_segments (listing : Listing) :
    (UrlPath.segments listing.segments).text = '/' :: listing.link.toList := by
  refine Url.text_words ?_
  obtain ⟨word, words, hsegments, -⟩ := listing.exists_segments
  rw [hsegments]
  exact List.cons_ne_nil _ _

theorem text_link (h : client.base.IsWebAt path) (listing : Listing) :
    (UrlPath.segments (folder path ++ listing.segments)).text =
      slashed client.base.path.text ++ listing.link.toList := by
  rw [h.segments, ← Url.text_folder h.nonempty h.slashless, Url.text_append, Url.text_append,
    text_segments, List.append_assoc]
  rfl

theorem text_listingUrl (h : client.base.IsWebAt path) (listing : Listing) :
    (client.listingUrl listing).path.text =
      stem client.base.path.text ++ '/' :: listing.link.toList := by
  rw [path_listingUrl h, h.segments, ← Url.text_openEnd h.nonempty h.slashless, Url.text_append,
    text_segments]

end Links

/-- **Links and requests meet.** For every list, the link can be followed, and both the link and the
request keep scheme and authority of the server's address and add the same text to its path: the
link after a slash at the end, the request after the path without one. Apart from query and fragment
the two URLs are the same exactly if the path is not two slashes. -/
theorem listing_link_iff {address : String} {client : Client}
    (hclient : Client.ofAddress address = .ok client) (hweb : IsWebAddress address)
    (listing : Listing) :
    ∃ u, client.base.withFinalSlash.join listing.link = .ok u ∧
      client.resolve listing.link = u.text ∧
      u = { client.base.bare with path := u.path } ∧
      (client.listingUrl listing).bare =
        { client.base.bare with path := (client.listingUrl listing).path } ∧
      u.path.text = slashed client.base.path.text ++ listing.link.toList ∧
      (client.listingUrl listing).path.text =
        stem client.base.path.text ++ '/' :: listing.link.toList ∧
      (client.resolve listing.link = (client.listingUrl listing).bare.text ↔
        client.base.path.text ≠ "//".toList) := by
  obtain ⟨path, h⟩ := isWebAt_of_ofAddress hclient hweb
  have hjoin := join_link h listing
  have hresolve := resolve_of_join hjoin
  have hbare : (client.listingUrl listing).bare =
      { client.base.bare with path := (client.listingUrl listing).path } := by
    rw [path_listingUrl h, bare_listingUrl h]
  refine ⟨_, hjoin, hresolve, rfl, hbare, text_link h listing, text_listingUrl h listing, ?_⟩
  calc client.resolve listing.link = (client.listingUrl listing).bare.text
      ↔ slashed client.base.path.text ++ listing.link.toList =
          stem client.base.path.text ++ ['/'] ++ listing.link.toList := by
        rw [hresolve, hbare, Url.text_eq_iff, text_link h, text_listingUrl h, List.append_assoc]
        rfl
    _ ↔ slashed client.base.path.text = stem client.base.path.text ++ ['/'] :=
        List.append_left_inj _
    _ ↔ client.base.path.text ≠ "//".toList := Url.slashed_eq_stem_iff

/-- The client of a folder with two slashes at its end, a query and a fragment. -/
def queriedFolder : Client :=
  ⟨⟨"http", some ⟨"", none, some (.domain "h"), none⟩, false, .segments ["ui", "", ""], some "q",
    some "f"⟩⟩

/-- Only the request keeps query and fragment. -/
theorem listing_link_iff_queried :
    Client.ofAddress "http://h/ui//?q#f" = .ok queriedFolder ∧ IsWebAddress "http://h/ui//?q#f" ∧
    queriedFolder.base.path.text ≠ "//".toList ∧
    queriedFolder.resolve (Listing.jobs .active).link = (queriedFolder.jobsUrl .active).bare.text ∧
    queriedFolder.resolve (Listing.jobs .active).link = "http://h/ui//api/jobs/active" ∧
    (queriedFolder.jobsUrl .active).text = "http://h/ui//api/jobs/active?q#f" := by
  have hclient : Client.ofAddress "http://h/ui//?q#f" = .ok queriedFolder :=
    ofAddress_of_toOption (by decide +kernel)
  have hweb : IsWebAddress "http://h/ui//?q#f" := by decide
  have hpath : queriedFolder.base.path.text ≠ "//".toList := by decide
  obtain ⟨u, -, -, -, -, -, -, hsame⟩ := listing_link_iff hclient hweb (.jobs .active)
  exact ⟨hclient, hweb, hpath, hsame.mpr hpath, by decide +kernel, by decide +kernel⟩

/-- The client of a host whose path is two slashes. -/
def slashesHost : Client :=
  ⟨⟨"http", some ⟨"", none, some (.domain "h"), none⟩, false, .segments ["", ""], none, none⟩⟩

/-- The link keeps both slashes of the path, the request one. -/
theorem listing_link_slashes :
    Client.ofAddress "http://h//" = .ok slashesHost ∧ IsWebAddress "http://h//" ∧
    slashesHost.resolve Listing.nodes.link = "http://h//api/nodes" ∧
    slashesHost.fetchNodes .none = .error (.request "http://h/api/nodes") ∧
    slashesHost.resolve Listing.nodes.link ≠ (slashesHost.listingUrl .nodes).bare.text := by
  have hclient : Client.ofAddress "http://h//" = .ok slashesHost :=
    ofAddress_of_toOption (by decide +kernel)
  have hlink : slashesHost.resolve Listing.nodes.link = "http://h//api/nodes" := by decide +kernel
  have hrequest : slashesHost.nodesUrl.text = "http://h/api/nodes" := by decide +kernel
  have hfetch : slashesHost.fetchNodes .none = .error (.request slashesHost.nodesUrl.text) := rfl
  refine ⟨hclient, by decide, hlink, ?_, by decide +kernel⟩
  rw [hfetch, hrequest]

end ClusterBoard.Web
