import Mathlib
import ClusterBoard.Proofs.Web.RankLinks

/-!
# Origins

The origin of a URL is its scheme and its authority: user, password, host and port. A link that
starts with the first segment of the server's interface keeps the origin of the server whatever
follows, for all that follows goes to path, query and fragment. Nothing that stands in an authority
ends it or is left out of it (`Kept`), so the text of the link is also read with the origin that the
text of the server's URL is read with (`HasOrigin.origin_text_eq`).
-/

namespace ClusterBoard.Web

open Percent (encode)

namespace Url

/-- Where a URL leads, apart from its path. -/
def origin (u : Url) : String × Option Authority := (u.scheme, u.authority)

/-! ## What an authority holds -/

/-- A character that stands in an authority as it is: it is not cut off at the ends of a text or
left out, and it does not end the authority. -/
def Kept (c : Char) : Prop := isOuterBlank c = false ∧ endsAuthority .special c = false

instance (c : Char) : Decidable (Kept c) := inferInstanceAs (Decidable (_ ∧ _))

section Kept

variable {c : Char} {cs : List Char}

theorem kept_iff : Kept c ↔ 0x20 < c.toNat ∧ c ∉ "/\\?#".toList := by
  have hblank : isOuterBlank c = false ↔ 0x20 < c.toNat := by simp [isOuterBlank]
  have hends : endsAuthority .special c = false ↔ c ∉ "/\\?#".toList := by
    show endsAuthority .special c = false ↔ c ∉ ['/', '\\', '?', '#']
    simp [endsAuthority, endsPath, SchemeKind.isSpecial, and_assoc, and_comm, and_left_comm]
  unfold Kept
  rw [hblank, hends]

theorem kept_of_mem_encode {inSet : Char → Bool} (h : ∀ c, ¬ Kept c → inSet c = true)
    (hc : c ∈ encode inSet cs) : Kept c := by
  by_contra hnot
  have hhex : "%0123456789ABCDEF".toList.all fun c => decide (Kept c) := by decide
  simp only [List.all_eq_true, decide_eq_true_eq] at hhex
  exact Percent.not_mem_encode (mt (hhex c) hnot) (fun _ => h c hnot) hc

theorem userinfoSet_of_not_kept (h : ¬ Kept c) : Percent.userinfoSet c = true := by
  have hmarks : "/\\?#".toList.all Percent.userinfoSet = true := by decide
  rw [kept_iff, not_and_or, not_not] at h
  rcases h with hsmall | hmark
  · by_cases hblank : c.toNat = 0x20
    · obtain rfl : c = ' ' := Char.toNat_inj.mp hblank
      decide
    · have hcontrol : Percent.isControl c = true := by
        unfold Percent.isControl
        rw [Bool.or_eq_true, decide_eq_true_eq]
        omega
      simp [Percent.userinfoSet, Percent.pathSet, Percent.fragmentSet, hcontrol]
  · exact List.all_eq_true.mp hmarks c hmark

theorem kept_of_mem_toDigits {base n : Nat} (hbase : 1 < base) (hle : base ≤ 16)
    (h : c ∈ Nat.toDigits base n) : Kept c := by
  have hdigit : ∀ d < 16, Kept (Nat.digitChar d) := by decide
  induction n using Nat.strongRecOn with
  | ind n ih =>
    by_cases hn : n < base
    · rw [Nat.toDigits_of_lt_base hn, List.mem_singleton] at h
      rw [h]
      exact hdigit n (hn.trans_le hle)
    · rw [Nat.toDigits_of_base_le hbase (Nat.le_of_not_lt hn), List.mem_append,
        List.mem_singleton] at h
      rcases h with h | rfl
      · exact ih (n / base) (Nat.div_lt_self (by omega) hbase) h
      · exact hdigit _ ((Nat.mod_lt n (by omega)).trans_le hle)

end Kept

/-! ### Hosts -/

section Hosts

variable {c : Char} {cs name : List Char} {host : Host}

theorem kept_of_ascii? (h : Domain.ascii? cs = some name) (hc : c ∈ name) : Kept c := by
  have hnone : name.any Domain.forbidden = false := by
    unfold Domain.ascii? at h
    simp only [Option.bind_eq_bind, Option.bind_eq_some_iff] at h
    obtain ⟨spelled, -, labels, -, hname⟩ := h
    split_ifs at hname with hwell
    obtain rfl := Option.some.inj hname
    rw [Bool.and_eq_true, Bool.not_eq_true'] at hwell
    exact hwell.2
  have hmarks : "/\\?#".toList.all Domain.forbidden = true := by decide
  rw [List.any_eq_false] at hnone
  refine kept_iff.mpr ⟨?_, fun hmem => hnone c hc (List.all_eq_true.mp hmarks c hmem)⟩
  by_contra hsmall
  refine hnone c hc ?_
  simp [Domain.forbidden, Nat.le_of_not_lt hsmall]

theorem kept_of_mem_ipv6Text {pieces : List Nat} (h : c ∈ Host.ipv6Text pieces) : Kept c := by
  have hpieces {pieces : List Nat} (h : c ∈ Host.piecesText pieces) : Kept c := by
    rcases Text.mem_joinWith h with hcolon | ⟨piece, hpiece, hmem⟩
    · rw [List.mem_singleton.mp hcolon]
      decide
    · obtain ⟨n, -, rfl⟩ := List.mem_map.mp hpiece
      exact kept_of_mem_toDigits (by decide) le_rfl hmem
  unfold Host.ipv6Text at h
  split at h
  · exact hpieces h
  · rw [List.mem_append, List.mem_append] at h
    rcases h with (h | h) | h
    · exact hpieces h
    · have hcolons : [':', ':'].all fun c => decide (Kept c) := by decide
      exact of_decide_eq_true (List.all_eq_true.mp hcolons c h)
    · exact hpieces h

theorem kept_of_mem_ipv4Text (address : Nat) : ∀ c ∈ (Host.ipv4Text address).toList, Kept c := by
  have hpoint : ∀ c ∈ ".".toList, Kept c := List.forall_mem_singleton.mpr (by decide)
  have hbyte (n : Nat) : ∀ c ∈ (toString n).toList, Kept c := by
    show ∀ c ∈ n.repr.toList, Kept c
    rw [Nat.toList_repr]
    exact fun c hc => kept_of_mem_toDigits (by decide) (by decide) hc
  simp only [Host.ipv4Text, String.toList_append, List.forall_mem_append]
  exact ⟨⟨⟨⟨⟨⟨hbyte _, hpoint⟩, hbyte _⟩, hpoint⟩, hbyte _⟩, hpoint⟩, hbyte _⟩

/-- What a host of the web is written as. -/
theorem text_of_parse (h : Host.parse cs = .ok host) :
    host.text ≠ [] ∧ ∀ c ∈ host.text, Kept c := by
  unfold Host.parse at h
  split at h
  · split_ifs at h
    split at h
    · obtain rfl := Except.ok.inj h
      refine ⟨List.cons_ne_nil _ _, fun c hc => ?_⟩
      rw [Host.text, List.cons_append, List.mem_cons, List.mem_append, List.mem_singleton] at hc
      rcases hc with rfl | hc | rfl
      · decide
      · exact kept_of_mem_ipv6Text hc
      · decide
    · cases h
  · split at h
    · cases h
    · cases h
    · rename_i name hname hread
      obtain ⟨text, -, hascii⟩ := Option.bind_eq_some_iff.mp hread
      split_ifs at h
      · split at h
        · rename_i address _
          obtain rfl := Except.ok.inj h
          refine ⟨?_, kept_of_mem_ipv4Text address⟩
          simp [Host.text, Host.ipv4Text]
        · cases h
      · obtain rfl := Except.ok.inj h
        simp only [Host.text, String.toList_ofList]
        refine ⟨?_, fun c hc => kept_of_ascii? hascii hc⟩
        rintro rfl
        exact hname rfl

end Hosts

/-! ### Authorities -/

section Authorities

variable {scheme : String} {cs left : List Char} {a : Authority}

theorem kept_of_userinfo (cs : List Char) : (∀ c ∈ (userinfo cs).1.toList, Kept c) ∧
    ∀ password, (userinfo cs).2 = some password → ∀ c ∈ password.toList, Kept c := by
  have hencoded (cs : List Char) :
      ∀ c ∈ (String.ofList (encode Percent.userinfoSet cs)).toList, Kept c := fun c hc =>
    kept_of_mem_encode (fun _ => userinfoSet_of_not_kept) (String.toList_ofList ▸ hc)
  unfold userinfo
  split
  · refine ⟨hencoded _, fun password hpassword => ?_⟩
    dsimp only at hpassword
    split_ifs at hpassword
    obtain rfl := Option.some.inj hpassword
    exact hencoded _
  · exact ⟨hencoded _, nofun⟩

/-- A URL of the web has a host. -/
theorem exists_of_hostAndPort {β : Type} {result : β}
    {next : (Option Host × Option Nat) × List Char → Except UrlError β}
    (hkind : SchemeKind.ofScheme scheme = .special)
    (h : hostAndPort scheme cs >>= next = .ok result) :
    ∃ text host port left, Host.parse text = .ok host ∧
      next ((some host, port), left) = .ok result := by
  have hspecial : SchemeKind.special.isSpecial = true := rfl
  unfold hostAndPort at h
  by_cases hempty : (splitHost false cs).1.isEmpty = true
  · simp only [hempty, hkind, if_true, decide_true, Bool.true_or] at h
    cases h
  · simp only [hempty, hkind, hspecial, if_true, if_false, Bool.false_eq_true] at h
    cases hhost : Host.parse (splitHost false cs).1 with
    | error e =>
      rw [hhost] at h
      cases h
    | ok host =>
      rw [hhost] at h
      cases hport : port? scheme
          (((splitHost false cs).2.drop 1).takeWhile fun c => c != '\\') with
      | error e =>
        rw [hport] at h
        cases h
      | ok port =>
        rw [hport] at h
        exact ⟨_, host, port, _, hhost, h⟩

theorem text_of_parts {user : String} {password : Option String} {host : Host} (port : Option Nat)
    (huser : ∀ c ∈ user.toList, Kept c)
    (hpassword : ∀ p, password = some p → ∀ c ∈ p.toList, Kept c)
    (hhost : Host.parse cs = .ok host) :
    (Authority.mk user password (some host) port).text ≠ [] ∧
      ∀ c ∈ (Authority.mk user password (some host) port).text, Kept c := by
  obtain ⟨hne, hkept⟩ := text_of_parse hhost
  have hat : ∀ c ∈ ['@'], Kept c := List.forall_mem_singleton.mpr (by decide)
  have hcolon : Kept ':' := by decide
  unfold Authority.text Authority.userinfoText
  simp only [Option.map_some, Option.getD_some]
  refine ⟨?_, ?_⟩
  · exact List.append_ne_nil_of_left_ne_nil (List.append_ne_nil_of_right_ne_nil _ hne) _
  rw [List.forall_mem_append, List.forall_mem_append]
  refine ⟨⟨?_, hkept⟩, ?_⟩
  · split_ifs
    · exact List.forall_mem_nil _
    · rw [List.forall_mem_append, List.forall_mem_append]
      refine ⟨⟨huser, ?_⟩, hat⟩
      cases password with
      | none => exact List.forall_mem_nil _
      | some p => exact List.forall_mem_cons.mpr ⟨hcolon, hpassword p rfl⟩
  · cases port with
    | none => exact List.forall_mem_nil _
    | some n =>
      refine List.forall_mem_cons.mpr ⟨hcolon, fun c hc => ?_⟩
      exact kept_of_mem_toDigits (by decide) (by decide) hc

/-- What the authority of a URL of the web is written as. -/
theorem text_of_authorityOf (hkind : SchemeKind.ofScheme scheme = .special)
    (h : authorityOf scheme cs = .ok (a, left)) : a.text ≠ [] ∧ ∀ c ∈ a.text, Kept c := by
  unfold authorityOf at h
  split at h
  · obtain ⟨text, host, port, left, hhost, h⟩ := exists_of_hostAndPort hkind h
    cases h
    exact text_of_parts port (by simp) nofun hhost
  · rename_i before after _
    obtain ⟨text, host, port, left, hhost, h⟩ := exists_of_hostAndPort hkind h
    cases h
    obtain ⟨huser, hpassword⟩ := kept_of_userinfo before
    exact text_of_parts port huser hpassword hhost

end Authorities

/-! ## Reading a text again -/

/-- A URL of the web, with an authority that is read whole wherever its text stands. -/
structure HasOrigin (u : Url) (scheme : String) (a : Authority) : Prop where
  scheme_eq : u.scheme = scheme
  web : IsWebScheme scheme
  authority_eq : u.authority = some a
  nonempty : a.text ≠ []
  kept : ∀ c ∈ a.text, Kept c
  unguarded : u.guarded = false
  rooted : ∃ segment path, u.path = .segments (segment :: path)

section Reading

variable {u v : Url} {scheme : String} {a : Authority} {cs more : List Char}

/-- The start of the text of a URL, up to its path. -/
theorem HasOrigin.exists_chars (h : u.HasOrigin scheme a) :
    ∃ rest, u.chars = scheme.toList ++ "://".toList ++ a.text ++ '/' :: rest := by
  obtain ⟨segment, path, hpath⟩ := h.rooted
  unfold Url.chars
  rw [h.scheme_eq, h.authority_eq, h.unguarded, hpath]
  simp [UrlPath.text]

/-- What follows the authority does not matter for it. -/
theorem origin_afterSlashes (hkind : SchemeKind.ofScheme scheme = .special)
    (hcs : ∀ c ∈ cs, Kept c) (rest more : List Char) :
    (afterSlashes scheme (cs ++ '/' :: rest)).map origin =
      (afterSlashes scheme (cs ++ '/' :: more)).map origin := by
  have hall : ∀ c ∈ cs, (!endsAuthority .special c) = true := fun c hc => by
    rw [(hcs c hc).2]
    rfl
  have htake (rest : List Char) :
      (cs ++ '/' :: rest).takeWhile (!endsAuthority .special ·) = cs := by
    rw [List.takeWhile_append_of_pos hall, List.takeWhile_cons_of_neg (by decide),
      List.append_nil]
  have hdrop (rest : List Char) :
      (cs ++ '/' :: rest).dropWhile (!endsAuthority .special ·) = '/' :: rest := by
    rw [List.dropWhile_append_of_pos hall, List.dropWhile_cons_of_neg (by decide)]
  unfold afterSlashes
  simp only [hkind, htake, hdrop, ne_eq, reduceCtorEq, not_false_eq_true, and_true]
  split_ifs
  · rfl
  · cases authorityOf scheme cs <;> rfl

theorem splitScheme?_of_isWebScheme (h : IsWebScheme scheme) (cs : List Char) :
    splitScheme? (scheme.toList ++ "://".toList ++ cs) = some (scheme, "//".toList ++ cs) := by
  rcases h with rfl | rfl <;> rfl

theorem not_outerBlank_of_isWebScheme (h : IsWebScheme scheme) :
    ∀ c ∈ scheme.toList ++ "://".toList, isOuterBlank c = false := by
  have hall : (scheme.toList ++ "://".toList).all (!isOuterBlank ·) = true := by
    rcases h with rfl | rfl <;> decide
  simpa only [List.all_eq_true, Bool.not_eq_true'] using hall

theorem dropWhile_slashes (hne : cs ≠ []) (hcs : ∀ c ∈ cs, Kept c) (rest : List Char) :
    ("//".toList ++ (cs ++ rest)).dropWhile (isSlash .special) = cs ++ rest := by
  obtain ⟨c, cs, rfl⟩ := List.exists_cons_of_ne_nil hne
  have hslash : isSlash .special c = false := by
    have hends := (hcs c List.mem_cons_self).2
    simp only [endsAuthority, Bool.or_eq_false_iff] at hends
    simp [isSlash, hends]
  show (c :: (cs ++ rest)).dropWhile (isSlash .special) = _
  rw [List.dropWhile_cons_of_neg (by simp [hslash])]
  rfl

/-- The authority is found again in the text of the URL. -/
theorem HasOrigin.exists_parse_eq (h : u.HasOrigin scheme a) :
    ∃ rest, parse none u.text = afterSlashes scheme (a.text ++ '/' :: rest) := by
  obtain ⟨rest, hchars⟩ := h.exists_chars
  have hblank : ∀ c ∈ scheme.toList ++ "://".toList ++ (a.text ++ ['/']),
      isOuterBlank c = false :=
    List.forall_mem_append.mpr ⟨not_outerBlank_of_isWebScheme h.web, List.forall_mem_append.mpr
      ⟨fun c hc => (h.kept c hc).1, List.forall_mem_singleton.mpr (by decide)⟩⟩
  have hstart : scheme.toList ++ "://".toList ++ (a.text ++ ['/']) <+: cleaned u.text.toList := by
    refine prefix_cleaned ?_ hblank (fun c hc => not_skipped_of_not_outerBlank (hblank c hc)) ?_
    · simp
    · exact ⟨rest, by simp [Url.text, hchars]⟩
  obtain ⟨after, hafter⟩ := hstart
  have hsplit := splitScheme?_of_isWebScheme h.web (a.text ++ '/' :: after)
  rw [show scheme.toList ++ "://".toList ++ (a.text ++ '/' :: after) = cleaned u.text.toList by
    rw [← hafter]; simp] at hsplit
  refine ⟨after, ?_⟩
  rw [parse_eq_afterSlashes h.web.kind hsplit, dropWhile_slashes h.nonempty h.kept]

/-- URLs with one origin have texts that are read with one origin. -/
theorem HasOrigin.origin_text_eq (hu : u.HasOrigin scheme a) (hv : v.HasOrigin scheme a) :
    (parse none u.text).map origin = (parse none v.text).map origin := by
  obtain ⟨rest, hrest⟩ := hu.exists_parse_eq
  obtain ⟨more, hmore⟩ := hv.exists_parse_eq
  rw [hrest, hmore, origin_afterSlashes hu.web.kind hu.kept]

end Reading

end Url

/-! ## Links -/

section Links

variable {client : Client} {scheme : String} {a : Authority}

theorem hasOrigin_of_ofAddress {address : String} (hclient : Client.ofAddress address = .ok client)
    (hweb : IsWebAddress address) : ∃ scheme a, client.base.HasOrigin scheme a := by
  obtain ⟨path, h⟩ := isWebAt_of_ofAddress hclient hweb
  obtain ⟨scheme, cs, hscheme, hread⟩ := afterSlashes_of_ofAddress hclient hweb
  obtain ⟨text, a, left, more, tail, ha, hbase⟩ := Url.exists_of_afterSlashes hread
  obtain ⟨hne, hkept⟩ := Url.text_of_authorityOf hscheme.kind ha
  obtain ⟨segment, rest, rfl⟩ := List.exists_cons_of_ne_nil h.nonempty
  exact ⟨scheme, a, by rw [hbase]; rfl, hscheme, by rw [hbase]; rfl, hne, hkept, h.unguarded,
    segment, rest, h.segments⟩

/-- A link keeps the origin of the server's URL, whatever its label is. -/
theorem hasOrigin_labelUrl (h : client.base.HasOrigin scheme a) (path : List String)
    (label : String) : (labelUrl client.base path label).HasOrigin scheme a := by
  have hkind : SchemeKind.ofScheme client.base.scheme = .special := h.scheme_eq ▸ h.web.kind
  refine ⟨h.scheme_eq, h.web, h.authority_eq, h.nonempty, h.kept, ?_, ?_⟩
  · show (client.base.authority.isNone && _) = false
    rw [h.authority_eq]
    rfl
  · unfold labelUrl Url.withPath
    rw [hkind]
    obtain ⟨segment, rest, hrest⟩ := List.exists_cons_of_ne_nil (Url.pushPath_ne_nil _ _)
    exact ⟨segment, rest, congrArg UrlPath.segments hrest⟩

end Links

/-- **Links of ranks stay on the server.** Whatever the logical name of a node is, the link of each
rank can be followed, and the URL has the scheme and the authority of the server's: the same user,
password, host and port. Its text starts like that of the server's URL up to the path, with an
authority that nothing in it ends, and read by itself it gives the same scheme and authority as
that. -/
theorem rankHref_same_origin {address : String} {client : Client}
    (hclient : Client.ofAddress address = .ok client) (hweb : IsWebAddress address)
    (name : String) (rank : Nat) :
    ∃ u a, client.base.withFinalSlash.join (rankHref name rank) = .ok u ∧
      client.resolve (rankHref name rank) = u.text ∧
      u.scheme = client.base.scheme ∧ IsWebScheme u.scheme ∧
      client.base.authority = some a ∧ u.authority = some a ∧ (∀ c ∈ a.text, Url.Kept c) ∧
      (∃ rest more, u.text.toList = u.scheme.toList ++ "://".toList ++ a.text ++ '/' :: rest ∧
        client.base.text.toList = u.scheme.toList ++ "://".toList ++ a.text ++ '/' :: more) ∧
      (Url.parse none (client.resolve (rankHref name rank))).map Url.origin =
        (Url.parse none client.base.text).map Url.origin := by
  obtain ⟨path, h⟩ := isWebAt_of_ofAddress hclient hweb
  obtain ⟨scheme, a, hbase⟩ := hasOrigin_of_ofAddress hclient hweb
  have hjoin := join_rankHref h name rank
  have hlink := hasOrigin_labelUrl hbase path (rankLabel name (rankPort rank))
  have hresolve := resolve_of_join hjoin
  obtain ⟨rest, hrest⟩ := hlink.exists_chars
  obtain ⟨more, hmore⟩ := hbase.exists_chars
  refine ⟨_, a, hjoin, hresolve, hlink.scheme_eq.trans hbase.scheme_eq.symm, ?_,
    hbase.authority_eq, hlink.authority_eq, hbase.kept, ⟨rest, more, ?_, ?_⟩, ?_⟩
  · rw [hlink.scheme_eq]
    exact hlink.web
  · rw [hlink.scheme_eq, Url.text, String.toList_ofList, hrest]
  · rw [hlink.scheme_eq, Url.text, String.toList_ofList, hmore]
  · rw [hresolve, hlink.origin_text_eq hbase]

/-- The client of a folder on a host, with a user, a password and a port. -/
def accountFolder : Client :=
  ⟨⟨"http", some ⟨"a", some "b", some (.domain "h"), some 81⟩, false, .segments ["ui"], none,
    none⟩⟩

/-- A name that leaves the folder and goes on like an address. -/
theorem rankHref_same_origin_climbing :
    Client.ofAddress "http://a:b@h:81/ui" = .ok accountFolder ∧
    IsWebAddress "http://a:b@h:81/ui" ∧
    accountFolder.resolve (rankHref "/../../../..//evil\\@x" 0) =
      "http://a:b@h:81//evil/@x:3724/" ∧
    (Url.parse none (accountFolder.resolve (rankHref "/../../../..//evil\\@x" 0))).map Url.origin =
      (Url.parse none "http://a:b@h:81/ui").map Url.origin := by
  have hclient : Client.ofAddress "http://a:b@h:81/ui" = .ok accountFolder :=
    ofAddress_of_toOption (by decide +kernel)
  have hweb : IsWebAddress "http://a:b@h:81/ui" := by decide
  have hbase : accountFolder.base.text = "http://a:b@h:81/ui" := by decide +kernel
  obtain ⟨u, a, -, -, -, -, -, -, -, -, horigin⟩ :=
    rankHref_same_origin hclient hweb "/../../../..//evil\\@x" 0
  refine ⟨hclient, hweb, by decide +kernel, ?_⟩
  rw [horigin, hbase]

end ClusterBoard.Web
