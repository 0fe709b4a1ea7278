import Mathlib
import ClusterBoard.Proofs.Web.Paths
import ClusterBoard.Web.Client

/-!
# Addresses of web servers

An address that starts with the scheme of the web is read as a URL with a host and a path of
segments (`Url.IsWebAt`), or it is not accepted. What stands around the address does not matter:
blanks are cut off at its end only, and no character of the start is one that is left out.
-/

namespace ClusterBoard.Web

/-- An address on the web. -/
def IsWebAddress (address : String) : Prop :=
  "http://".toList <+: address.toList ∨ "https://".toList <+: address.toList

instance (address : String) : Decidable (IsWebAddress address) :=
  inferInstanceAs (Decidable (_ ∨ _))

namespace Url

/-- A URL of the web with the segments of its path. -/
structure IsWebAt (u : Url) (path : List String) : Prop where
  kind : u.kind = .special
  authority : u.authority.isSome
  unguarded : u.guarded = false
  segments : u.path = .segments path
  nonempty : path ≠ []
  slashless : Slashless path

/-- What stays of a text in a URL: tabs and line ends are left out. -/
def visible (text : String) : List Char := text.toList.filter (!isSkipped ·)

/-! ## The start of a text -/

section Start

variable {p : Char → Bool} {start cs : List Char}

theorem prefix_dropWhile (hne : start ≠ []) (hstart : ∀ c ∈ start, p c = false)
    (h : start <+: cs) : start <+: cs.dropWhile p := by
  obtain ⟨rest, rfl⟩ := h
  obtain ⟨c, more, rfl⟩ := List.exists_cons_of_ne_nil hne
  rw [List.cons_append, List.dropWhile_cons_of_neg (by simp [hstart c List.mem_cons_self])]
  exact List.prefix_append _ _

theorem prefix_rdropWhile (hne : start ≠ []) (hstart : ∀ c ∈ start, p c = false)
    (h : start <+: cs) : start <+: cs.rdropWhile p := by
  obtain ⟨rest, rfl⟩ := h
  induction rest using List.reverseRecOn with
  | nil =>
    have hself : start.rdropWhile p = start := List.rdropWhile_eq_self_iff.mpr fun _ => by
      simp [hstart _ (List.getLast_mem hne)]
    rw [List.append_nil, hself]
  | append_singleton rest c ih =>
    rw [← List.append_assoc, List.rdropWhile_concat]
    split_ifs
    · exact ih
    · rw [List.append_assoc]
      exact List.prefix_append _ _

theorem prefix_trim (hne : start ≠ []) (hstart : ∀ c ∈ start, Text.isBlank c = false)
    (h : start <+: cs) : start <+: Text.trim cs :=
  prefix_rdropWhile hne hstart (prefix_dropWhile hne hstart h)

theorem prefix_cleaned (hne : start ≠ []) (houter : ∀ c ∈ start, isOuterBlank c = false)
    (hskipped : ∀ c ∈ start, isSkipped c = false) (h : start <+: cs) : start <+: cleaned cs := by
  have hkept : start.filter (!isSkipped ·) = start := List.filter_eq_self.mpr fun c hc => by
    simp [hskipped c hc]
  have hcut := prefix_rdropWhile hne houter (prefix_dropWhile hne houter h)
  rw [← hkept]
  exact hcut.filter _

end Start

/-! ## Reading an address -/

section Reading

variable {scheme address : String} {cs : List Char} {u : Url}

theorem exists_of_afterSlashes (h : afterSlashes scheme cs = .ok u) :
    ∃ text a left more tail, authorityOf scheme text = .ok (a, left) ∧
      u = withTail scheme (some a) (.segments (pathAfter (.ofScheme scheme) more)) tail := by
  unfold afterSlashes at h
  simp only at h
  split_ifs at h
  cases ha : authorityOf scheme (cs.takeWhile (!endsAuthority (.ofScheme scheme) ·)) with
  | error e =>
    rw [ha] at h
    cases h
  | ok parts =>
    rw [ha] at h
    cases h
    exact ⟨_, _, _, _, _, ha, rfl⟩

theorem isWebAt_of_afterSlashes (hkind : SchemeKind.ofScheme scheme = .special)
    (h : afterSlashes scheme cs = .ok u) : ∃ path, u.IsWebAt path := by
  obtain ⟨-, a, -, more, tail, -, rfl⟩ := exists_of_afterSlashes h
  rw [hkind]
  obtain ⟨hne, hslashless⟩ := pathAfter_special more
  exact ⟨pathAfter .special more, hkind, rfl, rfl, rfl, hne, hslashless⟩

theorem splitScheme?_http (cs : List Char) :
    splitScheme? ("http://".toList ++ cs) = some ("http", "//".toList ++ cs) := rfl

theorem splitScheme?_https (cs : List Char) :
    splitScheme? ("https://".toList ++ cs) = some ("https", "//".toList ++ cs) := rfl

theorem parse_eq_afterSlashes (hkind : SchemeKind.ofScheme scheme = .special)
    (hscheme : splitScheme? (cleaned address.toList) = some (scheme, cs)) :
    parse none address = afterSlashes scheme (cs.dropWhile (isSlash .special)) := by
  unfold parse
  simp only [hscheme]
  unfold afterScheme
  simp only [hkind, pathOfBase]

end Reading

end Url

/-- A scheme of the web. -/
def IsWebScheme (scheme : String) : Prop := scheme = "http" ∨ scheme = "https"

theorem IsWebScheme.kind {scheme : String} (h : IsWebScheme scheme) :
    SchemeKind.ofScheme scheme = .special := by
  rcases h with rfl | rfl <;> rfl

theorem parse_of_ofAddress {address : String} {client : Client}
    (h : Client.ofAddress address = .ok client) :
    Url.parse none (Text.trimmed address) = .ok client.base := by
  unfold Client.ofAddress at h
  split at h
  · cases h
  · rename_i u hu
    split_ifs at h
    cases h
    exact hu

theorem splitScheme?_of_isWebAddress {address : String} (hweb : IsWebAddress address) :
    ∃ scheme cs, IsWebScheme scheme ∧
      Url.splitScheme? (Url.cleaned (Text.trimmed address).toList) = some (scheme, cs) := by
  have hstart {start : List Char} (hne : start ≠ [])
      (hplain : start.all fun c => !Text.isBlank c && !Url.isOuterBlank c && !Url.isSkipped c)
      (hbegins : start <+: address.toList) :
      start <+: Url.cleaned (Text.trimmed address).toList := by
    simp only [List.all_eq_true, Bool.and_eq_true, Bool.not_eq_true'] at hplain
    unfold Text.trimmed
    rw [String.toList_ofList]
    exact Url.prefix_cleaned hne (fun c hc => (hplain c hc).1.2) (fun c hc => (hplain c hc).2)
      (Url.prefix_trim hne (fun c hc => (hplain c hc).1.1) hbegins)
  rcases hweb with hhttp | hhttps
  · obtain ⟨rest, hrest⟩ := hstart (by decide) (by decide) hhttp
    exact ⟨"http", _, .inl rfl, hrest ▸ Url.splitScheme?_http rest⟩
  · obtain ⟨rest, hrest⟩ := hstart (by decide) (by decide) hhttps
    exact ⟨"https", _, .inr rfl, hrest ▸ Url.splitScheme?_https rest⟩

/-- An accepted address of the web is read after the slashes that follow its scheme. -/
theorem afterSlashes_of_ofAddress {address : String} {client : Client}
    (h : Client.ofAddress address = .ok client) (hweb : IsWebAddress address) :
    ∃ scheme cs, IsWebScheme scheme ∧ Url.afterSlashes scheme cs = .ok client.base := by
  obtain ⟨scheme, cs, hscheme, hsplit⟩ := splitScheme?_of_isWebAddress hweb
  refine ⟨scheme, cs.dropWhile (Url.isSlash .special), hscheme, ?_⟩
  rw [← Url.parse_eq_afterSlashes hscheme.kind hsplit, parse_of_ofAddress h]

/-- What an accepted address of the web is read as. -/
theorem isWebAt_of_ofAddress {address : String} {client : Client}
    (h : Client.ofAddress address = .ok client) (hweb : IsWebAddress address) :
    ∃ path, client.base.IsWebAt path := by
  obtain ⟨scheme, cs, hscheme, hread⟩ := afterSlashes_of_ofAddress h hweb
  exact Url.isWebAt_of_afterSlashes hscheme.kind hread

theorem ofAddress_of_toOption {address : String} {client : Client}
    (h : (Client.ofAddress address).toOption = some client) :
    Client.ofAddress address = .ok client := by
  cases haddress : Client.ofAddress address with
  | error e =>
    rw [haddress] at h
    cases h
  | ok other =>
    rw [haddress] at h
    rw [Option.some.inj h]

/-- The client of a host without a path. -/
def plainHost : Client :=
  ⟨⟨"http", some ⟨"", none, some (.domain "h"), none⟩, false, .segments [""], none, none⟩⟩

theorem ofAddress_plainHost : Client.ofAddress "http://h" = .ok plainHost :=
  ofAddress_of_toOption (by decide +kernel)

end ClusterBoard.Web
