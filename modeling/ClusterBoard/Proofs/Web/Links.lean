import Mathlib
import ClusterBoard.Proofs.Web.Addresses

/-!
# Following links

A link that starts with the first segment of the server's interface is relative to the folder of the
server's address: scheme and host stay, and the text up to a question mark or a hash is added to the
segments of the folder. It brings neither query nor fragment exactly if no such mark is in it.
-/

namespace ClusterBoard.Web.Url

/-! ## The text of a link -/

theorem cleaned_of_ends {c d : Char} (hc : isOuterBlank c = false) (hd : isOuterBlank d = false)
    (cs : List Char) : cleaned (c :: cs ++ [d]) = (c :: cs ++ [d]).filter (!isSkipped ·) := by
  have hstart : (c :: cs ++ [d]).dropWhile isOuterBlank = c :: cs ++ [d] :=
    List.dropWhile_cons_of_neg (by simp [hc])
  have hend : (c :: cs ++ [d]).rdropWhile isOuterBlank = c :: cs ++ [d] :=
    List.rdropWhile_concat_neg _ _ _ (by simp [hd])
  unfold cleaned
  rw [hstart]
  exact congrArg (List.filter (!isSkipped ·)) hend

theorem not_skipped_of_not_outerBlank {c : Char} (h : isOuterBlank c = false) :
    isSkipped c = false := by
  unfold isSkipped
  simp only [Bool.or_eq_false_iff, beq_eq_false_iff_ne]
  refine ⟨⟨?_, ?_⟩, ?_⟩ <;> rintro rfl <;> exact absurd h (by decide)

theorem cleaned_of_plain {cs : List Char} (h : ∀ c ∈ cs, isOuterBlank c = false) :
    cleaned cs = cs := by
  have hstart : cs.dropWhile isOuterBlank = cs := List.dropWhile_eq_self_iff.mpr fun hlength => by
    simp [h _ (List.getElem_mem hlength)]
  have hend : cs.rdropWhile isOuterBlank = cs := List.rdropWhile_eq_self_iff.mpr fun hne => by
    simp [h _ (List.getLast_mem hne)]
  have hall : cs.filter (!isSkipped ·) = cs := List.filter_eq_self.mpr fun c hc => by
    simp [not_skipped_of_not_outerBlank (h c hc)]
  unfold cleaned
  rw [hstart]
  exact (congrArg (List.filter (!isSkipped ·)) hend).trans hall

/-! ## Below the folder -/

section Join

variable {u : Url} {path : List String} {cs : List Char}

theorem withFinalSlash_eq (h : u.IsWebAt path) :
    u.withFinalSlash = { u with path := .segments (folder path ++ [""]) } := by
  have hkind : u.kind ≠ .file := by
    rw [h.kind]
    decide
  rw [folder_concat]
  unfold withFinalSlash
  rw [h.segments]
  simp only [if_neg hkind]
  split_ifs
  · rw [← h.segments]
  · rfl

theorem splitScheme?_api (cs : List Char) : splitScheme? ("api/".toList ++ cs) = none := rfl

theorem relative_api (h : u.kind = .special) (path : List String) (cs : List Char) :
    relative u path ("api/".toList ++ cs) =
      .ok (withPath u.scheme u.authority path.dropLast ("api/".toList ++ cs)) := by
  show relative u path ('a' :: ("pi/".toList ++ cs)) = _
  unfold relative
  simp only [h]
  rfl

theorem join_api (h : u.IsWebAt path) {link : String}
    (hlink : cleaned link.toList = "api/".toList ++ cs) : u.withFinalSlash.join link =
      .ok (withPath u.scheme u.authority (folder path) ("api/".toList ++ cs)) := by
  have hkind : ({ u with path := .segments (folder path ++ [""]) } : Url).kind = .special := h.kind
  rw [withFinalSlash_eq h]
  unfold join parse
  simp only [hlink, splitScheme?_api]
  rw [relative_api hkind, List.dropLast_concat]

end Join

/-! ## Query and fragment -/

section Tail

variable {scheme : String} {a : Option Authority} {path : List String} {cs : List Char}

theorem tailParts_eq_none_iff (kind : SchemeKind) (cs : List Char) :
    ((tailParts kind (cs.dropWhile (!endsPath ·))).1 = none ∧
      (tailParts kind (cs.dropWhile (!endsPath ·))).2 = none) ↔ ∀ c ∈ cs, endsPath c = false := by
  cases htail : cs.dropWhile (!endsPath ·) with
  | nil =>
    have hall := List.dropWhile_eq_nil_iff.mp htail
    simp only [Bool.not_eq_true'] at hall
    exact ⟨fun _ => hall, fun _ => ⟨rfl, rfl⟩⟩
  | cons c rest =>
    have hne : cs.dropWhile (!endsPath ·) ≠ [] := by
      rw [htail]
      exact List.cons_ne_nil _ _
    have hmark : endsPath c = true := by
      have hhead := List.head_dropWhile_not (!endsPath ·) hne
      simpa [htail] using hhead
    have hmem : c ∈ cs := (List.dropWhile_suffix _).subset (htail ▸ List.mem_cons_self)
    have hsome : ¬ ((tailParts kind (c :: rest)).1 = none ∧
        (tailParts kind (c :: rest)).2 = none) := by
      unfold endsPath at hmark
      rw [Bool.or_eq_true, beq_iff_eq, beq_iff_eq] at hmark
      rcases hmark with rfl | rfl
      · unfold tailParts
        rintro ⟨hquery, -⟩
        simp only at hquery
        split at hquery <;> cases hquery
      · rintro ⟨-, hfragment⟩
        cases hfragment
    refine iff_of_false hsome fun hall => ?_
    rw [hall c hmem] at hmark
    cases hmark

theorem plain_withPath_iff : ((withPath scheme a path cs).query = none ∧
    (withPath scheme a path cs).fragment = none) ↔ ∀ c ∈ cs, endsPath c = false :=
  tailParts_eq_none_iff _ cs

theorem withPath_of_plain (h : ∀ c ∈ cs, endsPath c = false) : withPath scheme a path cs =
    { scheme, authority := a, query := none, fragment := none
      path := .segments (pushPath (.ofScheme scheme) path cs)
      guarded := a.isNone && needsGuard (.segments (pushPath (.ofScheme scheme) path cs)) } := by
  have htake : cs.takeWhile (!endsPath ·) = cs := List.takeWhile_eq_self_iff.mpr fun c hc => by
    simp [h c hc]
  have hdrop : cs.dropWhile (!endsPath ·) = [] := List.dropWhile_eq_nil_iff.mpr fun c hc => by
    simp [h c hc]
  unfold withPath
  rw [htake, hdrop]
  rfl

theorem path_withPath (h : ∀ c ∈ cs, endsPath c = false) : (withPath scheme a path cs).path =
    .segments (pushPath (.ofScheme scheme) path cs) := by rw [withPath_of_plain h]

end Tail

end ClusterBoard.Web.Url

namespace ClusterBoard.Web

/-- A link that can be followed is resolved to where it leads. -/
theorem resolve_of_join {client : Client} {link : String} {u : Url}
    (h : client.base.withFinalSlash.join link = .ok u) : client.resolve link = u.text := by
  unfold Client.resolve
  rw [h]

end ClusterBoard.Web
