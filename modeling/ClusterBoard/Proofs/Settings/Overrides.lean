import Mathlib
import ClusterBoard.Proofs.Settings.Modes
import ClusterBoard.Proofs.Text.Numbers

/-!
# Times from the environment

Three variables of the environment set a time (`Span`). In lenient mode they are read one after the
other, and each either gives a number of seconds or is complained about
(`applyEnvironment_lenient`). A variable that gives none leaves the time as the files set it: the
settings are those without the variable, and there is one warning more (`invalid_keeps_files`). So
the time that the warning announces holds only where the files leave it.
-/

namespace ClusterBoard.Settings

/-! ## Numbers of seconds -/

/-- A text is a number of seconds that is long enough. -/
def IsSeconds (value : String) (n : Nat) : Prop :=
  Text.WritesNumber value.toList n ∧ 1 ≤ n ∧ n < 2 ^ 64

/-- Why a text is no number of seconds. -/
def Refuses (value reason : String) : Prop :=
  (Text.WritesNumber value.toList 0 ∧ reason = "must be at least 1 second(s)") ∨
    ¬ Text.WritesNumber value.toList 0 ∧ reason = "expected a positive integer (seconds)"

section Reading

variable {value : String} {n : Nat}

theorem unsigned64?_eq_some_iff :
    Text.unsigned64? value = some n ↔ Text.WritesNumber value.toList n ∧ n < 2 ^ 64 :=
  Text.unsignedBelow?_eq_some_iff

theorem readSeconds_eq_ok_iff : readSeconds value = .ok n ↔ IsSeconds value n := by
  unfold IsSeconds
  rw [and_comm (a := 1 ≤ n), ← and_assoc, ← unsigned64?_eq_some_iff]
  unfold readSeconds
  cases Text.unsigned64? value with
  | none => exact iff_of_false nofun fun h => nomatch h.1
  | some m =>
    dsimp only
    split_ifs with hleast
    · constructor
      · intro h
        obtain rfl := Except.ok.inj h
        exact ⟨rfl, hleast⟩
      · rintro ⟨hm, -⟩
        rw [Option.some.inj hm]
    · refine iff_of_false nofun ?_
      rintro ⟨hm, hn⟩
      obtain rfl := Option.some.inj hm
      exact hleast hn

theorem not_isSeconds_of_error {reason : String} (h : readSeconds value = .error reason) (n : Nat) :
    ¬ IsSeconds value n := by
  rw [← readSeconds_eq_ok_iff, h]
  exact nofun

theorem exists_refuses (h : ∀ n, ¬ IsSeconds value n) :
    ∃ reason, readSeconds value = .error reason ∧ Refuses value reason := by
  cases hread : readSeconds value with
  | ok n => exact absurd (readSeconds_eq_ok_iff.mp hread) (h n)
  | error reason =>
    refine ⟨reason, rfl, ?_⟩
    unfold readSeconds at hread
    cases hvalue : Text.unsigned64? value with
    | none =>
      rw [hvalue] at hread
      refine .inr ⟨fun hzero => ?_, (Except.error.inj hread).symm⟩
      rw [unsigned64?_eq_some_iff.mpr ⟨hzero, by decide⟩] at hvalue
      cases hvalue
    | some n =>
      have hn := (unsigned64?_eq_some_iff.mp hvalue).1
      simp only [hvalue] at hread
      split_ifs at hread with hleast
      obtain rfl : n = 0 := Nat.lt_one_iff.mp (Nat.not_le.mp hleast)
      exact .inl ⟨hn, (Except.error.inj hread).symm⟩

end Reading

/-! ## The times -/

/-- A time among the settings. -/
inductive Span where
  | timeout
  | jobs
  | nodes
  deriving DecidableEq, Repr

namespace Span

/-- The variable of the environment that sets the time. -/
def name : Span → String
  | timeout => "JOBDASH_TIMEOUT"
  | jobs => "JOBDASH_REFRESH_JOBS"
  | nodes => "JOBDASH_REFRESH_NODES"

/-- The time in seconds. -/
def get : Span → Settings → Nat
  | timeout => timeoutSecs
  | jobs => jobsInterval
  | nodes => nodesInterval

/-- The settings with another time. -/
def set : Span → Settings → Nat → Settings
  | timeout, s, n => { s with timeoutSecs := n }
  | jobs, s, n => { s with jobsInterval := n }
  | nodes, s, n => { s with nodesInterval := n }

theorem name_injective : Function.Injective name := by
  intro span other
  cases span <;> cases other <;> decide

theorem get_set (span other : Span) (s : Settings) (n : Nat) :
    span.get (other.set s n) = if span = other then n else span.get s := by
  cases span <;> cases other <;> rfl

theorem get_mended (span : Span) (s : Settings) :
    span.get s.mended = if 1 ≤ span.get s then span.get s else span.get standard := by
  cases span <;> rfl

end Span

/-! ## Lenient reading of the environment -/

/-- The number of seconds that a variable gives, if it is set and can be read. -/
def seconds? (env : Environment) (name : String) : Option Nat :=
  (env name).bind fun value => (readSeconds value).toOption

/-- The warning about a variable of seconds. -/
def refusalOf (name value reason : String) : String :=
  s!"invalid value '{value}' for {name}: {reason} - using default"

/-- The warnings about a variable of seconds. -/
def complaints (env : Environment) (name : String) : List String :=
  match env name with
  | none => []
  | some value =>
    match readSeconds value with
    | .ok _ => []
    | .error reason => [refusalOf name value reason]

/-- The settings with the time that its variable gives. -/
def Span.overridden (span : Span) (env : Environment) (s : Settings) : Settings :=
  match seconds? env span.name with
  | some n => span.set s n
  | none => s

/-- The settings with all that the environment gives. -/
def overridden (env : Environment) (s : Settings) : Settings :=
  overrideTheme env (Span.nodes.overridden env (Span.jobs.overridden env
    (Span.timeout.overridden env (overrideServer env s))))

/-- The warnings about the times of the environment. -/
def allComplaints (env : Environment) : List String :=
  complaints env Span.timeout.name ++ complaints env Span.jobs.name ++
    complaints env Span.nodes.name

theorem refusalOf_eq (name value reason : String) : refusalOf name value reason =
    (SettingsError.env name value reason).message ++ " - using default" := rfl

theorem overrideSeconds_lenient (env : Environment) (span : Span) (s : Settings) :
    overrideSeconds false env span.name span.set s =
      .ok (span.overridden env s, complaints env span.name) := by
  unfold overrideSeconds Span.overridden complaints seconds?
  cases env span.name with
  | none => rfl
  | some value =>
    dsimp only [Option.bind_some]
    cases readSeconds value with
    | ok n => rfl
    | error reason =>
      dsimp only
      rw [refusalOf_eq]
      rfl

theorem applyEnvironment_eq (strict : Bool) (env : Environment) (s : Settings) :
    applyEnvironment strict env s =
      overrideSeconds strict env Span.timeout.name Span.timeout.set (overrideServer env s) >>=
        fun first => overrideSeconds strict env Span.jobs.name Span.jobs.set first.1 >>=
          fun second => overrideSeconds strict env Span.nodes.name Span.nodes.set second.1 >>=
            fun third => .ok (overrideTheme env third.1, first.2 ++ second.2 ++ third.2) := rfl

theorem applyEnvironment_lenient (env : Environment) (s : Settings) :
    applyEnvironment false env s = .ok (overridden env s, allComplaints env) := by
  rw [applyEnvironment_eq, overrideSeconds_lenient]
  show (overrideSeconds false env Span.jobs.name _ _ >>= _) = _
  rw [overrideSeconds_lenient]
  show (overrideSeconds false env Span.nodes.name _ _ >>= _) = _
  rw [overrideSeconds_lenient]
  rfl

/-- Lenient loading reads the files, then the environment, and mends what is left. -/
theorem loadIn_false_eq {files : List (String × FileContent)} {read : Settings}
    {first : List String} (hfiles : loadFiles false standard files = .ok (read, first))
    (env : Environment) : loadIn false files env =
      validate false (overridden env read) >>= fun found =>
        .ok (found.1, first ++ allComplaints env ++ found.2) := by
  unfold loadIn
  rw [hfiles]
  show (applyEnvironment false env read >>= _) = _
  rw [applyEnvironment_lenient]
  rfl

/-! ## One variable -/

/-- The environment without one of its variables. -/
def without (env : Environment) (name : String) : Environment := fun other =>
  if other = name then none else env other

section Without

variable {env : Environment} {span : Span} {value reason : String}

theorem without_of_ne {name other : String} (h : other ≠ name) :
    without env name other = env other := if_neg h

theorem seconds?_without {name : String} (h : seconds? env name = none) (other : String) :
    seconds? (without env name) other = seconds? env other := by
  unfold seconds?
  by_cases heq : other = name
  · subst heq
    rw [without, if_pos rfl]
    exact h.symm
  · rw [without_of_ne heq]

/-- A variable that gives no number does not count for the settings. -/
theorem overridden_without (h : seconds? env span.name = none) :
    overridden (without env span.name) = overridden env := by
  have hserver : overrideServer (without env span.name) = overrideServer env := by
    funext s
    simp only [overrideServer,
      without_of_ne (show "JOBDASH_SERVER" ≠ span.name by cases span <;> decide)]
  have htheme : overrideTheme (without env span.name) = overrideTheme env := by
    funext s
    simp only [overrideTheme,
      without_of_ne (show "JOBDASH_THEME" ≠ span.name by cases span <;> decide)]
  funext s
  simp only [overridden, Span.overridden, seconds?_without h, hserver, htheme]

theorem get_overridden (env : Environment) (span : Span) (s : Settings) :
    span.get (overridden env s) = (seconds? env span.name).getD (span.get s) := by
  have hspan (other : Span) (s : Settings) : span.get (other.overridden env s) =
      if span = other then (seconds? env span.name).getD (span.get s) else span.get s := by
    unfold Span.overridden
    by_cases heq : span = other
    · subst heq
      rw [if_pos rfl]
      cases seconds? env span.name with
      | none => rfl
      | some n => exact (span.get_set span s n).trans (if_pos rfl)
    · rw [if_neg heq]
      cases seconds? env other.name with
      | none => rfl
      | some n => exact (span.get_set other s n).trans (if_neg heq)
  have htheme (s : Settings) : span.get (overrideTheme env s) = span.get s := by
    unfold overrideTheme
    split <;> cases span <;> rfl
  have hserver (s : Settings) : span.get (overrideServer env s) = span.get s := by
    unfold overrideServer
    split
    · split <;> cases span <;> rfl
    · rfl
  unfold overridden
  rw [htheme, hspan, hspan, hspan, hserver]
  cases span <;> rfl

theorem complaints_of_refuses (hvalue : env span.name = some value)
    (hread : readSeconds value = .error reason) :
    complaints env span.name = [refusalOf span.name value reason] := by
  unfold complaints
  rw [hvalue]
  simp only [hread]

theorem complaints_without (env : Environment) (span other : Span) :
    complaints (without env span.name) other.name =
      if other = span then [] else complaints env other.name := by
  unfold complaints
  by_cases heq : other = span
  · subst heq
    rw [without, if_pos rfl, if_pos rfl]
  · rw [without_of_ne (mt (fun h => Span.name_injective h) heq), if_neg heq]

/-- The complaint about one variable stands among those about the others. -/
theorem exists_allComplaints (env : Environment) (span : Span) : ∃ before after,
    allComplaints env = before ++ complaints env span.name ++ after ∧
      allComplaints (without env span.name) = before ++ after := by
  unfold allComplaints
  rw [complaints_without, complaints_without, complaints_without]
  cases span with
  | timeout =>
    exact ⟨[], complaints env Span.jobs.name ++ complaints env Span.nodes.name,
      List.append_assoc _ _ _, rfl⟩
  | jobs =>
    refine ⟨complaints env Span.timeout.name, complaints env Span.nodes.name, rfl, ?_⟩
    exact congrArg (· ++ complaints env Span.nodes.name) (List.append_nil _)
  | nodes =>
    exact ⟨complaints env Span.timeout.name ++ complaints env Span.jobs.name, [],
      (List.append_nil _).symm, rfl⟩

theorem isStrict_without (env : Environment) (span : Span) :
    isStrict (without env span.name) = isStrict env := by
  unfold isStrict
  rw [without_of_ne (show "JOBDASH_STRICT_CONFIG" ≠ span.name by cases span <;> decide)]

end Without

/-- **A time that cannot be read leaves that of the files.** In lenient mode a variable whose text
is no number of seconds changes no setting and adds one warning, which says why and that the default
is used. But the time is that of the files, and the default exactly if they leave it or set none
that can be used. -/
theorem invalid_keeps_files (files : List (String × FileContent)) {env : Environment}
    (hlenient : isStrict env = false) (span : Span) {value : String}
    (hvalue : env span.name = some value) (hinvalid : ∀ n, ¬ IsSeconds value n) :
    ∃ read first settings before after reason,
      loadFiles false standard files = .ok (read, first) ∧
      Refuses value reason ∧
      load files env = .ok (settings, before ++ refusalOf span.name value reason :: after) ∧
      load files (without env span.name) = .ok (settings, before ++ after) ∧
      span.get settings =
        (if 1 ≤ span.get read then span.get read else span.get standard) ∧
      (span.get settings = span.get standard ↔
        span.get read = 0 ∨ span.get read = span.get standard) := by
  obtain ⟨read, first, hfiles, -⟩ := agrees_loadFiles files standard
  obtain ⟨reason, hread, hrefuses⟩ := exists_refuses hinvalid
  obtain ⟨third, hvalidate⟩ := validate_lenient (overridden env read)
  obtain ⟨before, after, hall, hwithout⟩ := exists_allComplaints env span
  have hnone : seconds? env span.name = none := by
    unfold seconds?
    rw [hvalue, Option.bind_some, hread]
    rfl
  have hget : span.get (overridden env read).mended =
      if 1 ≤ span.get read then span.get read else span.get standard := by
    rw [Span.get_mended, get_overridden, hnone, Option.getD_none]
  refine ⟨read, first, (overridden env read).mended, first ++ before, after ++ third, reason,
    hfiles, hrefuses, ?_, ?_, hget, ?_⟩
  · unfold load
    rw [hlenient, loadIn_false_eq hfiles, hvalidate]
    show Except.ok ((overridden env read).mended, first ++ allComplaints env ++ third) = _
    rw [hall, complaints_of_refuses hvalue hread]
    simp
  · unfold load
    rw [isStrict_without, hlenient, loadIn_false_eq hfiles, overridden_without hnone, hvalidate]
    show Except.ok ((overridden env read).mended,
      first ++ allComplaints (without env span.name) ++ third) = _
    rw [hwithout]
    simp
  · rw [hget]
    split_ifs with hleast
    · exact ⟨.inr, fun h => h.resolve_left (by omega)⟩
    · exact iff_of_true rfl (.inl (by omega))

/-- A file of the user that sets the timeout, below a system without a file. -/
def shortTimeout : List (String × FileContent) :=
  [("/etc/jobdash/config.toml", .absent),
    ("jobdash/config.toml", .text "[server]\ntimeout_secs = 5\n")]

/-- An environment that sets the timeout and nothing else. -/
def timeoutOf (value : String) : Environment := fun name =>
  if name = Span.timeout.name then some value else none

/-- No time at all is refused for its length. -/
theorem invalid_keeps_files_zero :
    isStrict (timeoutOf "0") = false ∧ timeoutOf "0" Span.timeout.name = some "0" ∧
    (∀ n, ¬ IsSeconds "0" n) ∧
    ∃ settings before after,
      load shortTimeout (timeoutOf "0") = .ok (settings, before ++
        "invalid value '0' for JOBDASH_TIMEOUT: must be at least 1 second(s) - using default" ::
          after) ∧
      load shortTimeout (without (timeoutOf "0") Span.timeout.name) =
        .ok (settings, before ++ after) ∧
      settings.timeoutSecs = 5 := by
  have hlenient : isStrict (timeoutOf "0") = false := by decide
  have hvalue : timeoutOf "0" Span.timeout.name = some "0" := rfl
  have hread : Text.unsigned64? "0" = some 0 := by decide +kernel
  have hzero : Text.WritesNumber "0".toList 0 := (unsigned64?_eq_some_iff.mp hread).1
  have hinvalid : ∀ n, ¬ IsSeconds "0" n := fun n hn => by
    obtain rfl := hzero.unique hn.1
    exact absurd hn.2.1 (by decide)
  have hfiles : loadFiles false standard shortTimeout =
      .ok ({ standard with timeoutSecs := 5 }, []) := by decide +kernel
  obtain
    ⟨read, first, settings, before, after, reason, hread, hrefuses, hload, hwithout, hget, -⟩ :=
    invalid_keeps_files shortTimeout hlenient .timeout hvalue hinvalid
  obtain ⟨rfl, rfl⟩ := Prod.mk.inj (Except.ok.inj (hfiles.symm.trans hread))
  obtain rfl : reason = "must be at least 1 second(s)" :=
    hrefuses.elim And.right fun h => absurd hzero h.1
  exact ⟨hlenient, hvalue, hinvalid, settings, before, after, hload, hwithout, hget⟩

/-- The warning announces the default, and the time of the file holds. -/
theorem invalid_timeout_not_default :
    isStrict (timeoutOf "soon") = false ∧ timeoutOf "soon" "JOBDASH_TIMEOUT" = some "soon" ∧
    (∀ n, ¬ IsSeconds "soon" n) ∧
    load shortTimeout (timeoutOf "soon") = .ok ({ standard with timeoutSecs := 5 },
      ["invalid value 'soon' for JOBDASH_TIMEOUT: expected a positive integer (seconds) - " ++
        "using default"]) ∧
    standard.timeoutSecs = 10 := by
  have hread : readSeconds "soon" = .error "expected a positive integer (seconds)" := by
    decide +kernel
  exact ⟨by decide, rfl, not_isSeconds_of_error hread, by decide +kernel, rfl⟩

end ClusterBoard.Settings
