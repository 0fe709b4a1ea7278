import Mathlib
import ClusterBoard.Settings.Load

/-!
# Strict and lenient loading

The same steps load the settings in both modes. `Agrees` says of a step what the two modes have to
do with each other: the lenient one never fails, and the strict one gives the same where no warning
is added and fails otherwise. It holds of each place where something may be wrong (`agrees_report`)
and of steps in sequence (`Agrees.bind`), so it holds of loading. What lenient loading gives is
usable, and a check in strict mode leaves the settings as they are (`modes_agree`).
-/

namespace ClusterBoard.Settings

/-! ## Steps in both modes -/

section Agrees

variable {α β : Type} {before : List String}

/-- The lenient run of a step adds to the warnings so far and never fails; the strict run gives the
same if nothing is added, and fails otherwise. -/
def Agrees (before : List String) (lenient strict : Except SettingsError (Warned α)) : Prop :=
  ∃ value added, lenient = .ok (value, before ++ added) ∧
    (added = [] ∧ strict = .ok (value, before) ∨ added ≠ [] ∧ ∃ error, strict = .error error)

theorem agrees_ok (before : List String) (value : α) :
    Agrees before (.ok (value, before)) (.ok (value, before)) :=
  ⟨value, [], by rw [List.append_nil], .inl ⟨rfl, rfl⟩⟩

/-- What is wrong is a warning in lenient mode and an error in strict mode. -/
theorem agrees_report (error : SettingsError) (warning : String) (value : α) :
    Agrees [] (report false error warning value) (report true error warning value) :=
  ⟨value, [warning], rfl, .inr ⟨List.cons_ne_nil _ _, error, rfl⟩⟩

/-- A value that is checked, with another one in its place where it is wrong. -/
theorem agrees_checked (good : Prop) [Decidable good] (error : SettingsError) (warning : String)
    (value fallback : α) :
    Agrees [] (if good then .ok (value, []) else report false error warning fallback)
      (if good then .ok (value, []) else report true error warning fallback) := by
  by_cases h : good
  · rw [if_pos h, if_pos h]
    exact agrees_ok [] value
  · rw [if_neg h, if_neg h]
    exact agrees_report error warning fallback

/-- A step after another one, which goes on from its warnings. -/
theorem Agrees.bind {lenient strict : Except SettingsError (Warned α)}
    {lenientRest strictRest : Warned α → Except SettingsError (Warned β)}
    (h : Agrees [] lenient strict) (hrest : ∀ value added,
      Agrees (before ++ added) (lenientRest (value, added)) (strictRest (value, added))) :
    Agrees before (lenient >>= lenientRest) (strict >>= strictRest) := by
  obtain ⟨value, added, rfl, hstrict⟩ := h
  obtain ⟨last, more, hlast, hmore⟩ := hrest value added
  refine ⟨last, added ++ more, hlast.trans (by rw [List.append_assoc]), ?_⟩
  rcases hstrict with ⟨rfl, rfl⟩ | ⟨hadded, error, rfl⟩
  · rwa [List.append_nil] at hmore
  · exact .inr ⟨List.append_ne_nil_of_left_ne_nil hadded more, error, rfl⟩

/-- The strict run succeeds exactly if the lenient one gives no warning. -/
theorem Agrees.strict_eq_ok_iff {lenient strict : Except SettingsError (Warned α)}
    (h : Agrees [] lenient strict) : ∃ value warnings, lenient = .ok (value, warnings) ∧
      ∀ result, strict = .ok result ↔ warnings = [] ∧ result = (value, []) := by
  obtain ⟨value, added, hlenient, hstrict⟩ := h
  refine ⟨value, added, hlenient, fun result => ?_⟩
  rcases hstrict with ⟨rfl, rfl⟩ | ⟨hadded, error, rfl⟩
  · exact ⟨fun h => ⟨rfl, (Except.ok.inj h).symm⟩, fun h => congrArg Except.ok h.2.symm⟩
  · exact ⟨nofun, fun h => absurd h.1 hadded⟩

end Agrees

/-! ## The steps of loading -/

theorem agrees_loadFile (settings : Settings) (path : String) (content : FileContent) :
    Agrees [] (loadFile false settings path content) (loadFile true settings path content) := by
  cases content with
  | absent => exact agrees_ok [] settings
  | unreadable => exact agrees_report _ _ settings
  | text text =>
    simp only [loadFile]
    cases ofText? text with
    | some later => exact agrees_ok [] (settings.merge later)
    | none => exact agrees_report _ _ settings

theorem agrees_loadFiles (files : List (String × FileContent)) (settings : Settings) :
    Agrees [] (loadFiles false settings files) (loadFiles true settings files) := by
  induction files generalizing settings with
  | nil => exact agrees_ok [] settings
  | cons file files ih =>
    refine (agrees_loadFile settings file.1 file.2).bind fun settings first => ?_
    exact (ih settings).bind fun settings more => agrees_ok (first ++ more) settings

theorem agrees_overrideSeconds (env : Environment) (name : String)
    (set : Settings → Nat → Settings) (settings : Settings) :
    Agrees [] (overrideSeconds false env name set settings)
      (overrideSeconds true env name set settings) := by
  unfold overrideSeconds
  cases env name with
  | none => exact agrees_ok [] settings
  | some value =>
    dsimp only
    cases readSeconds value with
    | ok n => exact agrees_ok [] (set settings n)
    | error reason => exact agrees_report _ _ settings

theorem agrees_applyEnvironment (env : Environment) (settings : Settings) :
    Agrees [] (applyEnvironment false env settings) (applyEnvironment true env settings) := by
  refine (agrees_overrideSeconds env _ _ _).bind fun settings first => ?_
  refine (agrees_overrideSeconds env _ _ settings).bind fun settings second => ?_
  refine (agrees_overrideSeconds env _ _ settings).bind fun settings third => ?_
  exact agrees_ok (first ++ second ++ third) (overrideTheme env settings)

theorem agrees_checkLeast (field : String) (value standard : Nat) :
    Agrees [] (checkLeast false field value standard) (checkLeast true field value standard) :=
  agrees_checked _ _ _ value standard

theorem agrees_checkAddress (address : String) :
    Agrees [] (checkAddress false address) (checkAddress true address) :=
  agrees_checked _ _ _ address standard.baseUrl

/-- A check of a field does what the check of its value does. -/
theorem Check.result_field {α : Type} (get : Settings → α) (set : Settings → α → Settings)
    (check : α → Except SettingsError (Warned α)) (settings : Settings) :
    (field get set check).result settings =
      check (get settings) >>= fun found => .ok (set settings found.1, found.2) := by
  unfold result field
  cases check (get settings) <;> rfl

theorem Check.result_all_cons (check : Check) (rest : List Check) (settings : Settings) :
    (all (check :: rest)).result settings =
      check.result settings >>= fun first =>
        (all rest).result first.1 >>= fun more => .ok (more.1, first.2 ++ more.2) := by
  simp only [result, all]
  obtain ⟨outcome, settings⟩ := check settings
  cases outcome with
  | error error => rfl
  | ok warnings =>
    show ((all rest settings).1.map (warnings ++ ·)).map ((all rest settings).2, ·) =
      (all rest settings).1.map ((all rest settings).2, ·) >>= fun more =>
        .ok (more.1, warnings ++ more.2)
    cases (all rest settings).1 <;> rfl

theorem agrees_field {α : Type} (get : Settings → α) (set : Settings → α → Settings)
    {lenient strict : α → Except SettingsError (Warned α)}
    (h : ∀ value, Agrees [] (lenient value) (strict value)) (settings : Settings) :
    Agrees [] ((Check.field get set lenient).result settings)
      ((Check.field get set strict).result settings) := by
  rw [Check.result_field, Check.result_field]
  exact (h (get settings)).bind fun value added => agrees_ok added (set settings value)

theorem agrees_all_cons {lenient strict : Check} {lenientRest strictRest : List Check}
    (h : ∀ settings, Agrees [] (lenient.result settings) (strict.result settings))
    (hrest : ∀ settings,
      Agrees [] ((Check.all lenientRest).result settings) ((Check.all strictRest).result settings))
    (settings : Settings) :
    Agrees [] ((Check.all (lenient :: lenientRest)).result settings)
      ((Check.all (strict :: strictRest)).result settings) := by
  rw [Check.result_all_cons, Check.result_all_cons]
  refine (h settings).bind fun settings first => ?_
  exact (hrest settings).bind fun settings more => agrees_ok (first ++ more) settings

theorem agrees_validate (settings : Settings) :
    Agrees [] (validate false settings) (validate true settings) := by
  unfold validate validateInPlace checks
  refine agrees_all_cons (agrees_field _ _ fun n => agrees_checkLeast _ n _) ?_ settings
  refine agrees_all_cons (agrees_field _ _ agrees_checkAddress) ?_
  refine agrees_all_cons (agrees_field _ _ fun n => agrees_checkLeast _ n _) ?_
  refine agrees_all_cons (agrees_field _ _ fun n => agrees_checkLeast _ n _) fun settings => ?_
  exact agrees_ok [] settings

theorem agrees_loadIn (files : List (String × FileContent)) (env : Environment) :
    Agrees [] (loadIn false files env) (loadIn true files env) := by
  refine (agrees_loadFiles files standard).bind fun settings first => ?_
  refine (agrees_applyEnvironment env settings).bind fun settings second => ?_
  exact (agrees_validate settings).bind fun settings third =>
    agrees_ok (first ++ second ++ third) settings

/-! ## What a check makes of the settings -/

/-- Settings that the program can work with. -/
structure Usable (s : Settings) : Prop where
  timeoutSecs : 1 ≤ s.timeoutSecs
  jobsInterval : 1 ≤ s.jobsInterval
  nodesInterval : 1 ≤ s.nodesInterval
  baseUrl : "http://".toList <+: Text.trim s.baseUrl.toList ∨
    "https://".toList <+: Text.trim s.baseUrl.toList

/-- The settings with each value that cannot be used replaced by the standard one. -/
def mended (s : Settings) : Settings :=
  { s with
    timeoutSecs := if leastSeconds ≤ s.timeoutSecs then s.timeoutSecs else standard.timeoutSecs
    jobsInterval := if leastSeconds ≤ s.jobsInterval then s.jobsInterval else standard.jobsInterval
    nodesInterval :=
      if leastSeconds ≤ s.nodesInterval then s.nodesInterval else standard.nodesInterval
    baseUrl := if isWebAddress s.baseUrl then s.baseUrl else standard.baseUrl }

theorem isWebAddress_iff (address : String) : isWebAddress address ↔
    "http://".toList <+: Text.trim address.toList ∨
      "https://".toList <+: Text.trim address.toList := by
  unfold isWebAddress
  rw [Bool.or_eq_true, List.isPrefixOf_iff_prefix, List.isPrefixOf_iff_prefix]

theorem isWebAddress_standard : isWebAddress standard.baseUrl := by decide +kernel

theorem leastSeconds_le_ite {value standard : Nat} (h : leastSeconds ≤ standard) :
    leastSeconds ≤ if leastSeconds ≤ value then value else standard := by
  split_ifs with hvalue
  · exact hvalue
  · exact h

theorem usable_mended (s : Settings) : s.mended.Usable where
  timeoutSecs := leastSeconds_le_ite (by decide)
  jobsInterval := leastSeconds_le_ite (by decide)
  nodesInterval := leastSeconds_le_ite (by decide)
  baseUrl := by
    rw [← isWebAddress_iff]
    unfold mended
    dsimp only
    split_ifs with h
    · exact h
    · exact isWebAddress_standard

theorem checkLeast_of_le (strict : Bool) (field : String) {value standard : Nat} (h : 1 ≤ value) :
    checkLeast strict field value standard = .ok (value, []) := if_pos h

theorem checkAddress_of_web (strict : Bool) {address : String} (h : isWebAddress address) :
    checkAddress strict address = .ok (address, []) := if_pos h

/-- A check finds nothing wrong with usable settings and leaves them as they are. -/
theorem Usable.validateInPlace_eq {s : Settings} (h : s.Usable) (strict : Bool) :
    validateInPlace strict s = (.ok [], s) := by
  simp only [validateInPlace, checks, Check.all, Check.field,
    checkLeast_of_le strict _ h.timeoutSecs, checkLeast_of_le strict _ h.jobsInterval,
    checkLeast_of_le strict _ h.nodesInterval,
    checkAddress_of_web strict ((isWebAddress_iff _).mpr h.baseUrl)]
  rfl

theorem checked_lenient {α : Type} (good : Prop) [Decidable good] (error : SettingsError)
    (warning : String) (value fallback : α) : ∃ warnings,
    (if good then .ok (value, []) else report false error warning fallback) =
      .ok (if good then value else fallback, warnings) := by
  by_cases h : good
  · exact ⟨[], by rw [if_pos h, if_pos h]⟩
  · exact ⟨[warning], by rw [if_neg h, if_neg h]; rfl⟩

theorem checkLeast_lenient (field : String) (value standard : Nat) : ∃ warnings,
    checkLeast false field value standard =
      .ok (if leastSeconds ≤ value then value else standard, warnings) :=
  checked_lenient _ _ _ value standard

theorem checkAddress_lenient (address : String) : ∃ warnings,
    checkAddress false address =
      .ok (if isWebAddress address then address else standard.baseUrl, warnings) :=
  checked_lenient _ _ _ address standard.baseUrl

/-- In lenient mode a check mends the settings. -/
theorem validate_lenient (s : Settings) :
    ∃ warnings, validate false s = .ok (s.mended, warnings) := by
  obtain ⟨first, h₁⟩ := checkLeast_lenient "server.timeout_secs" s.timeoutSecs standard.timeoutSecs
  obtain ⟨second, h₂⟩ := checkAddress_lenient s.baseUrl
  obtain ⟨third, h₃⟩ :=
    checkLeast_lenient "refresh.jobs_interval" s.jobsInterval standard.jobsInterval
  obtain ⟨fourth, h₄⟩ :=
    checkLeast_lenient "refresh.nodes_interval" s.nodesInterval standard.nodesInterval
  simp only [validate, Check.result, validateInPlace, checks, Check.all, Check.field, h₁, h₂, h₃,
    h₄]
  exact ⟨_, rfl⟩

/-! ### In strict mode -/

/-- A check that leaves settings as they are, whether it fails or not. -/
def Check.LeavesAlone (check : Check) : Prop := ∀ settings, (check settings).2 = settings

theorem Check.leavesAlone_field {α : Type} {get : Settings → α} {set : Settings → α → Settings}
    {check : α → Except SettingsError (Warned α)}
    (hset : ∀ settings, set settings (get settings) = settings)
    (hcheck : ∀ value found, check value = .ok found → found.1 = value) :
    (field get set check).LeavesAlone := by
  intro settings
  unfold field
  split
  · rename_i value warnings heq
    obtain rfl : value = get settings := hcheck _ _ heq
    exact hset settings
  · rfl

theorem Check.leavesAlone_all {checks : List Check} (h : ∀ check ∈ checks, check.LeavesAlone) :
    (all checks).LeavesAlone := by
  induction checks with
  | nil => exact fun settings => rfl
  | cons check rest ih =>
    intro settings
    have hcheck := h check List.mem_cons_self settings
    have hrest := ih fun other hother => h other (List.mem_cons_of_mem _ hother)
    simp only [all]
    rcases hc : check settings with ⟨outcome, after⟩
    obtain rfl : after = settings := (congrArg Prod.snd hc).symm.trans hcheck
    cases outcome with
    | error error => rfl
    | ok warnings => exact hrest after

theorem checked_strict {α : Type} {good : Prop} [Decidable good] {error : SettingsError}
    {warning : String} {value fallback : α} {found : Warned α}
    (h : (if good then .ok (value, []) else report true error warning fallback) = .ok found) :
    found.1 = value := by
  split_ifs at h
  · rw [← Except.ok.inj h]
  · cases h

theorem checkLeast_strict (field : String) (standard value : Nat) (found : Warned Nat)
    (h : checkLeast true field value standard = .ok found) : found.1 = value :=
  checked_strict h

theorem checkAddress_strict (address : String) (found : Warned String)
    (h : checkAddress true address = .ok found) : found.1 = address :=
  checked_strict h

/-- In strict mode a check leaves the settings as they are, whether it fails or not. -/
theorem leavesAlone_validateInPlace : (validateInPlace true).LeavesAlone := by
  refine Check.leavesAlone_all fun check hcheck => ?_
  simp only [checks, List.mem_cons, List.not_mem_nil, or_false] at hcheck
  rcases hcheck with rfl | rfl | rfl | rfl
  · exact Check.leavesAlone_field (fun _ => rfl) (checkLeast_strict _ _)
  · exact Check.leavesAlone_field (fun _ => rfl) checkAddress_strict
  · exact Check.leavesAlone_field (fun _ => rfl) (checkLeast_strict _ _)
  · exact Check.leavesAlone_field (fun _ => rfl) (checkLeast_strict _ _)

/-! ## The theorem -/

/-- The variable that asks for strict mode. -/
def modeVariable : String := "JOBDASH_STRICT_CONFIG"

/-- Apart from the mode, loading reads nothing from the variable that asks for it. -/
theorem loadIn_congr (strict : Bool) (files : List (String × FileContent))
    {env other : Environment} (h : ∀ name, name ≠ modeVariable → other name = env name) :
    loadIn strict files other = loadIn strict files env := by
  have happly : applyEnvironment strict other = applyEnvironment strict env := by
    funext settings
    simp only [applyEnvironment, overrideServer, overrideSeconds, overrideTheme,
      h "JOBDASH_SERVER" (by decide), h "JOBDASH_TIMEOUT" (by decide),
      h "JOBDASH_REFRESH_JOBS" (by decide), h "JOBDASH_REFRESH_NODES" (by decide),
      h "JOBDASH_THEME" (by decide)]
  unfold loadIn
  rw [happly]

/-- What lenient loading gives was mended in the end. -/
theorem loadIn_lenient (files : List (String × FileContent)) (env : Environment) :
    ∃ settings warnings, loadIn false files env = .ok (mended settings, warnings) := by
  obtain ⟨read, first, hfiles, -⟩ := agrees_loadFiles files standard
  obtain ⟨overridden, second, happly, -⟩ := agrees_applyEnvironment env read
  obtain ⟨third, hvalidate⟩ := validate_lenient overridden
  refine ⟨overridden, first ++ second ++ third, ?_⟩
  unfold loadIn
  rw [hfiles]
  show (applyEnvironment false env read >>= _) = _
  rw [happly]
  show (validate false overridden >>= _) = _
  rw [hvalidate]
  rfl

/-- **Strict and lenient loading agree.** Lenient loading never fails, and what it gives is usable,
so that a check finds nothing more; strict loading gives the same where lenient loading gives no
warning and fails otherwise. A check in strict mode changes nothing, whether it fails or not. -/
theorem modes_agree (files : List (String × FileContent)) {lenient strict : Environment}
    (hl : isStrict lenient = false) (hs : isStrict strict = true)
    (hsame : ∀ name, name ≠ modeVariable → strict name = lenient name) :
    (∃ settings warnings, load files lenient = .ok (settings, warnings) ∧ settings.Usable ∧
      (∀ mode, validateInPlace mode settings = (.ok [], settings) ∧
        validate mode settings = .ok (settings, [])) ∧
      ∀ result, load files strict = .ok result ↔ warnings = [] ∧ result = (settings, [])) ∧
    ∀ settings, (validateInPlace true settings).2 = settings := by
  refine ⟨?_, leavesAlone_validateInPlace⟩
  obtain ⟨settings, warnings, hlenient, hstrict⟩ := (agrees_loadIn files lenient).strict_eq_ok_iff
  obtain ⟨overridden, _, hmended⟩ := loadIn_lenient files lenient
  have hsettings : settings = overridden.mended :=
    congrArg Prod.fst (Except.ok.inj (hlenient.symm.trans hmended))
  have husable : settings.Usable := hsettings ▸ usable_mended overridden
  refine ⟨settings, warnings, ?_, husable, fun mode => ?_, fun result => ?_⟩
  · unfold load
    rw [hl, hlenient]
  · have hcheck := husable.validateInPlace_eq mode
    refine ⟨hcheck, ?_⟩
    unfold validate Check.result
    rw [hcheck]
    rfl
  · unfold load
    rw [hs, loadIn_congr true files hsame]
    exact hstrict result

/-- A file of the user that sets an interval of no length, below a system without a file. -/
def idleNodes : List (String × FileContent) :=
  [("/etc/jobdash/config.toml", .absent),
    ("jobdash/config.toml", .text "[refresh]\nnodes_interval = 0\n")]

/-- An environment that sets the other interval. -/
def earlyJobs : Environment := fun name =>
  if name = "JOBDASH_REFRESH_JOBS" then some "15" else none

/-- The same environment, which asks for strict mode. -/
def earlyJobsStrict : Environment := fun name =>
  if name = modeVariable then some "1" else earlyJobs name

/-- The interval of no length is mended with a warning, and an error in strict mode. -/
theorem modes_agree_idle_nodes :
    isStrict earlyJobs = false ∧ isStrict earlyJobsStrict = true ∧
      (∃ warnings, load idleNodes earlyJobs = .ok ({ standard with jobsInterval := 15 }, warnings) ∧
        warnings ≠ []) ∧
      ∀ result, load idleNodes earlyJobsStrict ≠ .ok result := by
  have hl : isStrict earlyJobs = false := by decide
  have hs : isStrict earlyJobsStrict = true := by decide
  have hsame : ∀ name, name ≠ modeVariable → earlyJobsStrict name = earlyJobs name :=
    fun name hname => if_neg hname
  have hload : load idleNodes earlyJobs = .ok ({ standard with jobsInterval := 15 },
      ["refresh.nodes_interval must be at least 1 second(s), got 0 - using default (60)"]) := by
    decide +kernel
  obtain ⟨⟨settings, warnings, hlenient, -, -, hstrict⟩, -⟩ := modes_agree idleNodes hl hs hsame
  obtain ⟨rfl, rfl⟩ := Prod.mk.inj (Except.ok.inj (hload.symm.trans hlenient))
  exact ⟨hl, hs, ⟨_, hload, List.cons_ne_nil _ _⟩, fun result hresult =>
    List.cons_ne_nil _ _ ((hstrict result).mp hresult).1⟩

end ClusterBoard.Settings
