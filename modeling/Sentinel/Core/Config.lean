/-
# Configuration

The configuration as it is decoded, its defaults, and its validation: every
check of `Config::validate` in order, each with the text it reports. The
normal forms of DNS names and rewrite answers are here too, since policies
are keyed on them.

Key theorems: `validate_ok_iff`, `targets_of_valid`, `policy_of_valid`.
-/
import Sentinel.Core.Packages
import Sentinel.Lib.Collections
import Sentinel.Lib.Text
import Mathlib.Data.List.Dedup

namespace Sentinel

open Collections (screen)

def configVersion : UInt32 := 1
def maxTargets : ℕ := 64
def maxResponseBytes : ℕ := 16 * 1048576
def supportedAdguardRequirement : String := ">=0.107.78,<0.108.0"
def defaultConditionProfileId : String := "current"

structure StateConfig where
  path : String := "/var/lib/adguard-sentinel/state.sqlite"
  retentionDays : UInt32 := 21

structure ObservationConfig where
  requestTimeoutMs : UInt64 := 5000
  notificationTimeoutMs : UInt64 := 15000
  maxResponseBytes : UInt64 := 4194304
  statsLookbackMs : UInt64 := 3600000
  targetConcurrency : ℕ := 2
  minimumCompleteTargets : ℕ := 1
  adguardVersionRequirement : String := supportedAdguardRequirement
  allowUntestedAdguardVersion : Bool := false

structure BehavioralBaselineConfig where
  targetIds : List String
  timeZone : String
  learningDays : UInt32
  minimumSameHourSamples : ℕ

structure ConditionProfile where
  authenticationRejectedSustainRuns : UInt32 := 1
  apiUnavailableSustainRuns : UInt32 := 4
  invalidResponseSustainRuns : UInt32 := 1
  unsupportedVersionSustainRuns : UInt32 := 1
  protectionDisabledSustainRuns : UInt32 := 2
  processingLatencySustainRuns : UInt32 := 4
  upstreamLatencySustainRuns : UInt32 := 4
  policyDriftSustainRuns : UInt32 := 4
  behavioralAnomalySustainRuns : UInt32 := 4
  recoveryRuns : UInt32 := 1
  authenticationRetrySeconds : UInt64 := 900
  processingLatencyMs : UInt64 := 500
  upstreamLatencyMs : UInt64 := 750

inductive NotificationProvider where
  | disabled
  | pushover
  deriving DecidableEq, Repr

inductive TargetAuth where
  | none
  | basic
  deriving DecidableEq, Repr

structure PushoverConfig where
  applicationTokenFile : String
  userKeyFile : String

structure NotificationConfig where
  provider : NotificationProvider := .disabled
  pushover : Option PushoverConfig := none

structure RequiredFilter where
  url : String
  enabled : Bool
  maximumAgeHours : Option UInt32

structure RequiredRewrite where
  domain : String
  answer : String
  enabled : Bool

structure RequiredRewrites where
  enabled : Option Bool := none
  required : List RequiredRewrite := []

structure PolicyConfig where
  protectionEnabled : Option Bool := none
  upstreamMode : Option String := none
  upstreamDns : Option (List String) := none
  filters : List RequiredFilter := []
  rewrites : RequiredRewrites := {}

structure TargetConfig where
  id : String
  name : String
  baseUrl : String
  auth : TargetAuth := .basic
  username : Option String := none
  passwordFile : Option String := none
  policy : Option String := none
  conditionProfile : String := defaultConditionProfileId
  allowInsecureLocalHttp : Bool := false

def defaultConditionProfiles : SortedMap ConditionProfile :=
  ⟨[(defaultConditionProfileId, {})], by decide⟩

structure Config where
  schemaVersion : UInt32
  state : StateConfig := {}
  observation : ObservationConfig := {}
  behavioralBaseline : Option BehavioralBaselineConfig := none
  conditionProfiles : SortedMap ConditionProfile := defaultConditionProfiles
  notifications : NotificationConfig := {}
  policies : SortedMap PolicyConfig := ⟨[], .nil⟩
  targets : List TargetConfig

/-! ### Normal forms -/

def normalizeDnsName (value : String) : String :=
  Text.toAsciiLowercase (Text.trimEnd (· = '.') (Text.trim value))

def normalizeRewriteAnswer (value : String) : String :=
  let trimmed := Text.trim value
  match IpAddr.parse trimmed with
  | some address => address.toText
  | none => normalizeDnsName trimmed

/-- The pair a required rewrite is known by. -/
def RequiredRewrite.key (rewrite : RequiredRewrite) : String × String :=
  (normalizeDnsName rewrite.domain, normalizeRewriteAnswer rewrite.answer)

/-- A stable slug: 1 to 64 lowercase letters, digits and hyphens. -/
def validId (value : String) : Bool :=
  value ≠ "" && value.utf8ByteSize ≤ 64 &&
    value.toList.all fun c => c.isLower || c.isDigit || c = '-'

/-! ### Validation

Each part returns the errors it reports, in the order the source pushes
them. -/

/-- One error text, if a check fails. -/
def errorIf (failed : Bool) (text : String) : List String := if failed then [text] else []

def validateAbsolutePath (label path : String) : List String :=
  errorIf (path.toList.head? ≠ some '/') s!"{label} must be an absolute path"

def validateRange (label : String) (value minimum maximum : ℕ) : List String :=
  errorIf (!(minimum ≤ value && value ≤ maximum)) s!"{label} must be between {minimum} and {maximum}"

def Config.usesUntestedAdguardVersion (config : Config) : Bool :=
  config.observation.adguardVersionRequirement ≠ supportedAdguardRequirement

def ConditionProfile.counts (profile : ConditionProfile) : List (String × UInt32) :=
  [("authentication_rejected_sustain_runs", profile.authenticationRejectedSustainRuns),
    ("api_unavailable_sustain_runs", profile.apiUnavailableSustainRuns),
    ("invalid_response_sustain_runs", profile.invalidResponseSustainRuns),
    ("unsupported_version_sustain_runs", profile.unsupportedVersionSustainRuns),
    ("protection_disabled_sustain_runs", profile.protectionDisabledSustainRuns),
    ("processing_latency_sustain_runs", profile.processingLatencySustainRuns),
    ("upstream_latency_sustain_runs", profile.upstreamLatencySustainRuns),
    ("policy_drift_sustain_runs", profile.policyDriftSustainRuns),
    ("behavioral_anomaly_sustain_runs", profile.behavioralAnomalySustainRuns),
    ("recovery_runs", profile.recoveryRuns)]

def ConditionProfile.durations (profile : ConditionProfile) : List (String × UInt64) :=
  [("authentication_retry_seconds", profile.authenticationRetrySeconds),
    ("processing_latency_ms", profile.processingLatencyMs),
    ("upstream_latency_ms", profile.upstreamLatencyMs)]

/-- The distinct items of a list, as a set iterates over them. -/
def distinct (items : List String) : List String :=
  (Collections.orderBy id items).dedup

@[simp] theorem mem_distinct {items : List String} {a : String} : a ∈ distinct items ↔ a ∈ items := by
  simp [distinct, List.mem_dedup]

theorem nodup_distinct (items : List String) : (distinct items).Nodup := List.nodup_dedup _

section Validate

variable (packages : Packages)

def validateProfiles (profiles : SortedMap ConditionProfile) : List String :=
  errorIf profiles.entries.isEmpty "condition_profiles must not be empty" ++
  profiles.entries.flatMap fun (id, profile) =>
    errorIf (!validId id) s!"condition profile id {packages.debug id} is not a stable slug" ++
    (profile.counts.flatMap fun (label, count) =>
      errorIf (!(1 ≤ count && count ≤ 1000))
        s!"condition profile {packages.debug id} {label} must be between 1 and 1000, got {count}") ++
    profile.durations.flatMap fun (label, duration) =>
      errorIf (duration == 0) s!"condition profile {packages.debug id} {label} must be positive"

def validateFilters (id : String) (filters : List RequiredFilter) : List String :=
  (screen (fun filter => (packages.parseUrl filter.url).isNone) RequiredFilter.url [] filters).flatMap
    fun (filter, rejected) =>
      errorIf rejected
        s!"policy {packages.debug id} has an invalid or duplicate filter URL {packages.debug filter.url}" ++
      errorIf (filter.enabled && filter.maximumAgeHours.all (· == 0))
        s!"policy {packages.debug id} enabled filter {filter.url} requires positive maximum_age_hours" ++
      errorIf (!filter.enabled && filter.maximumAgeHours.isSome)
        s!"policy {packages.debug id} disabled filter {filter.url} must omit maximum_age_hours"

def validateRewrites (id : String) (required : List RequiredRewrite) : List String :=
  (screen (fun rewrite => rewrite.key.1 = "" || rewrite.key.2 = "") RequiredRewrite.key [] required).flatMap
    fun (rewrite, rejected) =>
      errorIf rejected
        s!"policy {packages.debug id} has an invalid or duplicate rewrite {packages.debug rewrite.domain} -> {packages.debug rewrite.answer}"

def validatePolicy (id : String) (policy : PolicyConfig) : List String :=
  errorIf (!validId id) s!"policy id {packages.debug id} is not a stable slug" ++
  errorIf (policy.upstreamMode.any fun mode => Text.trim mode = "")
    s!"policy {packages.debug id} upstream_mode must not be empty" ++
  errorIf (policy.upstreamDns.any fun upstreamDns =>
      upstreamDns.isEmpty || (distinct upstreamDns).length ≠ upstreamDns.length ||
        upstreamDns.any fun value => Text.trim value = "")
    s!"policy {packages.debug id} upstream_dns must be unique and nonempty" ++
  validateFilters packages id policy.filters ++
  validateRewrites packages id policy.rewrites.required

def validatePolicies (policies : SortedMap PolicyConfig) : List String :=
  policies.entries.flatMap fun (id, policy) => validatePolicy packages id policy

def validateSecretFile (path label : String) : List String :=
  match packages.metadata path with
  | .ok (isFile, length) =>
    errorIf (!(isFile && 0 < length)) s!"{label} must reference a nonempty regular file"
  | .error error => [s!"cannot inspect {label}: {error}"]

def isLoopback (url : Url) : Bool :=
  match url.host with
  | some (.ipv4 octets) => octets.head? = some 127
  | some (.ipv6 groups) => groups = [0, 0, 0, 0, 0, 0, 0, 1]
  | some (.domain domain) => Text.toAsciiLowercase domain = "localhost"
  | none => false

def validateTargetUrl (target : TargetConfig) : List String :=
  match packages.parseUrl target.baseUrl with
  | none => [s!"target {packages.debug target.id} base_url is invalid"]
  | some url =>
    errorIf (url.username ≠ "" || url.password.isSome || url.query.isSome || url.fragment.isSome)
      s!"target {packages.debug target.id} base_url may not contain credentials, query, or fragment" ++
    errorIf (url.path ≠ "/" && url.path ≠ "") s!"target {packages.debug target.id} base_url path must be /" ++
    (if url.scheme = "https" then []
      else if url.scheme = "http" then
        errorIf (!(isLoopback url || target.allowInsecureLocalHttp))
          s!"target {packages.debug target.id} uses non-loopback HTTP without allow_insecure_local_http"
      else [s!"target {packages.debug target.id} base_url must use HTTP or HTTPS"])

def validateAuth (checkSecretFiles : Bool) (target : TargetConfig) : List String :=
  match target.auth with
  | .none =>
    errorIf (target.username.isSome || target.passwordFile.isSome)
      s!"target {packages.debug target.id} must omit username and password_file when auth is none"
  | .basic =>
    errorIf (target.username.all fun username => Text.trim username = "")
      s!"target {packages.debug target.id} username must not be empty when auth is basic" ++
    match target.passwordFile with
    | some passwordFile =>
      validateAbsolutePath "target.password_file" passwordFile ++
      if checkSecretFiles then
        validateSecretFile packages passwordFile s!"target {packages.debug target.id} password"
      else []
    | none => [s!"target {packages.debug target.id} password_file is required when auth is basic"]

def validateTarget (config : Config) (checkSecretFiles : Bool) (target : TargetConfig)
    (idRejected nameRejected : Bool) : List String :=
  errorIf idRejected s!"target id {packages.debug target.id} is invalid or duplicated" ++
  errorIf nameRejected s!"target name {packages.debug target.name} is empty or duplicated" ++
  validateAuth packages checkSecretFiles target ++
  (match target.policy with
    | some policy =>
      errorIf (config.policies.get? policy).isNone
        s!"target {packages.debug target.id} references unknown policy {packages.debug policy}"
    | none => []) ++
  errorIf (config.conditionProfiles.get? target.conditionProfile).isNone
    s!"target {packages.debug target.id} references unknown condition profile {packages.debug target.conditionProfile}" ++
  validateTargetUrl packages target

def validateBaselineTargets (config : Config) (baseline : BehavioralBaselineConfig) : List String :=
  let configuredIds := config.targets.map (·.id)
  errorIf baseline.targetIds.isEmpty "behavioral_baseline.target_ids must not be empty" ++
  ((screen (fun _ => false) id [] baseline.targetIds).flatMap fun (id, rejected) =>
    errorIf rejected s!"behavioral_baseline.target_ids repeats target {packages.debug id}") ++
  ((distinct baseline.targetIds).filter (!configuredIds.contains ·)).map (fun id =>
    s!"behavioral_baseline.target_ids references unknown target {packages.debug id}") ++
  errorIf (1 < (distinct ((config.targets.filter fun target => baseline.targetIds.contains target.id).map
      (·.conditionProfile))).length)
    "behavioral_baseline targets must share one condition profile"

def validateTargets (config : Config) (checkSecretFiles : Bool) : List String :=
  let ids := screen (fun target => !validId target.id) TargetConfig.id [] config.targets
  let names := screen (fun target => Text.trim target.name = "") TargetConfig.name [] config.targets
  ((ids.zip names).flatMap fun ((target, idRejected), (_, nameRejected)) =>
    validateTarget packages config checkSecretFiles target idRejected nameRejected) ++
  match config.behavioralBaseline with
  | some baseline => validateBaselineTargets packages config baseline
  | none => []

def validateNotifications (notifications : NotificationConfig) (checkSecretFiles : Bool) : List String :=
  match notifications.provider, notifications.pushover with
  | .disabled, none => []
  | .disabled, some _ => ["notifications.pushover must be absent when provider is disabled"]
  | .pushover, some pushover =>
    validateAbsolutePath "notifications.pushover.application_token_file" pushover.applicationTokenFile ++
    validateAbsolutePath "notifications.pushover.user_key_file" pushover.userKeyFile ++
    if checkSecretFiles then
      validateSecretFile packages pushover.applicationTokenFile "Pushover application token" ++
      validateSecretFile packages pushover.userKeyFile "Pushover user key"
    else []
  | .pushover, none => ["notifications.pushover is required when provider is pushover"]

def validateVersionRequirement (config : Config) : List String :=
  if !packages.parsesVersionReq config.observation.adguardVersionRequirement then
    ["observation.adguard_version_requirement is not a semver requirement"]
  else
    errorIf (config.usesUntestedAdguardVersion && !config.observation.allowUntestedAdguardVersion)
      s!"observation.adguard_version_requirement is {packages.debug config.observation.adguardVersionRequirement}, but only {packages.debug supportedAdguardRequirement} has recorded evidence; set observation.allow_untested_adguard_version = true to accept an untested range"

/-- The errors of `Config::validate`, in order. -/
def Config.validationErrors (config : Config) (checkSecretFiles : Bool) : List String :=
  errorIf (config.schemaVersion != configVersion)
    s!"schema_version must be {configVersion}, got {config.schemaVersion}" ++
  validateAbsolutePath "state.path" config.state.path ++
  errorIf (config.state.retentionDays == 0) "state.retention_days must be positive" ++
  errorIf (config.behavioralBaseline.any fun baseline => config.state.retentionDays < baseline.learningDays)
    "state.retention_days must be at least behavioral_baseline.learning_days" ++
  validateRange "observation.request_timeout_ms" config.observation.requestTimeoutMs.toNat 1 60000 ++
  validateRange "observation.notification_timeout_ms" config.observation.notificationTimeoutMs.toNat 1 60000 ++
  validateRange "observation.max_response_bytes" config.observation.maxResponseBytes.toNat 1024 maxResponseBytes ++
  errorIf (config.observation.statsLookbackMs == 0 || config.observation.statsLookbackMs % 3600000 != 0)
    "observation.stats_lookback_ms must be a positive whole-hour multiple" ++
  errorIf (config.targets.isEmpty || maxTargets < config.targets.length)
    s!"targets must contain between 1 and {maxTargets} entries" ++
  errorIf (config.observation.targetConcurrency == 0 || maxTargets < config.observation.targetConcurrency)
    s!"observation.target_concurrency must be between 1 and {maxTargets}" ++
  errorIf (config.observation.minimumCompleteTargets == 0 ||
      config.targets.length < config.observation.minimumCompleteTargets)
    "observation.minimum_complete_targets must be between 1 and target count" ++
  validateVersionRequirement packages config ++
  (match config.behavioralBaseline with
    | some baseline =>
      errorIf (Text.trim baseline.timeZone = "") "behavioral_baseline.time_zone must not be empty" ++
      errorIf (baseline.learningDays == 0 || baseline.minimumSameHourSamples == 0)
        "behavioral baseline learning and sample counts must be positive"
    | none => []) ++
  validateProfiles packages config.conditionProfiles ++
  validatePolicies packages config.policies ++
  validateTargets packages config checkSecretFiles ++
  validateNotifications packages config.notifications checkSecretFiles

def Config.validate (config : Config) (checkSecretFiles : Bool) : Except String Unit :=
  let errors := config.validationErrors packages checkSecretFiles
  if errors.isEmpty then .ok ()
  else .error ("configuration validation failed:\n- " ++ "\n- ".intercalate errors)

/-! ### What validation establishes -/

variable {packages}

@[simp] theorem errorIf_eq_nil_iff {failed : Bool} {text : String} : errorIf failed text = [] ↔ failed = false := by
  cases failed <;> simp [errorIf]

theorem validate_ok_iff {config : Config} {checkSecretFiles : Bool} :
    config.validate packages checkSecretFiles = .ok () ↔
      config.validationErrors packages checkSecretFiles = [] := by
  unfold Config.validate
  cases config.validationErrors packages checkSecretFiles <;> simp

/-- A valid configuration retains runs. -/
theorem retentionDays_of_valid {config : Config} {checkSecretFiles : Bool}
    (h : config.validate packages checkSecretFiles = .ok ()) : config.state.retentionDays ≠ 0 := by
  rw [validate_ok_iff, Config.validationErrors] at h
  simp only [List.append_eq_nil_iff, errorIf_eq_nil_iff, beq_eq_false_iff_ne] at h
  obtain ⟨⟨⟨⟨⟨⟨⟨⟨⟨⟨⟨⟨⟨⟨⟨-, hpositive⟩, -⟩, -⟩, -⟩, -⟩, -⟩, -⟩, -⟩, -⟩, -⟩, -⟩, -⟩, -⟩, -⟩, -⟩ := h
  exact hpositive

/-- A valid configuration retains as many days as it learns, at least. -/
theorem retention_of_valid {config : Config} {checkSecretFiles : Bool}
    (h : config.validate packages checkSecretFiles = .ok ()) {baseline : BehavioralBaselineConfig}
    (hbaseline : config.behavioralBaseline = some baseline) :
    baseline.learningDays.toNat ≤ config.state.retentionDays.toNat := by
  rw [validate_ok_iff, Config.validationErrors] at h
  simp only [List.append_eq_nil_iff, errorIf_eq_nil_iff, hbaseline, Option.any_some, decide_eq_false_iff_not,
    UInt32.not_lt] at h
  obtain ⟨⟨⟨⟨⟨⟨⟨⟨⟨⟨⟨⟨⟨⟨-, hretained⟩, -⟩, -⟩, -⟩, -⟩, -⟩, -⟩, -⟩, -⟩, -⟩, -⟩, -⟩, -⟩, -⟩ := h
  exact UInt32.le_iff_toNat_le.mp hretained

/-- The version requirement of a valid configuration parses. -/
theorem versionRequirement_of_valid {config : Config} {checkSecretFiles : Bool}
    (h : config.validate packages checkSecretFiles = .ok ()) :
    packages.parsesVersionReq config.observation.adguardVersionRequirement = true := by
  rw [validate_ok_iff, Config.validationErrors] at h
  simp only [List.append_eq_nil_iff] at h
  obtain ⟨⟨⟨⟨⟨⟨-, hversion⟩, -⟩, -⟩, -⟩, -⟩, -⟩ := h
  unfold validateVersionRequirement at hversion
  by_cases hparses : packages.parsesVersionReq config.observation.adguardVersionRequirement = true
  · exact hparses
  · rw [Bool.eq_false_iff.mpr hparses] at hversion
    cases hversion

/-- Every target of a valid configuration passes its checks, under an id and a
name that were not rejected. -/
theorem validateTarget_of_valid {config : Config} {checkSecretFiles : Bool}
    (h : config.validate packages checkSecretFiles = .ok ()) :
    ∀ entry ∈ screen (fun target => !validId target.id) TargetConfig.id [] config.targets,
      ∃ nameRejected, validateTarget packages config checkSecretFiles entry.1 entry.2 nameRejected = [] := by
  rw [validate_ok_iff, Config.validationErrors] at h
  simp only [List.append_eq_nil_iff, validateTargets, List.flatMap_eq_nil_iff] at h
  obtain ⟨⟨-, hzip, -⟩, -⟩ := h
  set ids := screen (fun target => !validId target.id) TargetConfig.id [] config.targets with hids
  set names := screen (fun target => Text.trim target.name = "") TargetConfig.name [] config.targets with hnames
  have hlength : ids.length = names.length := by
    have h1 : ids.map Prod.fst = config.targets := Collections.screen_map_fst _ _ _ _
    have h2 : names.map Prod.fst = config.targets := Collections.screen_map_fst _ _ _ _
    rw [← List.length_map Prod.fst, h1, ← h2, List.length_map]
  intro entry hentry
  rw [← List.map_fst_zip hlength.le] at hentry
  obtain ⟨⟨entry, name⟩, hmem, rfl⟩ := List.mem_map.mp hentry
  exact ⟨name.2, hzip _ hmem⟩

/-- The targets of a valid configuration have distinct slugs. -/
theorem targets_of_valid {config : Config} {checkSecretFiles : Bool}
    (h : config.validate packages checkSecretFiles = .ok ()) :
    (∀ target ∈ config.targets, validId target.id = true) ∧ (config.targets.map (·.id)).Nodup := by
  have hall : ∀ e ∈ screen (fun target => !validId target.id) TargetConfig.id [] config.targets, e.2 = false := by
    intro e he
    obtain ⟨_, hempty⟩ := validateTarget_of_valid h e he
    simp only [validateTarget, List.append_eq_nil_iff, errorIf_eq_nil_iff] at hempty
    exact hempty.1.1.1.1.1
  obtain ⟨hgood, hnodup⟩ := Collections.nodup_of_screen hall
  exact ⟨fun target ht => by simpa using hgood target ht, hnodup⟩

/-- What a target of a valid configuration refers to is there: its URL parses,
its profile is declared, and it says how to authenticate. -/
theorem target_of_valid {config : Config} {checkSecretFiles : Bool}
    (h : config.validate packages checkSecretFiles = .ok ()) {target : TargetConfig} (ht : target ∈ config.targets) :
    (∃ url, packages.parseUrl target.baseUrl = some url) ∧
      (∃ profile, config.conditionProfiles.get? target.conditionProfile = some profile) ∧
      (target.auth = .basic → ∃ username, target.username = some username) := by
  have hscreened : target ∈ (screen (fun target => !validId target.id) TargetConfig.id [] config.targets).map Prod.fst := by
    rw [Collections.screen_map_fst]
    exact ht
  obtain ⟨entry, hentry, rfl⟩ := List.mem_map.mp hscreened
  obtain ⟨_, hempty⟩ := validateTarget_of_valid h entry hentry
  simp only [validateTarget, List.append_eq_nil_iff, errorIf_eq_nil_iff] at hempty
  obtain ⟨⟨⟨⟨-, hauth⟩, -⟩, hprofile⟩, hurl⟩ := hempty
  refine ⟨?_, ?_, fun hbasic => ?_⟩
  · unfold validateTargetUrl at hurl
    cases hparsed : packages.parseUrl entry.1.baseUrl with
    | none =>
      rw [hparsed] at hurl
      cases hurl
    | some url => exact ⟨url, rfl⟩
  · exact Option.isSome_iff_exists.mp (Option.isNone_eq_false_iff.mp hprofile)
  · unfold validateAuth at hauth
    rw [hbasic] at hauth
    obtain ⟨husername, -⟩ := List.append_eq_nil_iff.mp hauth
    cases hnamed : entry.1.username with
    | none =>
      rw [hnamed] at husername
      cases husername
    | some username => exact ⟨username, rfl⟩

/-- The declared group of a valid configuration has members, all configured. -/
theorem baseline_of_valid {config : Config} {checkSecretFiles : Bool}
    (h : config.validate packages checkSecretFiles = .ok ()) {baseline : BehavioralBaselineConfig}
    (hbaseline : config.behavioralBaseline = some baseline) :
    baseline.targetIds ≠ [] ∧ ∀ id ∈ baseline.targetIds, ∃ target ∈ config.targets, target.id = id := by
  rw [validate_ok_iff, Config.validationErrors] at h
  simp only [List.append_eq_nil_iff, validateTargets, hbaseline] at h
  obtain ⟨⟨-, -, hgroup⟩, -⟩ := h
  simp only [validateBaselineTargets, List.append_eq_nil_iff, errorIf_eq_nil_iff] at hgroup
  obtain ⟨⟨⟨hempty, -⟩, hunknown⟩, -⟩ := hgroup
  refine ⟨List.isEmpty_eq_false_iff.mp hempty, fun id hid => ?_⟩
  rw [List.map_eq_nil_iff, List.filter_eq_nil_iff] at hunknown
  have hknown := hunknown id (mem_distinct.mpr hid)
  rw [Bool.not_eq_true, Bool.not_eq_false'] at hknown
  obtain ⟨target, ht, hsame⟩ := List.mem_map.mp (List.contains_iff_mem.mp hknown)
  exact ⟨target, ht, hsame⟩

/-- A policy of a valid configuration requires distinct filters and distinct
rewrites. -/
theorem policy_of_valid {config : Config} {checkSecretFiles : Bool}
    (h : config.validate packages checkSecretFiles = .ok ()) {id : String} {policy : PolicyConfig}
    (hpolicy : config.policies.get? id = some policy) :
    (policy.filters.map (·.url)).Nodup ∧ (policy.rewrites.required.map RequiredRewrite.key).Nodup := by
  rw [validate_ok_iff, Config.validationErrors] at h
  simp only [List.append_eq_nil_iff, validatePolicies, List.flatMap_eq_nil_iff] at h
  obtain ⟨⟨⟨-, hall⟩, -⟩, -⟩ := h
  have hempty := hall _ (SortedMap.mem_of_get? hpolicy)
  simp only [validatePolicy, validateFilters, validateRewrites, List.append_eq_nil_iff,
    List.flatMap_eq_nil_iff, errorIf_eq_nil_iff] at hempty
  obtain ⟨⟨-, hfilters⟩, hrewrites⟩ := hempty
  exact ⟨(Collections.nodup_of_screen fun e he => (hfilters e he).1.1).2,
    (Collections.nodup_of_screen fun e he => hrewrites e he).2⟩

/-- A slug has no colon. -/
theorem not_mem_of_validId {id : String} (h : validId id = true) : ':' ∉ id.toList := by
  unfold validId at h
  simp only [Bool.and_eq_true, List.all_eq_true] at h
  exact fun hm => absurd (h.2 _ hm) (by decide)

end Validate

end Sentinel
