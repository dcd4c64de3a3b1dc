/-
# Well-formed configurations

What `Config::validate` is for: a configuration that is well formed, stated
for each of its parts without the order of the checks, the sets they collect
or the texts they report. Validation accepts just these.

Key theorems: `validateTarget_eq_nil_iff`, `validatePolicy_eq_nil_iff`, `validate_iff_wellFormed`.
-/
import Sentinel.Core.Config

namespace Sentinel

open Collections

/-! ### What is well formed -/

/-- A path from the root. -/
def IsAbsolute (path : String) : Prop := path.toList.head? = some '/'

/-- The file is regular and not empty. -/
def Packages.HasSecret (packages : Packages) (path : String) : Prop :=
  ∃ length, packages.metadata path = .ok (true, length) ∧ 0 < length

/-- A URL that names a server and nothing else, to be reached over TLS, on this
machine, or where plain HTTP is allowed. -/
structure Url.IsOrigin (url : Url) (allowInsecureLocalHttp : Bool) : Prop where
  username : url.username = ""
  password : url.password = none
  query : url.query = none
  fragment : url.fragment = none
  path : url.path = "/" ∨ url.path = ""
  scheme : url.scheme = "https" ∨ url.scheme = "http" ∧ (isLoopback url ∨ allowInsecureLocalHttp)

structure ConditionProfile.WellFormed (profile : ConditionProfile) : Prop where
  counts : ∀ count ∈ profile.counts, 1 ≤ count.2 ∧ count.2 ≤ 1000
  durations : ∀ duration ∈ profile.durations, duration.2 ≠ 0

structure RequiredFilter.WellFormed (packages : Packages) (filter : RequiredFilter) : Prop where
  url : (packages.parseUrl filter.url).isSome
  aged : filter.enabled → ∃ hours, filter.maximumAgeHours = some hours ∧ hours ≠ 0
  ageless : filter.enabled = false → filter.maximumAgeHours = none

structure PolicyConfig.WellFormed (packages : Packages) (policy : PolicyConfig) : Prop where
  mode : ∀ mode, policy.upstreamMode = some mode → Text.trim mode ≠ ""
  upstreams : ∀ upstreams, policy.upstreamDns = some upstreams →
    upstreams ≠ [] ∧ upstreams.Nodup ∧ ∀ upstream ∈ upstreams, Text.trim upstream ≠ ""
  filters : ∀ filter ∈ policy.filters, filter.WellFormed packages
  distinctFilters : (policy.filters.map (·.url)).Nodup
  rewrites : ∀ rewrite ∈ policy.rewrites.required, rewrite.key.1 ≠ "" ∧ rewrite.key.2 ≠ ""
  distinctRewrites : (policy.rewrites.required.map RequiredRewrite.key).Nodup

/-- The credentials of a target. -/
inductive TargetConfig.Authenticates (packages : Packages) (checkSecretFiles : Bool) (target : TargetConfig) : Prop
  | anonymous (auth : target.auth = .none) (username : target.username = none) (file : target.passwordFile = none)
  | basic {username file : String} (auth : target.auth = .basic) (named : target.username = some username)
      (nonempty : Text.trim username ≠ "") (filed : target.passwordFile = some file) (absolute : IsAbsolute file)
      (secret : checkSecretFiles → packages.HasSecret file)

structure TargetConfig.WellFormed (packages : Packages) (config : Config) (checkSecretFiles : Bool)
    (target : TargetConfig) : Prop where
  credentials : target.Authenticates packages checkSecretFiles
  policy : ∀ policy, target.policy = some policy → (config.policies.get? policy).isSome
  profile : (config.conditionProfiles.get? target.conditionProfile).isSome
  origin : ∃ url, packages.parseUrl target.baseUrl = some url ∧ url.IsOrigin target.allowInsecureLocalHttp

/-- The declared group. -/
structure BehavioralBaselineConfig.WellFormed (config : Config) (baseline : BehavioralBaselineConfig) : Prop where
  retained : baseline.learningDays ≤ config.state.retentionDays
  zoned : Text.trim baseline.timeZone ≠ ""
  learns : baseline.learningDays ≠ 0 ∧ baseline.minimumSameHourSamples ≠ 0
  nonempty : baseline.targetIds ≠ []
  distinct : baseline.targetIds.Nodup
  configured : ∀ id ∈ baseline.targetIds, id ∈ config.targets.map (·.id)
  profile : ∀ member ∈ config.targets, ∀ other ∈ config.targets, member.id ∈ baseline.targetIds →
    other.id ∈ baseline.targetIds → member.conditionProfile = other.conditionProfile

inductive NotificationConfig.WellFormed (packages : Packages) (checkSecretFiles : Bool) (notifications : NotificationConfig) :
    Prop
  | disabled (provider : notifications.provider = .disabled) (absent : notifications.pushover = none)
  | pushover {pushover : PushoverConfig} (provider : notifications.provider = .pushover)
      (present : notifications.pushover = some pushover) (token : IsAbsolute pushover.applicationTokenFile)
      (user : IsAbsolute pushover.userKeyFile)
      (secrets : checkSecretFiles →
        packages.HasSecret pushover.applicationTokenFile ∧ packages.HasSecret pushover.userKeyFile)

structure ObservationConfig.WellFormed (packages : Packages) (config : Config) (observation : ObservationConfig) : Prop where
  requestTimeout : 1 ≤ observation.requestTimeoutMs.toNat ∧ observation.requestTimeoutMs.toNat ≤ 60000
  notificationTimeout : 1 ≤ observation.notificationTimeoutMs.toNat ∧ observation.notificationTimeoutMs.toNat ≤ 60000
  responseBytes : 1024 ≤ observation.maxResponseBytes.toNat ∧ observation.maxResponseBytes.toNat ≤ Sentinel.maxResponseBytes
  lookback : observation.statsLookbackMs ≠ 0 ∧ observation.statsLookbackMs % 3600000 = 0
  concurrency : 1 ≤ observation.targetConcurrency ∧ observation.targetConcurrency ≤ maxTargets
  minimum : 1 ≤ observation.minimumCompleteTargets ∧ observation.minimumCompleteTargets ≤ config.targets.length
  requirement : packages.parsesVersionReq observation.adguardVersionRequirement
  tested : observation.adguardVersionRequirement = supportedAdguardRequirement ∨ observation.allowUntestedAdguardVersion

structure Config.WellFormed (packages : Packages) (checkSecretFiles : Bool) (config : Config) : Prop where
  version : config.schemaVersion = configVersion
  statePath : IsAbsolute config.state.path
  retains : config.state.retentionDays ≠ 0
  observation : config.observation.WellFormed packages config
  baseline : ∀ baseline, config.behavioralBaseline = some baseline → baseline.WellFormed config
  hasProfiles : config.conditionProfiles.entries ≠ []
  profiles : ∀ entry ∈ config.conditionProfiles.entries, validId entry.1 ∧ entry.2.WellFormed
  policies : ∀ entry ∈ config.policies.entries, validId entry.1 ∧ entry.2.WellFormed packages
  hasTargets : config.targets ≠ [] ∧ config.targets.length ≤ maxTargets
  targets : ∀ target ∈ config.targets, target.WellFormed packages config checkSecretFiles
  slugs : ∀ target ∈ config.targets, validId target.id
  distinctIds : (config.targets.map (·.id)).Nodup
  names : ∀ target ∈ config.targets, Text.trim target.name ≠ ""
  distinctNames : (config.targets.map (·.name)).Nodup
  notifications : config.notifications.WellFormed packages checkSecretFiles

/-! ### Each check accepts just what is well formed -/

section Checks

variable {packages : Packages}

theorem validateAbsolutePath_eq_nil_iff {label path : String} : validateAbsolutePath label path = [] ↔ IsAbsolute path := by
  simp [validateAbsolutePath, IsAbsolute]

theorem validateRange_eq_nil_iff {label : String} {value minimum maximum : ℕ} :
    validateRange label value minimum maximum = [] ↔ minimum ≤ value ∧ value ≤ maximum := by
  simp [validateRange]

theorem validateSecretFile_eq_nil_iff {path label : String} :
    validateSecretFile packages path label = [] ↔ packages.HasSecret path := by
  unfold validateSecretFile Packages.HasSecret
  cases packages.metadata path with
  | error error => simp
  | ok metadata =>
    obtain ⟨isFile, length⟩ := metadata
    cases isFile <;> simp

theorem validateTargetUrl_eq_nil_iff {target : TargetConfig} :
    validateTargetUrl packages target = [] ↔
      ∃ url, packages.parseUrl target.baseUrl = some url ∧ url.IsOrigin target.allowInsecureLocalHttp := by
  unfold validateTargetUrl
  cases packages.parseUrl target.baseUrl with
  | none => simp
  | some url =>
    simp only [List.append_eq_nil_iff, errorIf_eq_nil_iff, Option.some.injEq, exists_eq_left']
    constructor
    · rintro ⟨⟨hbare, hpath⟩, hscheme⟩
      simp only [Bool.or_eq_false_iff, decide_eq_false_iff_not, not_not, Option.isSome_eq_false_iff,
        Option.isNone_iff_eq_none] at hbare
      obtain ⟨⟨⟨husername, hpassword⟩, hquery⟩, hfragment⟩ := hbare
      refine ⟨husername, hpassword, hquery, hfragment, ?_, ?_⟩
      · simpa [imp_iff_or_not, or_comm] using hpath
      · by_cases hhttps : url.scheme = "https"
        · exact .inl hhttps
        · rw [if_neg hhttps] at hscheme
          by_cases hhttp : url.scheme = "http"
          · rw [if_pos hhttp] at hscheme
            simp only [errorIf_eq_nil_iff, Bool.not_eq_false', Bool.or_eq_true] at hscheme
            exact .inr ⟨hhttp, hscheme⟩
          · rw [if_neg hhttp] at hscheme
            cases hscheme
    · intro h
      refine ⟨⟨by simp [h.username, h.password, h.query, h.fragment], ?_⟩, ?_⟩
      · rcases h.path with hpath | hpath <;> simp [hpath]
      · rcases h.scheme with hscheme | ⟨hscheme, hallowed⟩
        · rw [if_pos hscheme]
        · rw [if_neg (by simp [hscheme]), if_pos hscheme]
          rcases hallowed with hallowed | hallowed <;> simp [hallowed]

theorem validateAuth_eq_nil_iff {checkSecretFiles : Bool} {target : TargetConfig} :
    validateAuth packages checkSecretFiles target = [] ↔ target.Authenticates packages checkSecretFiles := by
  unfold validateAuth
  cases hauth : target.auth with
  | none =>
    simp only [errorIf_eq_nil_iff, Bool.or_eq_false_iff, Option.isSome_eq_false_iff, Option.isNone_iff_eq_none]
    constructor
    · exact fun h => .anonymous hauth h.1 h.2
    · intro h
      cases h with
      | anonymous _ username file => exact ⟨username, file⟩
      | basic auth => exact absurd (hauth.symm.trans auth) (by decide)
  | basic =>
    simp only [List.append_eq_nil_iff, errorIf_eq_nil_iff, Option.all_eq_false, decide_eq_false_iff_not]
    constructor
    · rintro ⟨⟨username, hnamed, hnonempty⟩, hfile⟩
      cases hfiled : target.passwordFile with
      | none =>
        rw [hfiled] at hfile
        cases hfile
      | some file =>
        rw [hfiled] at hfile
        simp only [List.append_eq_nil_iff, validateAbsolutePath_eq_nil_iff] at hfile
        refine .basic hauth hnamed hnonempty hfiled hfile.1 fun hcheck => ?_
        have hsecret := hfile.2
        rw [if_pos hcheck] at hsecret
        exact validateSecretFile_eq_nil_iff.mp hsecret
    · intro h
      cases h with
      | anonymous auth => exact absurd (hauth.symm.trans auth) (by decide)
      | @basic username file _ named nonempty filed absolute secret =>
        refine ⟨⟨username, named, nonempty⟩, ?_⟩
        rw [filed]
        simp only [List.append_eq_nil_iff, validateAbsolutePath_eq_nil_iff]
        refine ⟨absolute, ?_⟩
        cases checkSecretFiles with
        | false => rfl
        | true => exact validateSecretFile_eq_nil_iff.mpr (secret rfl)

theorem validateTarget_eq_nil_iff {config : Config} {checkSecretFiles idRejected nameRejected : Bool} {target : TargetConfig} :
    validateTarget packages config checkSecretFiles target idRejected nameRejected = [] ↔
      idRejected = false ∧ nameRejected = false ∧ target.WellFormed packages config checkSecretFiles := by
  simp only [validateTarget, List.append_eq_nil_iff, errorIf_eq_nil_iff, validateAuth_eq_nil_iff,
    validateTargetUrl_eq_nil_iff, Option.isNone_eq_false_iff]
  constructor
  · rintro ⟨⟨⟨⟨⟨hid, hname⟩, hauth⟩, hknown⟩, hprofile⟩, hurl⟩
    refine ⟨hid, hname, hauth, fun policy hsome => ?_, hprofile, hurl⟩
    rw [hsome] at hknown
    exact Option.isNone_eq_false_iff.mp (errorIf_eq_nil_iff.mp hknown)
  · rintro ⟨hid, hname, h⟩
    refine ⟨⟨⟨⟨⟨hid, hname⟩, h.credentials⟩, ?_⟩, h.profile⟩, h.origin⟩
    cases hsome : target.policy with
    | none => rfl
    | some policy => exact errorIf_eq_nil_iff.mpr (Option.isNone_eq_false_iff.mpr (h.policy policy hsome))

theorem validateFilters_eq_nil_iff {id : String} {filters : List RequiredFilter} :
    validateFilters packages id filters = [] ↔
      (∀ filter ∈ filters, filter.WellFormed packages) ∧ (filters.map (·.url)).Nodup := by
  have hfilter : ∀ filter : RequiredFilter, (filter.enabled && filter.maximumAgeHours.all (· == 0)) = false →
      (!filter.enabled && filter.maximumAgeHours.isSome) = false → (packages.parseUrl filter.url).isNone = false →
      filter.WellFormed packages := by
    intro filter haged hageless hurl
    refine ⟨Option.isNone_eq_false_iff.mp hurl, fun henabled => ?_, fun hdisabled => ?_⟩
    · rw [henabled, Bool.true_and, Option.all_eq_false] at haged
      obtain ⟨hours, hhours, hne⟩ := haged
      exact ⟨hours, hhours, by simpa using hne⟩
    · simpa [hdisabled] using hageless
  simp only [validateFilters, List.flatMap_eq_nil_iff, List.append_eq_nil_iff, errorIf_eq_nil_iff]
  constructor
  · intro h
    obtain ⟨hurls, hdistinct⟩ := forall_screen_iff.mp fun e he => (h e he).1.1
    have hrest : ∀ filter ∈ filters, (filter.enabled && filter.maximumAgeHours.all (· == 0)) = false ∧
        (!filter.enabled && filter.maximumAgeHours.isSome) = false :=
      forall_screen_fst_iff.mp fun e he => ⟨(h e he).1.2, (h e he).2⟩
    exact ⟨fun filter hmem => hfilter filter (hrest filter hmem).1 (hrest filter hmem).2 (hurls filter hmem), hdistinct⟩
  · rintro ⟨hall, hdistinct⟩ e he
    have hscreened := forall_screen_iff.mpr ⟨fun filter hmem => Option.isNone_eq_false_iff.mpr (hall filter hmem).url,
      hdistinct⟩ e he
    have hwell := forall_screen_fst_iff.mpr hall e he
    refine ⟨⟨hscreened, ?_⟩, ?_⟩
    · cases henabled : e.1.enabled with
      | false => rfl
      | true =>
        obtain ⟨hours, hhours, hne⟩ := hwell.aged henabled
        simp [hhours, hne]
    · cases henabled : e.1.enabled with
      | false => simp [hwell.ageless henabled]
      | true => rfl

theorem validateRewrites_eq_nil_iff {id : String} {required : List RequiredRewrite} :
    validateRewrites packages id required = [] ↔
      (∀ rewrite ∈ required, rewrite.key.1 ≠ "" ∧ rewrite.key.2 ≠ "") ∧ (required.map RequiredRewrite.key).Nodup := by
  simp only [validateRewrites, List.flatMap_eq_nil_iff, errorIf_eq_nil_iff]
  rw [forall_screen_iff]
  simp only [Bool.or_eq_false_iff, decide_eq_false_iff_not, ne_eq]

/-- A set is as long as its list just when the list has no duplicates. -/
theorem length_distinct_eq_iff {items : List String} : (distinct items).length = items.length ↔ items.Nodup := by
  rw [← (perm_orderBy id items).nodup_iff, ← List.dedup_eq_self, distinct, ← (perm_orderBy id items).length_eq]
  constructor
  · exact (List.dedup_sublist _).eq_of_length
  · exact congrArg List.length

theorem validatePolicy_eq_nil_iff {id : String} {policy : PolicyConfig} :
    validatePolicy packages id policy = [] ↔ validId id ∧ policy.WellFormed packages := by
  have hmode : (policy.upstreamMode.any fun mode => decide (Text.trim mode = "")) = false ↔
      ∀ mode, policy.upstreamMode = some mode → Text.trim mode ≠ "" := by
    cases policy.upstreamMode <;> simp
  have hupstreams : (policy.upstreamDns.any fun upstreamDns =>
        upstreamDns.isEmpty || decide ((distinct upstreamDns).length ≠ upstreamDns.length) ||
          upstreamDns.any fun value => decide (Text.trim value = "")) = false ↔
      ∀ upstreams, policy.upstreamDns = some upstreams →
        upstreams ≠ [] ∧ upstreams.Nodup ∧ ∀ upstream ∈ upstreams, Text.trim upstream ≠ "" := by
    cases policy.upstreamDns with
    | none => simp
    | some upstreams =>
      simp only [Option.any_some, Bool.or_eq_false_iff, List.isEmpty_eq_false_iff, decide_eq_false_iff_not, not_not,
        length_distinct_eq_iff, List.any_eq_false, decide_eq_true_eq, Option.some.injEq, forall_eq', and_assoc, ne_eq]
  simp only [validatePolicy, List.append_eq_nil_iff, errorIf_eq_nil_iff, Bool.not_eq_false', hmode, hupstreams,
    validateFilters_eq_nil_iff, validateRewrites_eq_nil_iff]
  constructor
  · rintro ⟨⟨⟨⟨hid, hmode⟩, hupstreams⟩, hfilters, hdistinct⟩, hrewrites, hkeys⟩
    exact ⟨hid, hmode, hupstreams, hfilters, hdistinct, hrewrites, hkeys⟩
  · rintro ⟨hid, h⟩
    exact ⟨⟨⟨⟨hid, h.mode⟩, h.upstreams⟩, h.filters, h.distinctFilters⟩, h.rewrites, h.distinctRewrites⟩

theorem validateProfiles_eq_nil_iff {profiles : SortedMap ConditionProfile} :
    validateProfiles packages profiles = [] ↔
      profiles.entries ≠ [] ∧ ∀ entry ∈ profiles.entries, validId entry.1 ∧ entry.2.WellFormed := by
  simp only [validateProfiles, List.append_eq_nil_iff, errorIf_eq_nil_iff, List.isEmpty_eq_false_iff,
    List.flatMap_eq_nil_iff, Bool.not_eq_false', Bool.and_eq_true, decide_eq_true_eq, beq_eq_false_iff_ne]
  refine and_congr_right fun _ => forall_congr' fun entry => imp_congr_right fun _ => ?_
  constructor
  · rintro ⟨⟨hid, hcounts⟩, hdurations⟩
    exact ⟨hid, hcounts, hdurations⟩
  · rintro ⟨hid, h⟩
    exact ⟨⟨hid, h.counts⟩, h.durations⟩

/-- A set has at most one item just when the items of its list are the same. -/
theorem length_distinct_le_one_iff {items : List String} :
    (1 < (distinct items).length) = False ↔ ∀ a ∈ items, ∀ b ∈ items, a = b := by
  rw [eq_iff_iff, iff_false, not_lt]
  constructor
  · intro h a ha b hb
    obtain ⟨c, hc⟩ | hnil : (∃ c, distinct items = [c]) ∨ distinct items = [] := by
      cases hitems : distinct items with
      | nil => exact .inr rfl
      | cons c rest =>
        rw [hitems, List.length_cons] at h
        rw [List.eq_nil_of_length_eq_zero (by omega : rest.length = 0)]
        exact .inl ⟨c, rfl⟩
    · have ha' := mem_distinct.mpr ha
      have hb' := mem_distinct.mpr hb
      rw [hc, List.mem_singleton] at ha' hb'
      rw [ha', hb']
    · have ha' := mem_distinct.mpr ha
      rw [hnil] at ha'
      cases ha'
  · intro h
    have hnodup := nodup_distinct items
    cases hitems : distinct items with
    | nil => exact Nat.zero_le 1
    | cons c rest =>
      cases rest with
      | nil => exact le_refl 1
      | cons d rest =>
        rw [hitems] at hnodup
        have hc : c ∈ items := mem_distinct.mp (by rw [hitems]; exact List.mem_cons_self)
        have hd : d ∈ items := mem_distinct.mp (by rw [hitems]; simp)
        exact absurd (h c hc d hd ▸ List.mem_cons_self) (List.nodup_cons.mp hnodup).1

theorem validateBaselineTargets_eq_nil_iff {config : Config} {baseline : BehavioralBaselineConfig} :
    validateBaselineTargets packages config baseline = [] ↔
      baseline.targetIds ≠ [] ∧ baseline.targetIds.Nodup ∧
      (∀ id ∈ baseline.targetIds, id ∈ config.targets.map (·.id)) ∧
      ∀ member ∈ config.targets, ∀ other ∈ config.targets, member.id ∈ baseline.targetIds →
        other.id ∈ baseline.targetIds → member.conditionProfile = other.conditionProfile := by
  have hrepeats : (∀ e ∈ screen (fun _ => false) id [] baseline.targetIds, e.2 = false) ↔ baseline.targetIds.Nodup := by
    rw [forall_screen_iff]
    simp
  have hprofile : (∀ a ∈ (config.targets.filter fun target => baseline.targetIds.contains target.id).map
        (·.conditionProfile), ∀ b ∈ (config.targets.filter fun target => baseline.targetIds.contains target.id).map
        (·.conditionProfile), a = b) ↔
      ∀ member ∈ config.targets, ∀ other ∈ config.targets, member.id ∈ baseline.targetIds →
        other.id ∈ baseline.targetIds → member.conditionProfile = other.conditionProfile := by
    simp only [List.forall_mem_map, List.mem_filter, List.contains_iff_mem, and_imp]
    exact ⟨fun h m hm o ho hmi hoi => h m hm hmi o ho hoi, fun h m hm hmi o ho hoi => h m hm o ho hmi hoi⟩
  have hunknown : (((distinct baseline.targetIds).filter (!(config.targets.map (·.id)).contains ·)).map fun id =>
        s!"behavioral_baseline.target_ids references unknown target {packages.debug id}") = [] ↔
      ∀ id ∈ baseline.targetIds, id ∈ config.targets.map (·.id) := by
    simp only [List.map_eq_nil_iff, List.filter_eq_nil_iff, mem_distinct, Bool.not_eq_true, Bool.not_eq_false',
      List.contains_iff_mem]
  simp only [validateBaselineTargets, List.append_eq_nil_iff, errorIf_eq_nil_iff, List.isEmpty_eq_false_iff,
    List.flatMap_eq_nil_iff, decide_eq_false_iff_not, hrepeats, hunknown, and_assoc, ne_eq]
  rw [← hprofile, ← length_distinct_le_one_iff]
  simp only [eq_iff_iff, iff_false]

/-- A loop that keeps two sets rejects nothing just when either set would not. -/
theorem forall_zip_screen_iff {α κ κ' : Type} [DecidableEq κ] [DecidableEq κ'] {bad bad' : α → Bool} {key : α → κ}
    {key' : α → κ'} {items : List α} {P : α → Prop} :
    (∀ e ∈ (screen bad key [] items).zip (screen bad' key' [] items),
        e.1.2 = false ∧ e.2.2 = false ∧ P e.1.1) ↔
      ((∀ a ∈ items, bad a = false) ∧ (items.map key).Nodup) ∧
      ((∀ a ∈ items, bad' a = false) ∧ (items.map key').Nodup) ∧ ∀ a ∈ items, P a := by
  have hlength : (screen bad key [] items).length = (screen bad' key' [] items).length := by
    rw [← List.length_map Prod.fst, screen_map_fst, ← List.length_map Prod.fst, screen_map_fst]
  rw [← forall_screen_iff, ← forall_screen_iff]
  constructor
  · intro h
    refine ⟨fun e he => ?_, fun e he => ?_, forall_screen_fst_iff.mp fun e (he : e ∈ screen bad key [] items) => ?_⟩
    · rw [← List.map_fst_zip hlength.le] at he
      obtain ⟨pair, hpair, rfl⟩ := List.mem_map.mp he
      exact (h pair hpair).1
    · rw [← List.map_snd_zip hlength.ge] at he
      obtain ⟨pair, hpair, rfl⟩ := List.mem_map.mp he
      exact (h pair hpair).2.1
    · rw [← List.map_fst_zip hlength.le] at he
      obtain ⟨pair, hpair, rfl⟩ := List.mem_map.mp he
      exact (h pair hpair).2.2
  · rintro ⟨hfirst, hsecond, hall⟩ ⟨e, e'⟩ he
    obtain ⟨hmem, hmem'⟩ := List.of_mem_zip he
    exact ⟨hfirst e hmem, hsecond e' hmem', forall_screen_fst_iff.mpr hall e hmem⟩

theorem validateTargets_eq_nil_iff {config : Config} {checkSecretFiles : Bool} :
    validateTargets packages config checkSecretFiles = [] ↔
      ((∀ target ∈ config.targets, validId target.id) ∧ (config.targets.map (·.id)).Nodup) ∧
      ((∀ target ∈ config.targets, Text.trim target.name ≠ "") ∧ (config.targets.map (·.name)).Nodup) ∧
      (∀ target ∈ config.targets, target.WellFormed packages config checkSecretFiles) ∧
      ∀ baseline, config.behavioralBaseline = some baseline → validateBaselineTargets packages config baseline = [] := by
  have hzip := @forall_zip_screen_iff _ _ _ _ _ (fun target : TargetConfig => !validId target.id)
    (fun target => decide (Text.trim target.name = "")) TargetConfig.id TargetConfig.name config.targets
    (fun target => target.WellFormed packages config checkSecretFiles)
  simp only [validateTargets, List.append_eq_nil_iff, List.flatMap_eq_nil_iff, validateTarget_eq_nil_iff]
  constructor
  · rintro ⟨htargets, hrest⟩
    obtain ⟨hids, hnames, hall⟩ := hzip.mp htargets
    simp only [Bool.not_eq_false', decide_eq_false_iff_not] at hids hnames
    refine ⟨hids, hnames, hall, fun baseline hsome => ?_⟩
    rw [hsome] at hrest
    exact hrest
  · rintro ⟨hids, hnames, hall, hrest⟩
    refine ⟨hzip.mpr ⟨?_, ?_, hall⟩, ?_⟩
    · simpa only [Bool.not_eq_false'] using hids
    · simpa only [decide_eq_false_iff_not] using hnames
    · cases hsome : config.behavioralBaseline with
      | none => rfl
      | some baseline => exact hrest baseline hsome

theorem validateNotifications_eq_nil_iff {notifications : NotificationConfig} {checkSecretFiles : Bool} :
    validateNotifications packages notifications checkSecretFiles = [] ↔
      notifications.WellFormed packages checkSecretFiles := by
  obtain ⟨provider, pushover⟩ := notifications
  cases provider <;> cases pushover <;> simp only [validateNotifications]
  case disabled.none => exact iff_of_true trivial (.disabled rfl rfl)
  case disabled.some =>
    refine iff_of_false (by simp) fun h => ?_
    cases h with
    | disabled _ absent => cases absent
    | pushover provider => cases provider
  case pushover.none =>
    refine iff_of_false (by simp) fun h => ?_
    cases h with
    | disabled provider => cases provider
    | pushover _ present => cases present
  case pushover.some pushover =>
    simp only [List.append_eq_nil_iff, validateAbsolutePath_eq_nil_iff]
    constructor
    · rintro ⟨⟨htoken, huser⟩, hsecrets⟩
      refine .pushover rfl rfl htoken huser fun hcheck => ?_
      rw [if_pos hcheck, List.append_eq_nil_iff] at hsecrets
      exact ⟨validateSecretFile_eq_nil_iff.mp hsecrets.1, validateSecretFile_eq_nil_iff.mp hsecrets.2⟩
    · intro h
      cases h with
      | disabled provider => cases provider
      | pushover _ present token user secrets =>
        obtain rfl := Option.some.inj present
        refine ⟨⟨token, user⟩, ?_⟩
        cases checkSecretFiles with
        | false => rfl
        | true =>
          rw [if_pos rfl, List.append_eq_nil_iff]
          exact ⟨validateSecretFile_eq_nil_iff.mpr (secrets rfl).1, validateSecretFile_eq_nil_iff.mpr (secrets rfl).2⟩

theorem validateVersionRequirement_eq_nil_iff {config : Config} :
    validateVersionRequirement packages config = [] ↔
      packages.parsesVersionReq config.observation.adguardVersionRequirement ∧
      (config.observation.adguardVersionRequirement = supportedAdguardRequirement ∨
        config.observation.allowUntestedAdguardVersion) := by
  unfold validateVersionRequirement
  by_cases hparses : packages.parsesVersionReq config.observation.adguardVersionRequirement
  · rw [if_neg (by simp [hparses])]
    simp only [errorIf_eq_nil_iff, Config.usesUntestedAdguardVersion, hparses, true_and]
    by_cases htested : config.observation.adguardVersionRequirement = supportedAdguardRequirement <;> simp [htested]
  · rw [if_pos (by simpa using hparses)]
    simp [hparses]

end Checks

/-! ### Validation -/

section Validation

variable {packages : Packages} {config : Config} {checkSecretFiles : Bool}

theorem validationErrors_eq_nil_iff :
    config.validationErrors packages checkSecretFiles = [] ↔ config.WellFormed packages checkSecretFiles := by
  have hretained : (config.behavioralBaseline.any fun baseline =>
      decide (config.state.retentionDays < baseline.learningDays)) = false ↔
      ∀ baseline, config.behavioralBaseline = some baseline → baseline.learningDays ≤ config.state.retentionDays := by
    cases config.behavioralBaseline <;> simp
  simp only [Config.validationErrors, List.append_eq_nil_iff, errorIf_eq_nil_iff, validateAbsolutePath_eq_nil_iff,
    validateRange_eq_nil_iff, hretained, validateVersionRequirement_eq_nil_iff, validateProfiles_eq_nil_iff,
    validateTargets_eq_nil_iff, validateNotifications_eq_nil_iff, bne_eq_false_iff_eq, beq_eq_false_iff_ne,
    Bool.or_eq_false_iff, decide_eq_false_iff_not, not_lt, List.isEmpty_eq_false_iff, validatePolicies,
    List.flatMap_eq_nil_iff, validatePolicy_eq_nil_iff, validateBaselineTargets_eq_nil_iff]
  constructor
  · rintro ⟨⟨⟨⟨⟨⟨⟨⟨⟨⟨⟨⟨⟨⟨⟨⟨hversion, hpath⟩, hretains⟩, hretained⟩, hrequest⟩, hnotification⟩, hbytes⟩, hlookback⟩, htargets⟩,
      hconcurrency⟩, hminimum⟩, hrequirement⟩, hbaselines⟩, hprofiles⟩, hpolicies⟩, hids, hnames, hall, hgroup⟩, hnotifications⟩
    refine ⟨hversion, hpath, hretains, ⟨hrequest, hnotification, hbytes, hlookback, ⟨?_, hconcurrency.2⟩, ?_, ?_, ?_⟩, ?_,
      hprofiles.1, hprofiles.2, hpolicies, htargets, hall, hids.1, hids.2, hnames.1, hnames.2, hnotifications⟩
    · exact Nat.one_le_iff_ne_zero.mpr hconcurrency.1
    · exact ⟨Nat.one_le_iff_ne_zero.mpr hminimum.1, hminimum.2⟩
    · exact hrequirement.1
    · exact hrequirement.2
    · intro baseline hsome
      rw [hsome] at hbaselines
      obtain ⟨hzoned, hlearns⟩ : Text.trim baseline.timeZone ≠ "" ∧ baseline.learningDays ≠ 0 ∧
        baseline.minimumSameHourSamples ≠ 0 := by simpa using hbaselines
      obtain ⟨hnonempty, hdistinct, hconfigured, hprofile⟩ := hgroup baseline hsome
      exact ⟨hretained baseline hsome, hzoned, hlearns, hnonempty, hdistinct, hconfigured, hprofile⟩
  · intro h
    have hobservation := h.observation
    refine ⟨⟨⟨⟨⟨⟨⟨⟨⟨⟨⟨⟨⟨⟨⟨⟨h.version, h.statePath⟩, h.retains⟩, fun baseline hsome => (h.baseline baseline hsome).retained⟩,
      hobservation.requestTimeout⟩, hobservation.notificationTimeout⟩, hobservation.responseBytes⟩, hobservation.lookback⟩,
      h.hasTargets⟩, ?_, hobservation.concurrency.2⟩, ?_, hobservation.minimum.2⟩, hobservation.requirement,
      hobservation.tested⟩, ?_⟩, h.hasProfiles, h.profiles⟩, h.policies⟩,
      ⟨h.slugs, h.distinctIds⟩, ⟨h.names, h.distinctNames⟩, h.targets, fun baseline hsome => ?_⟩, h.notifications⟩
    · exact Nat.one_le_iff_ne_zero.mp hobservation.concurrency.1
    · exact Nat.one_le_iff_ne_zero.mp hobservation.minimum.1
    · cases hsome : config.behavioralBaseline with
      | none => rfl
      | some baseline => simpa using And.intro (h.baseline baseline hsome).zoned (h.baseline baseline hsome).learns
    · have hwell := h.baseline baseline hsome
      exact ⟨hwell.nonempty, hwell.distinct, hwell.configured, hwell.profile⟩

/-- **Validation accepts just the well-formed configurations.** -/
theorem validate_iff_wellFormed :
    config.validate packages checkSecretFiles = .ok () ↔ config.WellFormed packages checkSecretFiles := by
  rw [validate_ok_iff, validationErrors_eq_nil_iff]

end Validation

end Sentinel
