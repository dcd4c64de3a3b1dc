/-
# What validation suffices for

A check looks up by name what its configuration declares: the report and the
profile of every target, the members of the group, the time zone, what a
rejected target was declared as. Validation proves each lookup but one: the
name of the time zone is only checked not to be blank.

Key theorems: `forTargets_ok`, `runsThrough_iff`.
-/
import Sentinel.Adguard.Client
import Sentinel.Cli.Phase

namespace Sentinel

open Collections
open Fallible (demand)

variable {packages : Packages} {config : Config} {checkSecretFiles : Bool}

/-- Hours of the day. -/
def Packages.CivilHours (packages : Packages) : Prop :=
  ∀ name zone, packages.timeZone name = some zone → ∀ instant, 0 ≤ (zone instant).1 ∧ (zone instant).1 ≤ 23

/-- What every run of a configuration needs of it, whatever it observes and has
stored: no lookup fails, and the only errors are the store's and the clock's. -/
structure RunsThrough (packages : Packages) (config : Config) : Prop where
  client : ∃ requirement, newClient packages config.observation.adguardVersionRequirement = .ok requirement
  requests : ∀ target ∈ config.targets, ∀ endpoint password, (target.auth = .basic → password.isSome) →
    ∃ request, prepareRequest packages target endpoint password = .ok request
  group : ∀ baseline, config.behavioralBaseline = some baseline →
    (∃ profile, baselineProfile config baseline = .ok profile) ∧
      ∀ id ∈ baseline.targetIds, ∃ target ∈ config.targets, target.id = id
  phase : ∀ observed store started completed error, (observed.map (·.id)).Perm (config.targets.map (·.id)) →
    evaluationPhase packages config observed store started completed = .error error → ∃ text, error = .state text
  runtime : ∀ report store now, (report.targets.map (·.id)).Perm (config.targets.map (·.id)) →
    ∃ store', StateStore.updateRuntimeStates report config now store = .ok store'

theorem newClient_ok (valid : config.validate packages checkSecretFiles = .ok ()) :
    ∃ requirement, newClient packages config.observation.adguardVersionRequirement = .ok requirement :=
  ⟨_, if_pos (versionRequirement_of_valid valid)⟩

theorem baselineProfile_ok (valid : config.validate packages checkSecretFiles = .ok ())
    {baseline : BehavioralBaselineConfig} (hbaseline : config.behavioralBaseline = some baseline) :
    ∃ profile, baselineProfile config baseline = .ok profile := by
  obtain ⟨hmembers, hdeclared⟩ := baseline_of_valid valid hbaseline
  obtain ⟨first, members, hids⟩ := List.exists_cons_of_ne_nil hmembers
  obtain ⟨declared, hmem, rfl⟩ := hdeclared first (hids ▸ List.mem_cons_self)
  obtain ⟨target, hfound⟩ := Option.isSome_iff_exists.mp (List.find?_isSome.mpr ⟨declared, hmem, decide_eq_true rfl⟩ :
    (config.targets.find? fun target => target.id = declared.id).isSome)
  obtain ⟨-, ⟨profile, hprofile⟩, -⟩ := target_of_valid valid (List.mem_of_find?_eq_some hfound)
  refine ⟨profile, ?_⟩
  simp only [baselineProfile, hids, List.head?_cons, demand, Fallible.ok_bind]
  rw [hfound]
  simp only [Fallible.ok_bind]
  rw [hprofile]

section Reports

variable {observed : List TargetReport}

/-- Every configured target finds its report. -/
theorem report_of_perm (hreports : (observed.map (·.id)).Perm (config.targets.map (·.id))) {target : TargetConfig}
    (htarget : target ∈ config.targets) : ∃ report, observed.find? (·.id = target.id) = some report := by
  obtain ⟨report, hmem, hid⟩ := List.mem_map.mp (hreports.mem_iff.mpr (List.mem_map_of_mem htarget))
  exact Option.isSome_iff_exists.mp (List.find?_isSome.mpr ⟨report, hmem, decide_eq_true hid⟩)

/-- Every report's target is configured. -/
theorem target_of_perm (hreports : (observed.map (·.id)).Perm (config.targets.map (·.id))) {report : TargetReport}
    (hreport : report ∈ observed) : ∃ target, config.targets.find? (·.id = report.id) = some target := by
  obtain ⟨target, hmem, hid⟩ := List.mem_map.mp (hreports.mem_iff.mp (List.mem_map_of_mem hreport))
  exact Option.isSome_iff_exists.mp (List.find?_isSome.mpr ⟨target, hmem, decide_eq_true hid⟩)

/-- **The targets are evaluated**: no lookup of a valid configuration fails. -/
theorem forTargets_ok (valid : config.validate packages checkSecretFiles = .ok ())
    (hreports : (observed.map (·.id)).Perm (config.targets.map (·.id)))
    (evaluate : TargetConfig → ConditionProfile → TargetReport → List ConditionEvaluation) :
    ∃ evaluations, forTargets config observed evaluate = .ok evaluations := by
  obtain ⟨lists, hlists⟩ := Fallible.exists_mapM_eq_ok (f := fun target => (do
      let report ← demand (.panicked "every configured target has a report") (observed.find? (·.id = target.id))
      let profile ← demand (.panicked "validated condition profile reference")
        (config.conditionProfiles.get? target.conditionProfile)
      return evaluate target profile report : Except CommandError (List ConditionEvaluation)))
    (l := config.targets) fun target htarget => by
      obtain ⟨report, hreport⟩ := report_of_perm hreports htarget
      obtain ⟨-, ⟨profile, hprofile⟩, -⟩ := target_of_valid valid htarget
      rw [hreport, hprofile]
      exact ⟨_, rfl⟩
  exact ⟨lists.flatten, by rw [forTargets, hlists]; rfl⟩

/-- A local hour is known when the zone is. -/
theorem localTimeBucket_ok (hours : packages.CivilHours) {timeZone : String}
    (hzone : (packages.timeZone timeZone).isSome) (instant : Timestamp) :
    ∃ bucket, localTimeBucket packages instant timeZone = some bucket := by
  obtain ⟨zone, hzone⟩ := Option.isSome_iff_exists.mp hzone
  have hhour := hours timeZone zone hzone instant
  have hrange : 0 ≤ (zone instant).1 ∧ (zone instant).1 < 256 := by omega
  refine ⟨(UInt8.ofNat (zone instant).1.toNat, (zone instant).2.tdiv 60), ?_⟩
  rw [localTimeBucket, hzone, Option.bind_some]
  exact if_pos hrange

/-- **The evaluations are assembled** when the zone of the group is known. -/
theorem assembleEvaluations_ok (valid : config.validate packages checkSecretFiles = .ok ())
    (hours : packages.CivilHours)
    (zoned : ∀ baseline, config.behavioralBaseline = some baseline → (packages.timeZone baseline.timeZone).isSome)
    (hreports : (observed.map (·.id)).Perm (config.targets.map (·.id))) (upstreamSamples : List UpstreamSample)
    (targetSamples : List TargetSample) (started completed : Timestamp) :
    ∃ result, assembleEvaluations packages config observed upstreamSamples targetSamples started completed =
      .ok result := by
  obtain ⟨evaluated, hevaluated⟩ := forTargets_ok valid hreports fun target profile report =>
    evaluateTarget packages target (config.policyOf target) profile report started.asSecond
  obtain ⟨latency, hlatency⟩ := forTargets_ok valid hreports fun target profile report =>
    evaluateUpstreamLatency target profile report upstreamSamples started.asSecond completed.asSecond
  simp only [assembleEvaluations, hevaluated, hlatency, Fallible.ok_bind]
  cases hbaseline : config.behavioralBaseline with
  | none => exact ⟨_, rfl⟩
  | some baseline =>
    obtain ⟨bucket, hbucket⟩ := localTimeBucket_ok hours (zoned baseline hbaseline) completed
    obtain ⟨profile, hprofile⟩ := baselineProfile_ok valid hbaseline
    simp only [assembleBehavior, hbucket, hprofile, demand, Fallible.ok_bind]
    exact ⟨_, rfl⟩

/-- **A phase fails for the store or the clock only**, when the zone of the group
is known. -/
theorem evaluationPhase_error (valid : config.validate packages checkSecretFiles = .ok ())
    (hours : packages.CivilHours)
    (zoned : ∀ baseline, config.behavioralBaseline = some baseline → (packages.timeZone baseline.timeZone).isSome)
    (hreports : (observed.map (·.id)).Perm (config.targets.map (·.id))) {store : StateStore}
    {started completed : Timestamp} {error : CommandError}
    (h : evaluationPhase packages config observed store started completed = .error error) :
    ∃ text, error = .state text := by
  have hsorted : ((orderBy (·.id) observed).map (·.id)).Perm (config.targets.map (·.id)) :=
    ((perm_orderBy _ _).map _).trans hreports
  have hstore : ∀ {α : Type} {x : Except StoreError α}, x.mapError CommandError.ofStore = .error error →
      ∃ text, error = .state text := by
    intro α x hx
    cases x with
    | ok a => cases hx
    | error failure => exact ⟨failure.text, (Except.error.inj hx).symm⟩
  obtain ⟨evaluated, hevaluated⟩ := forTargets_ok valid hsorted fun target profile report =>
    evaluateTarget packages target (config.policyOf target) profile report started.asSecond
  simp only [evaluationPhase, hevaluated, Fallible.ok_bind] at h
  rcases Fallible.bind_eq_error_iff.mp h with h | ⟨_, -, h⟩
  · unfold Fallible.ensure at h
    split at h
    · cases h
    · exact ⟨_, (Except.error.inj h).symm⟩
  rcases Fallible.bind_eq_error_iff.mp h with h | ⟨upstreamSamples, -, h⟩
  · exact hstore h
  rcases Fallible.bind_eq_error_iff.mp h with h | ⟨targetSamples, -, h⟩
  · unfold loadGroupSamples at h
    cases hbaseline : config.behavioralBaseline with
    | none =>
      rw [hbaseline] at h
      cases h
    | some baseline =>
      obtain ⟨bucket, hbucket⟩ := localTimeBucket_ok hours (zoned baseline hbaseline) completed
      simp only [hbaseline, hbucket, demand, Fallible.ok_bind] at h
      exact hstore h
  · obtain ⟨result, hresult⟩ := assembleEvaluations_ok valid hours zoned hsorted upstreamSamples targetSamples started
      completed
    rw [hresult] at h
    cases h

/-- **A rejected target is looked up**: recording what the reports say about
authentication never fails. -/
theorem updateRuntimeStates_ok (valid : config.validate packages checkSecretFiles = .ok ()) {report : RunReport}
    (hreports : (report.targets.map (·.id)).Perm (config.targets.map (·.id))) (store : StateStore) (now : ℤ) :
    ∃ store', StateStore.updateRuntimeStates report config now store = .ok store' := by
  refine Fallible.exists_foldlM_eq_ok (fun store target htarget => ?_) store
  obtain ⟨declared, hdeclared⟩ := target_of_perm hreports htarget
  obtain ⟨-, ⟨profile, hprofile⟩, -⟩ := target_of_valid valid (List.mem_of_find?_eq_some hdeclared)
  unfold StateStore.updateRuntimeState
  split
  · rw [hdeclared]
    simp only [demand, Fallible.ok_bind]
    rw [hprofile]
    exact ⟨_, rfl⟩
  all_goals exact ⟨_, rfl⟩

/-- With an unknown zone, a check that observed its targets and can read its
store fails for its configuration. -/
theorem evaluationPhase_unzoned (valid : config.validate packages checkSecretFiles = .ok ())
    (hreports : (observed.map (·.id)).Perm (config.targets.map (·.id))) {baseline : BehavioralBaselineConfig}
    (hbaseline : config.behavioralBaseline = some baseline) (hzone : packages.timeZone baseline.timeZone = none) :
    evaluationPhase packages config observed .empty epoch epoch =
      .error (.invocation "invalid behavior time zone") := by
  have hsorted : ((orderBy (·.id) observed).map (·.id)).Perm (config.targets.map (·.id)) :=
    ((perm_orderBy _ _).map _).trans hreports
  obtain ⟨evaluated, hevaluated⟩ := forTargets_ok valid hsorted fun target profile report =>
    evaluateTarget packages target (config.policyOf target) profile report epoch.asSecond
  have hupstreams : StateStore.empty.loadUpstreamSamples (saturatingSub epoch.asSecond upstreamHistorySeconds) =
      .ok [] := rfl
  have hbucket : localTimeBucket packages epoch baseline.timeZone = none := by
    rw [localTimeBucket, hzone]
    rfl
  simp only [evaluationPhase, hevaluated, hupstreams, loadGroupSamples, hbaseline, hbucket, Fallible.ok_bind]
  rfl

end Reports

/-- **What validation suffices for.** Every run of a valid configuration gets
through, unless a declared group names a time zone the database does not know. -/
theorem runsThrough_iff (valid : config.validate packages checkSecretFiles = .ok ()) (hours : packages.CivilHours) :
    RunsThrough packages config ↔
      ∀ baseline, config.behavioralBaseline = some baseline → (packages.timeZone baseline.timeZone).isSome := by
  constructor
  · intro h baseline hbaseline
    by_contra hunknown
    rw [Option.not_isSome_iff_eq_none] at hunknown
    let observed := config.targets.map fun target => incompleteReport target .authenticationRejected
    have hreports : (observed.map (·.id)).Perm (config.targets.map (·.id)) := by
      rw [List.map_map]
      exact List.Perm.refl _
    obtain ⟨text, herror⟩ := h.phase observed .empty epoch epoch _ hreports
      (evaluationPhase_unzoned valid hreports hbaseline hunknown)
    cases herror
  · intro zoned
    refine ⟨newClient_ok valid, fun target htarget endpoint password hpassword => ?_, fun baseline hbaseline =>
      ⟨baselineProfile_ok valid hbaseline, (baseline_of_valid valid hbaseline).2⟩,
      fun observed store started completed error hreports => evaluationPhase_error valid hours zoned hreports,
      fun report store now hreports => updateRuntimeStates_ok valid hreports store now⟩
    obtain ⟨⟨url, hurl⟩, -, huser⟩ := target_of_valid valid htarget
    exact prepareRequest_ok hurl huser hpassword endpoint

/-! ### Two time zones -/

/-- One resolver, which is a group in some time zone. -/
def zonedConfig (timeZone : String) : Config :=
  { rewritesConfig [] with behavioralBaseline := some ⟨["one"], timeZone, 1, 1⟩ }

theorem civilHours_universal : universalPackages.CivilHours := by
  intro name zone hzone instant
  simp only [universalPackages] at hzone
  by_cases hname : name = "UTC"
  · rw [if_pos hname] at hzone
    obtain rfl := Option.some.inj hzone
    show 0 ≤ instant.asSecond / 3600 % 24 ∧ instant.asSecond / 3600 % 24 ≤ 23
    omega
  · rw [if_neg hname] at hzone
    cases hzone

/-- A known zone lets every run through. -/
theorem runsThrough_iff_universal : RunsThrough universalPackages (zonedConfig "UTC") := by
  have hvalid : (zonedConfig "UTC").validate universalPackages false = .ok () := by decide +kernel
  refine (runsThrough_iff hvalid civilHours_universal).mpr fun baseline hbaseline => ?_
  obtain rfl := Option.some.inj hbaseline
  rfl

/-- **A misspelt zone passes validation and fails every run.** -/
theorem misspelt_zone : (zonedConfig "Europe/Amsterdm").validate universalPackages false = .ok () ∧
    evaluationPhase universalPackages (zonedConfig "Europe/Amsterdm") [reportOf "one" 5] .empty epoch epoch =
      .error (.invocation "invalid behavior time zone") := by
  have hvalid : (zonedConfig "Europe/Amsterdm").validate universalPackages false = .ok () := by decide +kernel
  exact ⟨hvalid, evaluationPhase_unzoned hvalid (List.Perm.refl _) rfl rfl⟩

end Sentinel
