/-
# Targets are independent

All targets are observed, stored, read and evaluated together, and the
evaluations of a check are sorted as one list. Those about one target depend
on its own configuration, report and sightings alone: only the declared group
mixes targets, and its evaluations are about none.

Key theorems: `assembled_of_target`, `targets_independent`.
-/
import Sentinel.Cli.Phase
import Sentinel.Store.Sightings

namespace Sentinel

open Collections
open Fallible (demand)

/-! ### Whom an evaluation is about -/

/-- Every evaluation is about the owner. -/
def Owned (owner : Option String) (evaluations : List ConditionEvaluation) : Prop :=
  ∀ evaluation ∈ evaluations, evaluation.targetId = owner

theorem owned_nil (owner : Option String) : Owned owner [] := fun _ hm => nomatch hm

theorem owned_singleton {owner : Option String} {evaluation : ConditionEvaluation} (h : evaluation.targetId = owner) :
    Owned owner [evaluation] := by
  intro e hm
  rw [List.mem_singleton.mp hm]
  exact h

theorem Owned.append {owner : Option String} {l l' : List ConditionEvaluation} (h : Owned owner l) (h' : Owned owner l') :
    Owned owner (l ++ l') := by
  intro e hm
  rcases List.mem_append.mp hm with hm | hm
  · exact h e hm
  · exact h' e hm

theorem owned_map {α : Type} {owner : Option String} {f : α → ConditionEvaluation} (h : ∀ a, (f a).targetId = owner)
    (items : List α) : Owned owner (items.map f) := by
  intro e hm
  obtain ⟨a, -, rfl⟩ := List.mem_map.mp hm
  exact h a

theorem Owned.filter_self {owner : Option String} {l : List ConditionEvaluation} (h : Owned owner l) :
    l.filter (·.targetId = owner) = l :=
  List.filter_eq_self.mpr fun e hm => decide_eq_true (h e hm)

theorem Owned.filter_other {owner other : Option String} {l : List ConditionEvaluation} (h : Owned other l)
    (hne : other ≠ owner) : l.filter (·.targetId = owner) = [] :=
  List.filter_eq_nil_iff.mpr fun e hm he => hne ((h e hm).symm.trans (of_decide_eq_true he))

section Target

variable (packages : Packages) (target : TargetConfig) (profile : ConditionProfile) (report : TargetReport)

theorem evaluateTargetFailure_owned : Owned (some target.id) (evaluateTargetFailure target profile report) := by
  unfold evaluateTargetFailure
  cases failureReason report.status profile target.name with
  | none => exact owned_nil _
  | some reason => exact owned_singleton rfl

theorem evaluateDnsPolicy_owned (policy : PolicyConfig) :
    Owned (some target.id) (evaluateDnsPolicy target policy profile report) := by
  unfold evaluateDnsPolicy
  cases report.dns with
  | none => exact owned_nil _
  | some dns =>
    refine .append ?_ ?_
    · cases policy.upstreamMode with
      | none => exact owned_nil _
      | some mode => exact owned_singleton rfl
    · cases policy.upstreamDns with
      | none => exact owned_nil _
      | some upstreams => exact owned_singleton rfl

theorem evaluateFilters_owned (policy : PolicyConfig) (nowUnixSeconds : ℤ) :
    Owned (some target.id) (evaluateFilters packages target policy profile report nowUnixSeconds) := by
  unfold evaluateFilters
  apply owned_map
  intro required
  rfl

theorem evaluateRewrites_owned (policy : PolicyConfig) :
    Owned (some target.id) (evaluateRewrites packages target policy profile report) := by
  unfold evaluateRewrites
  refine .append ?_ ?_
  · cases policy.rewrites.enabled with
    | none => exact owned_nil _
    | some enabled => exact owned_singleton rfl
  · apply owned_map
    intro required
    rfl

/-- What a target is evaluated for is about the target. -/
theorem evaluateTarget_owned (policy : Option PolicyConfig) (nowUnixSeconds : ℤ) :
    Owned (some target.id) (evaluateTarget packages target policy profile report nowUnixSeconds) := by
  unfold evaluateTarget
  cases report.complete with
  | false => exact evaluateTargetFailure_owned target profile report
  | true =>
    cases report.operational with
    | none => exact evaluateTargetFailure_owned target profile report
    | some operational =>
      refine .append (.append (.append (owned_singleton rfl) ?_) (owned_singleton rfl)) ?_
      · cases policy.bind (·.protectionEnabled) with
        | none => exact owned_nil _
        | some declared => exact owned_singleton rfl
      · cases policy with
        | none => exact owned_nil _
        | some policy =>
          exact .append (.append (evaluateDnsPolicy_owned target profile report policy)
            (evaluateFilters_owned packages target profile report policy nowUnixSeconds)) (evaluateRewrites_owned packages target profile report policy)

/-- So is what its upstreams are evaluated for. -/
theorem evaluateUpstreamLatency_owned (history : List UpstreamSample) (startedUnixSeconds nowUnixSeconds : ℤ) :
    Owned (some target.id) (evaluateUpstreamLatency target profile report history startedUnixSeconds nowUnixSeconds) := by
  unfold evaluateUpstreamLatency
  cases report.complete <;> cases report.operational
  case true.some => exact owned_singleton rfl
  all_goals exact owned_nil _

end Target

/-- The rates of a subject are about its target, if it is one. -/
theorem behavioralEvaluations_owned (subject : BehavioralSubject) (profile : ConditionProfile) (baselineReady : Bool)
    (history : List RateWindow) (current : Option RateWindow) (minimumWindows : ℕ) :
    Owned subject.targetId (behavioralEvaluations subject profile baselineReady history current minimumWindows) := by
  have hrate : (queryRateEvaluation subject profile baselineReady history current minimumWindows).targetId =
      subject.targetId := by
    unfold queryRateEvaluation unevaluated
    dsimp only
    split <;> rfl
  have hratio : ∀ id kind severity collapse, (ratioEvaluation subject profile baselineReady history current
      minimumWindows id kind severity collapse).targetId = subject.targetId := by
    intro id kind severity collapse
    unfold ratioEvaluation unevaluated
    dsimp only
    split
    · rfl
    · split
      · rfl
      · split <;> rfl
  intro e hm
  simp only [behavioralEvaluations, List.mem_cons, List.not_mem_nil, or_false] at hm
  rcases hm with rfl | rfl | rfl
  · exact hrate
  · exact hratio ..
  · exact hratio ..

theorem evaluateTargetBehavior_owned (packages : Packages) (baseline : BehavioralBaselineConfig)
    (profile : ConditionProfile) (report : TargetReport) (samples : List TargetSample) (nowUnixSeconds : ℤ)
    (localHour : UInt8) :
    Owned (some report.id) (evaluateTargetBehavior packages baseline profile report samples nowUnixSeconds localHour) := by
  unfold evaluateTargetBehavior
  split
  · exact owned_nil _
  · cases report.operational with
    | none => exact owned_nil _
    | some operational =>
      cases report.complete with
      | false => exact owned_nil _
      | true => exact behavioralEvaluations_owned _ _ _ _ _ _

/-- The rates of the group are about no target. -/
theorem evaluateAggregate_owned {packages : Packages} {baseline : BehavioralBaselineConfig} {profile : ConditionProfile}
    {samples : List TargetSample} {reports : List TargetReport} {nowUnixSeconds : ℤ} {localHour : UInt8}
    {utcOffsetMinutes : ℤ} {aggregate : AggregateEvaluation}
    (h : evaluateAggregate packages baseline profile samples reports nowUnixSeconds localHour utcOffsetMinutes =
      some aggregate) : Owned none aggregate.evaluations := by
  simp only [evaluateAggregate, Option.bind_eq_bind, Option.bind_eq_some_iff] at h
  obtain ⟨_, -, _, -, _, -, h⟩ := h
  obtain rfl := Option.some.inj h
  exact behavioralEvaluations_owned _ _ _ _ _ _

/-! ### One target's part -/

/-- Of lists about different targets, those about one are its list. -/
theorem filter_flatten {α : Type} {R : α → List ConditionEvaluation → Prop} {key : α → String}
    (howned : ∀ a list, R a list → Owned (some (key a)) list) {items : List α} {lists : List (List ConditionEvaluation)}
    (h : List.Forall₂ R items lists) (hnodup : (items.map key).Nodup) {a : α} (ha : a ∈ items) :
    ∃ list, R a list ∧ lists.flatten.filter (·.targetId = some (key a)) = list := by
  -- what is about other targets is about none of these
  have hothers : ∀ {items lists}, List.Forall₂ R items lists → key a ∉ items.map key →
      lists.flatten.filter (·.targetId = some (key a)) = [] := by
    intro items lists h hnot
    refine List.filter_eq_nil_iff.mpr fun e he hown => ?_
    obtain ⟨list, hlist, he⟩ := List.mem_flatten.mp he
    obtain ⟨b, hb, hR⟩ := Fallible.exists_of_forall₂_right h list hlist
    have hkey := (howned b list hR e he).symm.trans (of_decide_eq_true hown)
    exact hnot (List.mem_map.mpr ⟨b, hb, Option.some.inj hkey⟩)
  induction h with
  | nil => cases ha
  | @cons b list items lists hR hrest ih =>
    rw [List.map_cons, List.nodup_cons] at hnodup
    rw [List.flatten_cons, List.filter_append]
    rcases List.mem_cons.mp ha with rfl | ha
    · exact ⟨list, hR, by rw [(howned a list hR).filter_self, hothers hrest hnodup.1, List.append_nil]⟩
    · obtain ⟨own, hown, hfilter⟩ := ih hnodup.2 ha
      have hne : some (key b) ≠ some (key a) := fun he =>
        hnodup.1 (List.mem_map.mpr ⟨a, ha, (Option.some.inj he).symm⟩)
      exact ⟨own, hown, by rw [(howned b list hR).filter_other hne, List.nil_append, hfilter]⟩

/-- The declared group, as one member sees it. -/
def Config.groupOf (config : Config) (targetId : String) : Option BehavioralBaselineConfig :=
  config.behavioralBaseline.bind fun baseline =>
    if targetId ∈ baseline.targetIds then some { baseline with targetIds := [targetId] } else none

section Assembled

variable {packages : Packages} {config : Config} {reports : List TargetReport}
  {upstreamSamples : List UpstreamSample} {targetSamples : List TargetSample} {started completed : Timestamp}

theorem find?_target (hids : (config.targets.map (·.id)).Nodup) {target : TargetConfig} (htarget : target ∈ config.targets) :
    config.targets.find? (·.id = target.id) = some target := by
  let table : Table TargetConfig.id := ⟨config.targets, hids⟩
  exact table.find?_key htarget

/-- What is evaluated for the configured targets, of one target. -/
theorem forTargets_of_target {evaluate : TargetConfig → ConditionProfile → TargetReport → List ConditionEvaluation}
    {evaluations : List ConditionEvaluation} (h : forTargets config reports evaluate = .ok evaluations)
    (howned : ∀ target profile report, Owned (some target.id) (evaluate target profile report))
    (hids : (config.targets.map (·.id)).Nodup) {target : TargetConfig} (htarget : target ∈ config.targets) :
    ∃ report profile, reports.find? (·.id = target.id) = some report ∧
      config.conditionProfiles.get? target.conditionProfile = some profile ∧
      evaluations.filter (·.targetId = some target.id) = evaluate target profile report := by
  obtain ⟨lists, hlists, h⟩ := Fallible.bind_eq_ok_iff.mp h
  obtain rfl := Except.ok.inj h
  have hall : List.Forall₂ (fun target list => ∃ report profile, reports.find? (·.id = target.id) = some report ∧
      config.conditionProfiles.get? target.conditionProfile = some profile ∧ evaluate target profile report = list)
      config.targets lists := by
    refine (Fallible.mapM_eq_ok_iff.mp hlists).imp fun target list hlist => ?_
    simp only [Fallible.bind_eq_ok_iff, Fallible.demand_eq_ok_iff] at hlist
    obtain ⟨report, hreport, profile, hprofile, hlist⟩ := hlist
    exact ⟨report, profile, hreport, hprofile, Except.ok.inj hlist⟩
  have hlistOwned : ∀ (target : TargetConfig) list, (∃ report profile, reports.find? (·.id = target.id) = some report ∧
      config.conditionProfiles.get? target.conditionProfile = some profile ∧ evaluate target profile report = list) →
      Owned (some target.id) list := by
    rintro target _ ⟨report, profile, -, -, rfl⟩
    exact howned target profile report
  obtain ⟨list, ⟨report, profile, hreport, hprofile, rfl⟩, hfilter⟩ := filter_flatten hlistOwned hall hids htarget
  exact ⟨report, profile, hreport, hprofile, hfilter⟩

/-- The latency of a target is evaluated from its own samples. -/
theorem evaluateUpstreamLatency_own (target : TargetConfig) (profile : ConditionProfile) (report : TargetReport)
    (history : List UpstreamSample) (startedUnixSeconds nowUnixSeconds : ℤ) :
    evaluateUpstreamLatency target profile report history startedUnixSeconds nowUnixSeconds =
      evaluateUpstreamLatency target profile report (history.filter (·.targetId = report.id)) startedUnixSeconds
        nowUnixSeconds := by
  have hreadings : ∀ current, upstreamReadings report history current nowUnixSeconds =
      upstreamReadings report (history.filter (·.targetId = report.id)) current nowUnixSeconds := by
    intro current
    unfold upstreamReadings
    rw [List.filter_filter]
    refine congrArg (· ++ current.toList) (List.filter_congr fun sample _ => ?_)
    by_cases hown : sample.targetId = report.id
    · simp [hown]
    · simp [hown]
  have hwindows : ∀ current, upstreamWindows report history current nowUnixSeconds =
      upstreamWindows report (history.filter (·.targetId = report.id)) current nowUnixSeconds := by
    intro current
    unfold upstreamWindows
    rw [hreadings]
  unfold evaluateUpstreamLatency
  simp only [hwindows]

/-- The rates of a member are evaluated from its own samples, whoever else is in
the group. -/
theorem evaluateTargetBehavior_own {baseline : BehavioralBaselineConfig} {report : TargetReport}
    (hmember : report.id ∈ baseline.targetIds) (profile : ConditionProfile) (samples : List TargetSample)
    (nowUnixSeconds : ℤ) (localHour : UInt8) :
    evaluateTargetBehavior packages baseline profile report samples nowUnixSeconds localHour =
      evaluateTargetBehavior packages { baseline with targetIds := [report.id] } profile report
        (samples.filter (·.targetId = report.id)) nowUnixSeconds localHour := by
  have hself : (samples.filter (·.targetId = report.id)).filter (·.targetId = report.id) =
      samples.filter (·.targetId = report.id) := by
    rw [List.filter_filter]
    simp
  unfold evaluateTargetBehavior
  rw [if_neg (not_not.mpr hmember), if_neg (not_not.mpr List.mem_cons_self), hself]

theorem evaluateTargetBehavior_outside {baseline : BehavioralBaselineConfig} {report : TargetReport}
    (hmember : report.id ∉ baseline.targetIds) (profile : ConditionProfile) (samples : List TargetSample)
    (nowUnixSeconds : ℤ) (localHour : UInt8) :
    evaluateTargetBehavior packages baseline profile report samples nowUnixSeconds localHour = [] := by
  unfold evaluateTargetBehavior
  rw [if_pos hmember]

/-- The rates of the reported targets, of one target: those of its report. -/
theorem behavior_of_target {evaluate : TargetReport → List ConditionEvaluation}
    (howned : ∀ report, Owned (some report.id) (evaluate report)) (hids : (reports.map (·.id)).Nodup)
    {report : TargetReport} (hreport : report ∈ reports) :
    (reports.flatMap evaluate).filter (·.targetId = some report.id) = evaluate report := by
  have hall : List.Forall₂ (fun report list => evaluate report = list) reports (reports.map evaluate) := by
    rw [List.forall₂_map_right_iff, List.forall₂_same]
    exact fun _ _ => rfl
  have hlistOwned : ∀ (report : TargetReport) list, evaluate report = list → Owned (some report.id) list := by
    rintro report _ rfl
    exact howned report
  obtain ⟨_, rfl, hfilter⟩ := filter_flatten hlistOwned hall hids hreport
  rw [List.flatMap_def]
  exact hfilter

/-- **One target's evaluations**, in the order of their ids: of its report
against its policy, of its upstreams, and of its rates if it is in the group. -/
theorem assembled_of_target {aggregate : Option AggregateObservation} {evaluations : List ConditionEvaluation}
    (h : assembleEvaluations packages config reports upstreamSamples targetSamples started completed =
      .ok (aggregate, evaluations))
    (hids : (config.targets.map (·.id)).Nodup) (hreports : (reports.map (·.id)).Perm (config.targets.map (·.id)))
    {target : TargetConfig} (htarget : target ∈ config.targets) :
    ∃ report profile behavior, (report ∈ reports ∧ report.id = target.id) ∧
      config.conditionProfiles.get? target.conditionProfile = some profile ∧
      evaluations.filter (·.targetId = some target.id) = orderBy (·.id)
        (evaluateTarget packages target (config.policyOf target) profile report started.asSecond ++
          evaluateUpstreamLatency target profile report (upstreamSamples.filter (·.targetId = target.id))
            started.asSecond completed.asSecond ++ behavior) ∧
      ((config.groupOf target.id = none ∧ behavior = []) ∨
        ∃ group localHour offset, config.groupOf target.id = some group ∧
          localTimeBucket packages completed group.timeZone = some (localHour, offset) ∧
          behavior = evaluateTargetBehavior packages group profile report
            (targetSamples.filter (·.targetId = target.id)) completed.asSecond localHour) := by
  simp only [assembleEvaluations, Fallible.bind_eq_ok_iff] at h
  obtain ⟨evaluated, hevaluated, latency, hlatency, h⟩ := h
  obtain ⟨report, profile, hreport, hprofile, hown⟩ := forTargets_of_target hevaluated
    (fun target profile report => evaluateTarget_owned packages target profile report _ _) hids htarget
  obtain ⟨report', profile', hreport', hprofile', hownLatency⟩ := forTargets_of_target hlatency
    (fun target profile report => evaluateUpstreamLatency_owned target profile report _ _ _) hids htarget
  obtain rfl := Option.some.inj (hreport.symm.trans hreport')
  obtain rfl := Option.some.inj (hprofile.symm.trans hprofile')
  obtain ⟨hmem, hid⟩ := (find?_report hreports hids).mp hreport
  rw [evaluateUpstreamLatency_own, hid] at hownLatency
  cases hbaseline : config.behavioralBaseline with
  | none =>
    simp only [hbaseline] at h
    obtain ⟨-, rfl⟩ := Prod.mk.inj (Except.ok.inj h)
    refine ⟨report, profile, [], ⟨hmem, hid⟩, hprofile, ?_, .inl ⟨by rw [Config.groupOf, hbaseline]; rfl, rfl⟩⟩
    rw [← orderBy_filter, List.filter_append, hown, hownLatency, List.append_nil]
  | some baseline =>
    simp only [hbaseline, assembleBehavior, Fallible.bind_eq_ok_iff, Fallible.demand_eq_ok_iff] at h
    obtain ⟨⟨behavior, aggregated⟩, ⟨⟨localHour, offset⟩, hbucket, aggregateProfile, -, hbehavior⟩, h⟩ := h
    obtain ⟨rfl, haggregated⟩ := Prod.mk.inj (Except.ok.inj hbehavior)
    obtain ⟨-, rfl⟩ := Prod.mk.inj (Except.ok.inj h)
    have hgroup : ∀ group : List ConditionEvaluation, Owned none group →
        group.filter (·.targetId = some target.id) = [] := fun _ hnone => hnone.filter_other (Option.some_ne_none _).symm
    have hjudged : behaviorProfile config aggregateProfile report = profile := by
      rw [behaviorProfile, hid, find?_target hids htarget, Option.bind_some, hprofile]
      rfl
    have hrates := behavior_of_target (fun report => evaluateTargetBehavior_owned packages baseline
      (behaviorProfile config aggregateProfile report) report targetSamples completed.asSecond localHour)
      (hreports.nodup_iff.mpr hids) hmem
    rw [hjudged, hid] at hrates
    refine ⟨report, profile,
      evaluateTargetBehavior packages baseline profile report targetSamples completed.asSecond localHour, ⟨hmem, hid⟩,
      hprofile, ?_, ?_⟩
    · rw [← orderBy_filter, List.filter_append, List.filter_append, List.filter_append, hown, hownLatency, hrates, hgroup,
        List.append_nil]
      cases aggregated with
      | none => exact owned_nil none
      | some aggregated => exact evaluateAggregate_owned haggregated
    · by_cases hmember : report.id ∈ baseline.targetIds
      · refine .inr ⟨{ baseline with targetIds := [target.id] }, localHour, offset, ?_, hbucket, ?_⟩
        · rw [Config.groupOf, hbaseline, Option.bind_some, if_pos (hid ▸ hmember)]
        · rw [evaluateTargetBehavior_own hmember, hid]
      · refine .inl ⟨?_, evaluateTargetBehavior_outside hmember profile targetSamples completed.asSecond localHour⟩
        rw [Config.groupOf, hbaseline, Option.bind_some, if_neg (hid ▸ hmember)]

end Assembled

/-! ### Two runs -/

/-- Two configurations agree on a target: on what it is declared as, its policy
and profile, its membership of the group, and how long runs are retained. -/
structure Config.AgreesOn (targetId : String) (config config' : Config) : Prop where
  target : config.targets.find? (·.id = targetId) = config'.targets.find? (·.id = targetId)
  policy : ∀ target ∈ config.targets, target.id = targetId → config.policyOf target = config'.policyOf target
  profile : ∀ target ∈ config.targets, target.id = targetId →
    config.conditionProfiles.get? target.conditionProfile = config'.conditionProfiles.get? target.conditionProfile
  group : config.groupOf targetId = config'.groupOf targetId
  retention : config.state.retentionDays = config'.state.retentionDays

/-- **Targets are independent.** Two evaluation phases that agree on a target's
configuration, on its report and sightings and on the clock conclude the same
about it, whatever the other targets reported or have stored, and in whatever
order the observations finished. -/
theorem targets_independent {packages : Packages} {config config' : Config} {checkSecretFiles checkSecretFiles' : Bool}
    (valid : config.validate packages checkSecretFiles = .ok ())
    (valid' : config'.validate packages checkSecretFiles' = .ok ())
    {target : TargetConfig} (configured : target ∈ config.targets) (agree : config.AgreesOn target.id config')
    {observed observed' : List TargetReport} (reports : (observed.map (·.id)).Perm (config.targets.map (·.id)))
    (reports' : (observed'.map (·.id)).Perm (config'.targets.map (·.id)))
    (reported : ∀ report, report.id = target.id → (report ∈ observed ↔ report ∈ observed'))
    {store store' : StateStore} (stored : store.sightings target.id = store'.sightings target.id)
    {started completed : Timestamp} {aggregate aggregate' : Option AggregateObservation}
    {evaluations evaluations' : List ConditionEvaluation}
    (h : evaluationPhase packages config observed store started completed = .ok (aggregate, evaluations))
    (h' : evaluationPhase packages config' observed' store' started completed = .ok (aggregate', evaluations')) :
    evaluations.filter (·.targetId = some target.id) = evaluations'.filter (·.targetId = some target.id) := by
  have hids := (targets_of_valid valid).2
  have hids' := (targets_of_valid valid').2
  have configured' : target ∈ config'.targets := by
    have hfound : config.targets.find? (·.id = target.id) = some target := find?_target hids configured
    rw [agree.target] at hfound
    exact List.mem_of_find?_eq_some hfound
  have hsorted : ∀ {observed : List TargetReport} {config : Config},
      (observed.map (·.id)).Perm (config.targets.map (·.id)) →
      ((orderBy (·.id) observed).map (·.id)).Perm (config.targets.map (·.id)) := fun hperm =>
    ((perm_orderBy _ _).map _).trans hperm
  -- what the two phases read of the target is the same
  obtain ⟨upstreams, samples, hupstreams, hsamples, h⟩ := evaluationPhase_eq_ok h
  obtain ⟨upstreams', samples', hupstreams', hsamples', h'⟩ := evaluationPhase_eq_ok h'
  obtain ⟨readings, hreadings, hown⟩ := StateStore.upstreamSamples_eq_of_sightings hupstreams target.id
  obtain ⟨readings', hreadings', hown'⟩ := StateStore.upstreamSamples_eq_of_sightings hupstreams' target.id
  rw [← stored, hreadings] at hreadings'
  obtain rfl := Except.ok.inj hreadings'
  have hlatency : upstreams.filter (·.targetId = target.id) = upstreams'.filter (·.targetId = target.id) :=
    hown.trans hown'.symm
  obtain ⟨report, profile, behavior, hreport, hprofile, hpart, hrates⟩ :=
    assembled_of_target h hids (hsorted reports) configured
  obtain ⟨report', profile', behavior', hreport', hprofile', hpart', hrates'⟩ :=
    assembled_of_target h' hids' (hsorted reports') configured'
  obtain rfl : report = report' := by
    have hmem : report ∈ observed' := (reported report hreport.2).mp (mem_orderBy.mp hreport.1)
    exact List.inj_on_of_nodup_map (reports'.nodup_iff.mpr hids') hmem (mem_orderBy.mp hreport'.1)
      (hreport.2.trans hreport'.2.symm)
  obtain rfl : profile = profile' := by
    rw [agree.profile target configured rfl, hprofile'] at hprofile
    exact (Option.some.inj hprofile).symm
  have hbehavior : behavior = behavior' := by
    rcases hrates with ⟨hnone, rfl⟩ | ⟨group, localHour, offset, hgroup, hbucket, rfl⟩
    · rcases hrates' with ⟨-, rfl⟩ | ⟨group', _, _, hgroup', -, -⟩
      · rfl
      · rw [agree.group, hgroup'] at hnone
        cases hnone
    · rcases hrates' with ⟨hnone', -⟩ | ⟨group', localHour', offset', hgroup', hbucket', rfl⟩
      · rw [agree.group, hnone'] at hgroup
        cases hgroup
      · have hread := (Option.bind_eq_some_iff.mp hgroup).imp fun baseline hbaseline => hsamples baseline hbaseline.1
        have hread' := (Option.bind_eq_some_iff.mp hgroup').imp fun baseline hbaseline => hsamples' baseline hbaseline.1
        obtain ⟨-, hread⟩ := hread
        obtain ⟨-, hread'⟩ := hread'
        have hcutoff : cutoffUnixSeconds config' completed = cutoffUnixSeconds config completed := by
          rw [cutoffUnixSeconds, cutoffUnixSeconds, agree.retention]
        have hsame := StateStore.samples_eq_of_sightings hread target.id
        have hsame' := StateStore.samples_eq_of_sightings hread' target.id
        rw [hcutoff, ← stored, hsame] at hsame'
        obtain rfl : group = group' := by
          rw [agree.group, hgroup'] at hgroup
          exact (Option.some.inj hgroup).symm
        rw [hbucket] at hbucket'
        obtain ⟨rfl, -⟩ := Prod.mk.inj (Option.some.inj hbucket')
        rw [Except.ok.inj hsame']
  rw [hpart, hpart', agree.policy target configured rfl, hlatency, hbehavior]

/-! ### A pair of resolvers -/

/-- Two resolvers, which are one group. -/
def pairConfig : Config :=
  { rewritesConfig [] with
    behavioralBaseline := some ⟨["one", "two"], "UTC", 1, 1⟩
    targets := (rewritesConfig []).targets ++ [{ id := "two", name := "Two", baseUrl := "https://one", auth := .none }] }

/-- A run that saw the other resolver, inexactly. -/
def otherRun : RunRow :=
  { readingRun "s" 600 false with
    targets := ⟨(readingRun "s" 600 false).targets.rows.map fun row => { row with targetId := "two" },
      List.nodup_singleton _⟩ }

/-- A store of one resolver, and of both. -/
def oneStore : StateStore := { StateStore.empty with runs := ⟨[readingRun "r" 300 true], List.nodup_singleton _⟩ }

def bothStore : StateStore := { StateStore.empty with runs := ⟨[readingRun "r" 300 true, otherRun], by decide⟩ }

/-- The other resolver does not answer. -/
def otherFailed : TargetReport := { reportOf "two" 5 with status := .unavailable, complete := false }

/-- How many evaluations a phase makes. -/
def evaluationCount (observed : List TargetReport) (store : StateStore) : ℕ :=
  match evaluationPhase universalPackages pairConfig observed store (daySecond 900) (daySecond 900) with
  | .ok (_, evaluations) => evaluations.length
  | .error _ => 0

/-- What is concluded of one resolver is the same when the other fails, has
been seen inexactly since, and answers first. -/
theorem targets_independent_pair : ∃ aggregate evaluations aggregate' evaluations',
    evaluationPhase universalPackages pairConfig [reportOf "one" 5, reportOf "two" 5] oneStore (daySecond 900)
      (daySecond 900) = .ok (aggregate, evaluations) ∧
    evaluationPhase universalPackages pairConfig [otherFailed, reportOf "one" 5] bothStore (daySecond 900)
      (daySecond 900) = .ok (aggregate', evaluations') ∧
    evaluations.length = 15 ∧ evaluations'.length = 7 ∧
    evaluations.filter (·.targetId = some "one") = evaluations'.filter (·.targetId = some "one") := by
  have hvalid : pairConfig.validate universalPackages false = .ok () := by decide +kernel
  have hlength : evaluationCount [reportOf "one" 5, reportOf "two" 5] oneStore = 15 := by decide +kernel
  have hlength' : evaluationCount [otherFailed, reportOf "one" 5] bothStore = 7 := by decide +kernel
  have hreported : ∀ report : TargetReport, report.id = "one" →
      (report ∈ [reportOf "one" 5, reportOf "two" 5] ↔ report ∈ [otherFailed, reportOf "one" 5]) := by
    intro report hid
    have hne : report ≠ reportOf "two" 5 ∧ report ≠ otherFailed := by
      constructor <;> rintro rfl <;> exact absurd hid (by decide)
    simp [hne.1, hne.2]
  unfold evaluationCount at hlength hlength'
  cases h : evaluationPhase universalPackages pairConfig [reportOf "one" 5, reportOf "two" 5] oneStore (daySecond 900)
      (daySecond 900) with
  | error error =>
    rw [h] at hlength
    cases hlength
  | ok result =>
    cases h' : evaluationPhase universalPackages pairConfig [otherFailed, reportOf "one" 5] bothStore (daySecond 900)
        (daySecond 900) with
    | error error =>
      rw [h'] at hlength'
      cases hlength'
    | ok result' =>
      rw [h] at hlength
      rw [h'] at hlength'
      exact ⟨result.1, result.2, result'.1, result'.2, rfl, rfl, hlength, hlength',
        targets_independent hvalid hvalid (List.mem_cons_self) ⟨rfl, fun _ _ _ => rfl, fun _ _ _ => rfl, rfl, rfl⟩
          (by decide) (by decide) hreported rfl h h'⟩

end Sentinel
