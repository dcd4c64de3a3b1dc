/-
# Every check's report can be read back

Whatever the resolvers answer, what a check observes of them is normalized: its
lists are in order and its floats are finite. So is the aggregate, and the
evaluations are sorted. So the report that a check commits is in the shape that
is read back, and retention does not reach it: every database that checks leave
has a logbook of such runs.

Key theorems: `observeTarget_normalized`, `Circumstances.assembled_observation`, `Operated.logbook`.
-/
import Sentinel.Cli.ExitCode
import Sentinel.Cli.Storable
import Sentinel.Core.Behavior
import Sentinel.Delivery.Recount

namespace Sentinel

open Collections CrashTxn Fallible

/-! ### Observations -/

section Observed

variable {packages : Packages} {versions : VersionPackage} {config : Config} {nowUnixSeconds : ℤ} {answers : Answers}

/-- The greatest of finite latencies is finite. -/
theorem isFinite_maximum {latencies : List Binary64} (h : ∀ latency ∈ latencies, latency.isFinite) :
    ((maxBy (fun a b : Binary64 => decide (a.totalKey ≤ b.totalKey)) latencies).getD (.ofNat 0)).isFinite := by
  cases hmax : maxBy (fun a b : Binary64 => decide (a.totalKey ≤ b.totalKey)) latencies with
  | none =>
    have hzero : (Binary64.ofNat 0).isFinite := by decide +kernel
    exact hzero
  | some latency =>
    refine h latency (maxBy_eq_some _ (fun a => ?_) (fun a b hle => ?_) (fun a b c hab hbc => ?_) hmax).1
    · simp
    · simp only [decide_eq_false_iff_not, not_le] at hle
      exact decide_eq_true hle.le
    · exact decide_eq_true ((of_decide_eq_true hab).trans (of_decide_eq_true hbc))

/-- **Normalized statistics are finite.** -/
theorem normalizeStats_finite {protectionEnabled : Bool} {stats : StatsResponse} {observation : OperationalObservation}
    (h : normalizeStats protectionEnabled stats = .ok observation) : observation.Finite := by
  simp only [normalizeStats, bind_eq_ok_iff, ensure_eq_ok_iff, Bool.and_eq_true] at h
  obtain ⟨_, -, _, hprocessing, upstreams, hupstreams, _, -, h⟩ := h
  obtain rfl := Except.ok.inj h
  refine ⟨isFinite_shareOf _ _, hprocessing.1, isFinite_maximum fun latency hlatency => ?_, isFinite_shareOf _ _⟩
  obtain ⟨upstream, hupstream, rfl⟩ := List.mem_map.mp hlatency
  exact ((normalizeUpstreams_spec hupstreams).finite upstream hupstream).1

/-- A report without observations is normalized. -/
theorem normalized_incomplete (id name : String) (status : TargetStatus) (errorKind errorDetail : String) :
    (TargetReport.incomplete id name status errorKind errorDetail).Normalized :=
  ⟨.nil, .nil, fun _ hmem => (nomatch hmem), fun _ hmem => absurd hmem List.not_mem_nil⟩

theorem observe_normalized {requirement : String} {target : TargetConfig} {policy : Option PolicyConfig}
    {report : TargetReport} (h : observe packages versions requirement target policy nowUnixSeconds answers = .ok report) :
    report.Normalized := by
  simp only [observe, bind_eq_ok_iff] at h
  obtain ⟨_, -, _, -, _, -, _, -, _, -, _, -, _, -, _, -, _, -, _, hstats, _, hupstreams, _, -, _, hfilters,
    _, hrewrites, h⟩ := h
  obtain rfl := Except.ok.inj h
  refine ⟨(normalizeFilters_spec hfilters).2, ?_, ?_, fun upstream hupstream => ?_⟩
  · obtain ⟨-, -, rfl⟩ := normalizeRewrites_eq_ok_iff.mp hrewrites
    exact pairwise_orderBy _ _
  · rintro _ ⟨⟩
    exact normalizeStats_finite hstats
  · exact ((normalizeUpstreams_spec hupstreams).finite upstream hupstream).1

/-- **Every target's report is normalized**, whatever its resolver answers. -/
theorem observeTarget_normalized {target : TargetConfig} {cooldown : Option TargetRuntimeState} :
    (observeTarget packages versions config cooldown nowUnixSeconds target answers).Normalized := by
  unfold observeTarget
  cases pausedUntil cooldown nowUnixSeconds with
  | some retryAfter => exact normalized_incomplete ..
  | none =>
    cases hobserved : observe packages versions config.observation.adguardVersionRequirement target
        (config.policyOf target) nowUnixSeconds answers with
    | ok report => exact observe_normalized hobserved
    | error error => exact normalized_incomplete ..

end Observed

/-! ### The aggregate -/

/-- The time-zone library's offsets are less than 26 hours. -/
def Packages.CivilOffsets (packages : Packages) : Prop :=
  ∀ name zone, packages.timeZone name = some zone → ∀ instant, -93600 < (zone instant).2 ∧ (zone instant).2 < 93600

theorem localTimeBucket_offset {packages : Packages} (offsets : packages.CivilOffsets) {timestamp : Timestamp}
    {timeZone : String} {bucket : UInt8 × ℤ} (h : localTimeBucket packages timestamp timeZone = some bucket) :
    -2147483648 ≤ bucket.2 ∧ bucket.2 < 2147483648 := by
  obtain ⟨zone, hzone, h⟩ := Option.bind_eq_some_iff.mp h
  have hoffset := offsets timeZone zone hzone timestamp
  dsimp only at h
  split at h
  · obtain rfl := Option.some.inj h
    have hdivided := Int.mul_tdiv_add_tmod (zone timestamp).2 60
    have hlow := Int.lt_tmod_of_pos (zone timestamp).2 (show (0 : ℤ) < 60 by decide)
    have hhigh := Int.tmod_lt_of_pos (zone timestamp).2 (show (0 : ℤ) < 60 by decide)
    show -2147483648 ≤ (zone timestamp).2.tdiv 60 ∧ (zone timestamp).2.tdiv 60 < 2147483648
    omega
  · cases h

/-- **An aggregate observation is normalized**, if its members' are. -/
theorem aggregate_normalized {packages : Packages} {config : BehavioralBaselineConfig} {profile : ConditionProfile}
    {samples : List TargetSample} {targetReports : List TargetReport} {nowUnixSeconds utcOffsetMinutes : ℤ}
    {localHour : UInt8} {result : AggregateEvaluation}
    (h : evaluateAggregate packages config profile samples targetReports nowUnixSeconds localHour utcOffsetMinutes =
      some result)
    (hoffset : -2147483648 ≤ utcOffsetMinutes ∧ utcOffsetMinutes < 2147483648)
    (hreports : ∀ report ∈ targetReports, report.Normalized) : result.observation.Normalized := by
  simp only [evaluateAggregate, Option.bind_eq_bind, Option.bind_eq_some_iff] at h
  obtain ⟨members, hmembers, combined, -, readings, -, h⟩ := h
  obtain rfl := Option.some.inj h
  refine ⟨hoffset, isFinite_shareOf _ _, forall_collect (p := fun share : Binary64 => share.isFinite = true) fun entry hentry => ?_,
    forall_collect (p := fun share : Binary64 => share.isFinite = true) fun entry hentry => ?_⟩
  · obtain ⟨member, -, rfl⟩ := List.mem_map.mp hentry
    exact isFinite_shareOf _ _
  · obtain ⟨member, hmember, rfl⟩ := List.mem_map.mp hentry
    obtain ⟨hreport, hoperational⟩ := mem_groupMembers hmembers hmember
    exact ((hreports member.1 hreport).operational member.2 hoperational).topClientShare

/-- The evaluations of a check are sorted. -/
theorem sorted_of_assembleEvaluations {packages : Packages} {config : Config} {targets : List TargetReport}
    {upstreamSamples : List UpstreamSample} {targetSamples : List TargetSample} {started completed : Timestamp}
    {aggregate : Option AggregateObservation} {evaluations : List ConditionEvaluation}
    (h : assembleEvaluations packages config targets upstreamSamples targetSamples started completed =
      .ok (aggregate, evaluations)) : evaluations.Pairwise fun a b => a.id ≤ b.id := by
  simp only [assembleEvaluations, bind_eq_ok_iff] at h
  obtain ⟨_, -, _, -, h⟩ := h
  cases hbaseline : config.behavioralBaseline with
  | none =>
    rw [hbaseline] at h
    obtain ⟨-, rfl⟩ := Prod.mk.inj (Except.ok.inj h)
    exact pairwise_orderBy _ _
  | some baseline =>
    simp only [hbaseline, bind_eq_ok_iff] at h
    obtain ⟨_, -, h⟩ := h
    obtain ⟨-, rfl⟩ := Prod.mk.inj (Except.ok.inj h)
    exact pairwise_orderBy _ _

namespace Circumstances

variable {c : Circumstances} {recovered : List DeliveryActivity} {store : StateStore} {report : RunReport}

/-- **What a check reports is in the shape that is read back.** -/
theorem assembled_observation (offsets : c.packages.CivilOffsets) (h : c.observation recovered store = .ok report) :
    report.Assembled := by
  obtain ⟨⟨aggregate, evaluations⟩, hphase, -, rfl⟩ := observation_eq_ok h
  have hnormalized : ∀ target ∈ orderBy (·.id) (c.observed store), target.Normalized := by
    intro target htarget
    have htarget := (c.finished_perm _).mem_iff.mp (mem_orderBy.mp htarget)
    obtain ⟨configured, -, rfl⟩ := List.mem_map.mp htarget
    exact observeTarget_normalized
  obtain ⟨_, _, -, -, hassembled⟩ := evaluationPhase_eq_ok hphase
  refine assembled_assembleReport _ _ _ (pairwise_orderBy _ _) hnormalized (fun value hvalue => ?_)
    (sorted_of_assembleEvaluations hassembled)
  obtain ⟨baseline, profile, samples, bucket, result, -, hbucket, hresult, rfl⟩ := aggregate_of_phase hphase hvalue
  exact aggregate_normalized hresult (localTimeBucket_offset offsets hbucket) hnormalized

end Circumstances

/-! ### Checks, one after another -/

/-- A database that checks have left, each of which may have died anywhere. -/
inductive Operated : StateStore → Prop
  | start : Operated .empty
  | check {store left : StateStore} (h : Operated store) (c : Circumstances) (offsets : c.packages.CivilOffsets)
      (hleft : left ∈ crashStates (checkWithSink c.inputs) store) : Operated left

/-- The database has a logbook of the runs of checks. -/
def HasCheckedLogbook (store : StateStore) : Prop := ∃ log kept, Logbook log kept store ∧ ∀ run ∈ log, run.Checked

theorem keptByDelivery_checkedLogbook : KeptByDelivery HasCheckedLogbook where
  claim hs ok := by
    obtain ⟨log, kept, hs, hchecked⟩ := hs
    exact ⟨log, kept, hs.claim ok, hchecked⟩
  record hs ok := by
    obtain ⟨log, kept, hs, hchecked⟩ := hs
    exact ⟨log, kept, hs.record ok, hchecked⟩
  refresh hs ok := by
    obtain ⟨log, kept, hs, hchecked⟩ := hs
    exact ⟨log, kept, hs.refresh ok, hchecked⟩

/-- **Checks keep a logbook of their runs**, and every run in it can be read back. -/
theorem Operated.logbook {store : StateStore} (h : Operated store) : HasCheckedLogbook store := by
  induction h with
  | start => exact ⟨[], [], .start, fun run hm => absurd hm List.not_mem_nil⟩
  | @check store left _ c offsets hleft ih =>
    have hrecover := spec_recover keptByDelivery_checkedLogbook.record c.started
    rcases left_cases hleft with hrecovery | ⟨recovered, now, report, committed, hcommits, hdelivery⟩
    · exact hrecover.crash ih hrecovery
    · obtain ⟨log, kept, hnow, hchecked⟩ := (hcommits.recovers.of_spec hrecover ih).1
      have hcommitted : HasCheckedLogbook committed.store := by
        refine ⟨_, _, hnow.commit hcommits.commits, fun run hm => ?_⟩
        rcases List.mem_append.mp hm with hm | hm
        · exact hchecked run hm
        · obtain rfl := List.mem_singleton.mp hm
          refine ⟨Circumstances.assembled_observation offsets hcommits.observes, ?_⟩
          obtain ⟨evaluated, -, -, rfl⟩ := Circumstances.observation_eq_ok hcommits.observes
          exact c.retentionCutoff_le
      exact (spec_finish keptByDelivery_checkedLogbook c.inputs recovered committed.report).crash hcommitted hdelivery

end Sentinel
