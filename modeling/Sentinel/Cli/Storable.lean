/-
# Whatever is observed can be stored

The rows a check writes of its targets and of their aggregate satisfy every
constraint of their tables: what a resolver answers is normalized to distinct
keys and bounded numbers, and the clock does not run backwards, so the
oldest reading is no younger than the check.

Key theorems: `rows_stored`.
-/
import Sentinel.Cli.Observe
import Sentinel.Cli.Validated
import Sentinel.Core.Aggregate
import Sentinel.Store.Samples

namespace Sentinel

open Collections Fallible

theorem aggregateRow_ok {aggregate : AggregateObservation} (h : aggregate.Bounded) :
    ∃ row, aggregateRow aggregate = .ok row := by
  have hhour : decide (aggregate.localHour ≤ 23) = true := decide_eq_true (UInt8.le_iff_toNat_le.mpr h.localHour)
  have hratio : bindReal aggregate.combinedBlockedRatio = some aggregate.combinedBlockedRatio := by
    rw [bindReal, h.ratio.not_nan]
    rfl
  have hunit : ((Binary64.ofNat 0).le aggregate.combinedBlockedRatio &&
      aggregate.combinedBlockedRatio.le (.ofNat 1)) = true := by
    rw [h.ratio.1, h.ratio.2]
    rfl
  simp only [aggregateRow, i64FromUsize_ok h.samples, columnCheck_ok hhour, columnCheck_ok (unsignedText_toText _), hratio,
    columnCheck_ok hunit, columnCheck_ok (decide_eq_true h.age), constraint, demand, ok_bind]
  exact ⟨_, rfl⟩

section Insert

variable {report : RunReport}

theorem insertTargets_ok (hstorable : ∀ target ∈ report.targets, target.Storable)
    (hdistinct : (report.targets.map (·.id)).Nodup) (store : StateStore) :
    ∃ stored, StateStore.insertTargets report store = .ok stored := by
  obtain ⟨table, htable⟩ := targetTable_ok hstorable hdistinct
  rw [StateStore.insertTargets, htable]
  exact ⟨_, rfl⟩

theorem insertAggregate_ok (hbounded : ∀ value ∈ report.aggregate, value.Bounded) (store : StateStore) :
    ∃ stored, StateStore.insertAggregate report store = .ok stored := by
  unfold StateStore.insertAggregate
  cases hvalue : report.aggregate with
  | none => exact ⟨_, rfl⟩
  | some value =>
    obtain ⟨row, hrow⟩ := aggregateRow_ok (hbounded value hvalue)
    simp only [hrow, ok_bind]
    exact ⟨_, rfl⟩

end Insert

theorem localTimeBucket_hour {packages : Packages} (hours : packages.CivilHours) {timestamp : Timestamp} {timeZone : String}
    {bucket : UInt8 × ℤ} (h : localTimeBucket packages timestamp timeZone = some bucket) : bucket.1.toNat ≤ 23 := by
  obtain ⟨zone, hzone, h⟩ := Option.bind_eq_some_iff.mp h
  have hhour := hours timeZone zone hzone timestamp
  dsimp only at h
  split at h
  · obtain rfl := Option.some.inj h
    show (UInt8.ofNat (zone timestamp).1.toNat).toNat ≤ 23
    rw [UInt8.toNat_ofNat']
    omega
  · cases h

section Check

variable {packages : Packages} {versions : VersionPackage} {config : Config} {checkSecretFiles : Bool} {store : StateStore}
  {started completed : Timestamp} {observed : List TargetReport} {aggregate : Option AggregateObservation}
  {evaluations : List ConditionEvaluation}

/-- Samples of a store come between the first instant and a check that does
not precede its latest run. -/
theorem samples_range {cutoffUnixSeconds : ℤ} {samples : List TargetSample} (hclock : checkClock started store = .ok ())
    (horder : started ≤ completed) (h : store.loadTargetSamples cutoffUnixSeconds = .ok samples) :
    ∀ sample ∈ samples, -377705023201 ≤ sample.timestamp ∧ sample.timestamp ≤ completed.asSecond := by
  intro sample hsample
  obtain ⟨entry, hentry, -, -, hread⟩ := StateStore.mem_samples h hsample
  have hrun : entry.1 ∈ store.runs.rows := (mem_observations.mp hentry).1
  obtain ⟨latest, hlatest, hle⟩ := StateStore.le_latestCompletedAt hrun
  rw [checkClock, hlatest] at hclock
  have hstarted : latest ≤ started := by simpa [ensure] using hclock
  rw [(StateStore.sampleOf_eq_ok hread).2.2]
  have hbefore := calc entry.1.completedAt ≤ latest := hle
    _ ≤ started := hstarted
    _ ≤ completed := horder
  exact ⟨entry.1.completedAt.asSecond_bounds.1, Timestamp.asSecond_mono hbefore⟩

/-- The aggregate of a phase is evaluated from the samples of its store. -/
theorem aggregate_of_phase
    (hphase : evaluationPhase packages config observed store started completed = .ok (aggregate, evaluations))
    {value : AggregateObservation} (hvalue : value ∈ aggregate) : ∃ baseline profile samples bucket result,
      store.loadTargetSamples (cutoffUnixSeconds config completed) = .ok samples ∧
      localTimeBucket packages completed baseline.timeZone = some bucket ∧
      evaluateAggregate packages baseline profile samples (orderBy (·.id) observed) completed.asSecond bucket.1 bucket.2 =
        some result ∧ result.observation = value := by
  obtain ⟨upstreamSamples, targetSamples, -, hsamples, hassembled⟩ := evaluationPhase_eq_ok hphase
  simp only [assembleEvaluations, bind_eq_ok_iff] at hassembled
  obtain ⟨_, -, _, -, hassembled⟩ := hassembled
  cases hbaseline : config.behavioralBaseline with
  | none =>
    rw [hbaseline] at hassembled
    obtain ⟨rfl, -⟩ := Prod.mk.inj (Except.ok.inj hassembled)
    exact absurd hvalue (Option.not_mem_none value)
  | some baseline =>
    have hload := hsamples baseline hbaseline
    simp only [hbaseline, assembleBehavior, bind_eq_ok_iff, demand_eq_ok_iff] at hassembled
    obtain ⟨_, ⟨bucket, hbucket, profile, -, hpair⟩, hassembled⟩ := hassembled
    obtain rfl := Except.ok.inj hpair
    obtain ⟨rfl, -⟩ := Prod.mk.inj (Except.ok.inj hassembled)
    obtain ⟨result, hresult, hobservation⟩ := Option.map_eq_some_iff.mp hvalue
    exact ⟨baseline, profile, targetSamples, bucket, result, hload, hbucket, hresult, hobservation⟩

/-- **The aggregate of a check is within its bounds.** -/
theorem aggregate_bounded (hours : packages.CivilHours)
    (hobserved : config.Observes packages versions store started.asSecond observed)
    (hclock : checkClock started store = .ok ())
    (hphase : evaluationPhase packages config observed store started completed = .ok (aggregate, evaluations)) :
    ∀ value ∈ aggregate, value.Bounded := by
  have hstorable := hobserved.storable.1
  have horder : started ≤ completed := by
    simp only [evaluationPhase, bind_eq_ok_iff, ensure_eq_ok_iff, decide_eq_true_eq] at hphase
    obtain ⟨_, -, _, horder, -⟩ := hphase
    exact horder
  intro value hvalue
  obtain ⟨baseline, profile, samples, bucket, result, hload, hbucket, hresult, rfl⟩ := aggregate_of_phase hphase hvalue
  refine aggregateObservation_spec hresult (localTimeBucket_hour hours hbucket) (fun report hreport => ?_)
    (StateStore.samples_sorted hload) (samples_range hclock horder hload) completed.asSecond_bounds
  exact (hstorable report (mem_orderBy.mp hreport)).counters

/-- **External data cannot block persistence**: whatever the resolvers of a valid
configuration answer, the rows of the targets and of the aggregate satisfy
the constraints of their tables. -/
theorem rows_stored (valid : config.validate packages checkSecretFiles = .ok ()) (hours : packages.CivilHours)
    (hobserved : config.Observes packages versions store started.asSecond observed)
    (hclock : checkClock started store = .ok ())
    (hphase : evaluationPhase packages config observed store started completed = .ok (aggregate, evaluations))
    (report : RunReport) (htargets : report.targets = orderBy (·.id) observed) (haggregate : report.aggregate = aggregate) :
    (∀ target ∈ report.targets, target.Storable) ∧ (∀ value ∈ report.aggregate, value.Bounded) ∧
      ∀ written : StateStore, ∃ stored, (do
        let written ← StateStore.insertTargets report written
        StateStore.insertAggregate report written) = .ok stored := by
  obtain ⟨hstorable, hids⟩ := hobserved.storable
  have hall : ∀ target ∈ report.targets, target.Storable := by
    intro target htarget
    rw [htargets, mem_orderBy] at htarget
    exact hstorable target htarget
  have hdistinct : (report.targets.map (·.id)).Nodup := by
    rw [htargets, (((perm_orderBy _ observed).map _).trans hids).nodup_iff]
    exact (targets_of_valid valid).2
  have hbounded : ∀ value ∈ report.aggregate, value.Bounded := by
    rw [haggregate]
    exact aggregate_bounded hours hobserved hclock hphase
  refine ⟨hall, hbounded, fun written => ?_⟩
  obtain ⟨next, hnext⟩ := insertTargets_ok hall hdistinct written
  obtain ⟨stored, hstored⟩ := insertAggregate_ok hbounded next
  exact ⟨stored, by rw [hnext, ok_bind, hstored]⟩

end Check

/-! ### One resolver -/

/-- A version library that takes every version. -/
def anyVersion : VersionPackage := ⟨some, fun _ _ => true, id⟩

/-- The answers of a resolver with two upstreams, one without an average. -/
def plainAnswers : Answers where
  status := .ok ⟨true, true, "v0.107.78"⟩
  statistics := .ok {
    numDnsQueries := 40
    numBlockedFiltering := 4
    avgProcessingTime := .ofRat 0.002
    topUpstreamsResponses := [⟨[("one", 30)], List.pairwise_singleton ..⟩, ⟨[("two", 0)], List.pairwise_singleton ..⟩]
    topUpstreamsAvgTime := [⟨[("one", .ofRat 0.01)], List.pairwise_singleton ..⟩]
    topClients := [⟨[("client", 25)], List.pairwise_singleton ..⟩]
    inMemory := by decide }
  dns := .ok ⟨["upstream"], ""⟩
  filtering := .ok ⟨true, []⟩
  rewrites := .ok [⟨"Host.", "10.0.0.1", true⟩]
  rewriteSettings := .ok ⟨true⟩

/-- What the resolver is observed as. -/
def plainObserved : List TargetReport :=
  (zonedConfig "UTC").targets.map fun target =>
    observeTarget universalPackages anyVersion (zonedConfig "UTC") none 1500 target plainAnswers

/-- A group of one resolver is stored, with its aggregate. -/
theorem rows_stored_plain :
    ∃ report : RunReport, (report.targets.map fun target => (target.complete, target.upstreams.length)) = [(true, 2)] ∧
      report.aggregate.isSome ∧ ∀ written : StateStore, ∃ stored, (do
        let written ← StateStore.insertTargets report written
        StateStore.insertAggregate report written) = .ok stored := by
  have hvalid : (zonedConfig "UTC").validate universalPackages false = .ok () := by decide +kernel
  have hobserved : (zonedConfig "UTC").Observes universalPackages anyVersion
      (readingsStore [(300, true), (900, true)]) (daySecond 1500).asSecond plainObserved :=
    ⟨fun _ => plainAnswers, List.Perm.refl _⟩
  have hclock : checkClock (daySecond 1500) (readingsStore [(300, true), (900, true)]) = .ok () := by decide +kernel
  have hsome : ((evaluationPhase universalPackages (zonedConfig "UTC") plainObserved
      (readingsStore [(300, true), (900, true)]) (daySecond 1500) (daySecond 1501)).toOption.any (·.1.isSome)) = true := by
    decide +kernel
  have htargets : ((orderBy (·.id) plainObserved).map fun target => (target.complete, target.upstreams.length)) =
      [(true, 2)] := by decide +kernel
  cases hphase : evaluationPhase universalPackages (zonedConfig "UTC") plainObserved
      (readingsStore [(300, true), (900, true)]) (daySecond 1500) (daySecond 1501) with
  | error error =>
    rw [hphase] at hsome
    cases hsome
  | ok result =>
    rw [hphase] at hsome
    let report := assembleReport (zonedConfig "UTC") .never
      { runId := "run"
        mode := .live
        started := daySecond 1500
        completed := daySecond 1501
        configSha256 := ""
        recoveredAttempts := []
        targets := orderBy (·.id) plainObserved
        aggregate := result.1
        evaluations := result.2 }
    have hstored := rows_stored hvalid civilHours_universal hobserved hclock hphase report rfl rfl
    exact ⟨report, htargets, hsome, hstored.2.2⟩

end Sentinel
