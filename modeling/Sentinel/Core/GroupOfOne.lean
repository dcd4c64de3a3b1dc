/-
# A group of one target

The group's readings are grouped by run and summed, a target's are filtered by
target. In a group of one target, with one sample a run, both are the target's
samples in their order, so the two sets of rate conditions agree. Readiness is
gated differently (the group's flag already counts the windows), which no
condition can tell apart.

Key theorems: `combinedReadings_of_one`, `readyBounds_of_group`, `evaluateAggregate_of_one`.
-/
import Sentinel.Core.Behavior

namespace Sentinel

open Collections

/-! ### The readings -/

section Readings

variable {config : BehavioralBaselineConfig} {targetId : String}

/-- A sample as the entry of its run. -/
def TargetSample.entry (sample : TargetSample) : CombinedEntry :=
  ⟨sample.runId, [sample.targetId], sample.timestamp, sample.queries, sample.blocked⟩

theorem checkedAdd_zero (a : UInt64) : checkedAdd 0 a = some a := by
  rw [checkedAdd_eq_some]
  simp

/-- A sample of a run that has no entry yet becomes its entry. -/
theorem combineSample_of_new {entries : List CombinedEntry} {sample : TargetSample}
    (hmember : sample.targetId ∈ config.targetIds) (hnew : ∀ entry ∈ entries, entry.runId ≠ sample.runId) :
    combineSample config entries sample = some (entries ++ [sample.entry]) := by
  have hentry : withEntry sample entries = entries ++ [⟨sample.runId, [], sample.timestamp, 0, 0⟩] := by
    refine if_neg fun hany => ?_
    obtain ⟨entry, hentry, hrun⟩ := List.any_eq_true.mp hany
    exact hnew entry hentry (of_decide_eq_true hrun)
  have hadd : ∀ entry ∈ entries, CombinedEntry.add sample entry = some entry :=
    fun entry hmem => if_pos (.inl (hnew entry hmem))
  rw [combineSample, if_pos hmember, hentry, Fallible.mapM_eq_some_iff]
  refine List.rel_append (List.forall₂_same.mpr hadd) (.cons ?_ .nil)
  rw [CombinedEntry.add, if_neg (by simp)]
  simp only [checkedAdd_zero]
  rfl

/-- **In a group of one target the group's readings are the target's**, if no
run has two samples of it. -/
theorem combinedReadings_of_one (htargets : config.targetIds = [targetId]) {samples : List TargetSample}
    (hdistinct : (samples.map fun sample => (sample.runId, sample.targetId)).Nodup) :
    combinedReadings config samples = some (readingsOf targetId samples) := by
  have hfold : samples.foldlM (combineSample config) [] =
      some ((samples.filter (·.targetId = targetId)).map TargetSample.entry) := by
    induction samples using List.reverseRecOn with
    | nil => rfl
    | append_singleton samples last ih =>
      obtain ⟨hbefore, hlast⟩ := nodup_map_concat_iff.mp hdistinct
      rw [List.foldlM_append, ih hbefore, List.filter_append, List.map_append]
      show (combineSample config _ last).bind some = _
      rw [Option.bind_fun_some]
      by_cases hmember : last.targetId = targetId
      · rw [combineSample_of_new (by simp [htargets, hmember]) fun entry hentry hrun => ?_]
        · simp [hmember]
        · obtain ⟨sample, hsample, rfl⟩ := List.mem_map.mp hentry
          obtain ⟨hsample, hid⟩ := List.mem_filter.mp hsample
          have hid : sample.targetId = targetId := of_decide_eq_true hid
          exact hlast sample hsample (Prod.ext hrun (hid.trans hmember.symm))
      · have hother : last.targetId ∉ config.targetIds := by simpa [htargets] using hmember
        rw [combineSample, if_neg hother]
        simp [hmember]
  have hall : ((samples.filter (·.targetId = targetId)).map TargetSample.entry).filter
      (·.members.length = config.targetIds.length) = (samples.filter (·.targetId = targetId)).map TargetSample.entry := by
    rw [List.filter_eq_self]
    intro entry hentry
    obtain ⟨sample, -, rfl⟩ := List.mem_map.mp hentry
    rw [htargets]
    rfl
  rw [combinedReadings, combinedRuns, hfold, Option.map_some, Option.map_some, hall, List.map_map]
  rfl

end Readings

/-! ### The current counters -/

theorem groupMembers_of_one {config : BehavioralBaselineConfig} {targetReports : List TargetReport} {report : TargetReport}
    {operational : OperationalObservation} (htargets : config.targetIds = [report.id])
    (hlast : findLast (·.id = report.id) targetReports = some report) (hcomplete : report.complete = true)
    (hoperational : report.operational = some operational) :
    groupMembers config targetReports = some [(report, operational)] := by
  rw [groupMembers, htargets, Fallible.mapM_eq_some_iff]
  refine .cons ?_ .nil
  rw [hlast]
  simp [hoperational, hcomplete]

theorem currentCombined_of_one (report : TargetReport) (operational : OperationalObservation) (now : ℤ) :
    currentCombined [(report, operational)] now = some ⟨now, operational.queries, operational.blocked⟩ := by
  simp [currentCombined, checkedAdd_zero]

/-! ### Agreement -/

/-- Two evaluations agree on their verdict, and where they were reached on
their limits and measurements. -/
structure SameVerdict (e e' : ConditionEvaluation) : Prop where
  outcome : e.outcome = e'.outcome
  reason : e.reason = e'.reason
  evaluated : e.outcome ≠ .notEvaluated → e.expected = e'.expected ∧ e.observed = e'.observed

/-- A flag decides the outcome, whatever the summaries. -/
theorem Verdict.fromFlag_outcome (isActive : Bool) (whenActive whenActive' whenClear whenClear' : String × String) :
    (fromFlag isActive whenActive whenClear).outcome = (fromFlag isActive whenActive' whenClear').outcome := by
  cases isActive <;> rfl

theorem Verdict.fromFlag_reason (isActive : Bool) (active clear summary summary' other other' : String) :
    (fromFlag isActive (active, summary) (clear, other)).reason =
      (fromFlag isActive (active, summary') (clear, other')).reason := by
  cases isActive <;> rfl

section Agreement

variable (subject subject' : BehavioralSubject) (profile : ConditionProfile) {baselineReady baselineReady' : Bool}
  {history : List RateWindow} (current : Option RateWindow) {minimumWindows : ℕ}

theorem queryRateEvaluation_agrees
    (h : readyBounds baselineReady minimumWindows (history.map (·.queryRate)) =
      readyBounds baselineReady' minimumWindows (history.map (·.queryRate))) :
    SameVerdict (queryRateEvaluation subject profile baselineReady history current minimumWindows)
      (queryRateEvaluation subject' profile baselineReady' history current minimumWindows) := by
  unfold queryRateEvaluation
  simp only [h]
  cases readyBounds baselineReady' minimumWindows (history.map (·.queryRate)) with
  | none => exact ⟨rfl, rfl, fun hne => absurd rfl hne⟩
  | some bounds =>
    cases current with
    | none => exact ⟨rfl, rfl, fun hne => absurd rfl hne⟩
    | some window => exact ⟨Verdict.fromFlag_outcome .., Verdict.fromFlag_reason .., fun _ => ⟨rfl, rfl⟩⟩

theorem ratioEvaluation_agrees
    (h : readyBounds baselineReady minimumWindows (history.filterMap (·.comparableBlockedRatio)) =
      readyBounds baselineReady' minimumWindows (history.filterMap (·.comparableBlockedRatio)))
    (id id' kind kind' : String) (severity : Severity) (collapse : Bool) :
    SameVerdict (ratioEvaluation subject profile baselineReady history current minimumWindows id kind severity collapse)
      (ratioEvaluation subject' profile baselineReady' history current minimumWindows id' kind' severity collapse) := by
  unfold ratioEvaluation
  simp only [h]
  cases readyBounds baselineReady' minimumWindows (history.filterMap (·.comparableBlockedRatio)) with
  | none => exact ⟨rfl, rfl, fun hne => absurd rfl hne⟩
  | some bounds =>
    cases current with
    | none => exact ⟨rfl, rfl, fun hne => absurd rfl hne⟩
    | some window =>
      cases hratio : window.comparableBlockedRatio with
      | none =>
        simp only [hratio]
        exact ⟨rfl, rfl, fun hne => absurd rfl hne⟩
      | some ratio =>
        simp only [hratio]
        cases collapse with
        | false => exact ⟨Verdict.fromFlag_outcome .., Verdict.fromFlag_reason .., fun _ => ⟨rfl, rfl⟩⟩
        | true => exact ⟨Verdict.fromFlag_outcome .., Verdict.fromFlag_reason .., fun _ => ⟨rfl, rfl⟩⟩

end Agreement

/-- The age of a baseline: that of its oldest reading, zero without any. -/
def baselineAge (readings : List Reading) (now : ℤ) : ℤ :=
  readings.head?.elim 0 fun oldest => saturatingSub now oldest.timestamp

/-- **The two gates open alike**: the group's flag also counts the windows, of
which a population has no more. -/
theorem readyBounds_of_group (config : BehavioralBaselineConfig) {samples : List TargetSample} {targetId : String} (now : ℤ)
    {windows : ℕ} (minimumWindows : ℕ) (values : List Binary64) (hcount : values.length ≤ windows)
    (hempty : readingsOf targetId samples = [] → values = []) :
    readyBounds (decide ((config.learningDays.toNat : ℤ) * 86400 ≤ baselineAge (readingsOf targetId samples) now) &&
        decide (minimumWindows ≤ windows)) minimumWindows values =
      readyBounds (learningGate config samples targetId now) minimumWindows values := by
  have hflag : ∀ isOld : Bool, (isOld && decide (minimumWindows ≤ windows) && decide (minimumWindows ≤ values.length)) =
      (isOld && decide (minimumWindows ≤ values.length)) := by
    intro isOld
    by_cases hlarge : minimumWindows ≤ values.length
    · rw [decide_eq_true (hlarge.trans hcount), Bool.and_true]
    · rw [decide_eq_false hlarge, Bool.and_false, Bool.and_false]
  unfold readyBounds learningGate
  rw [hflag, ← readingsOf]
  cases hreadings : readingsOf targetId samples with
  | nil =>
    rw [hempty hreadings]
    simp [robustBounds]
  | cons oldest rest => rfl

/-- What the group's rate conditions are evaluated from. -/
theorem evaluateAggregate_of_some (packages : Packages) {config : BehavioralBaselineConfig} (profile : ConditionProfile)
    {samples : List TargetSample} {targetReports : List TargetReport} (now utcOffsetMinutes : ℤ) (localHour : UInt8)
    {members : List (TargetReport × OperationalObservation)} {combined : Reading} {readings : List Reading}
    (hmembers : groupMembers config targetReports = some members) (hcombined : currentCombined members now = some combined)
    (hreadings : combinedReadings config samples = some readings) :
    ∃ result, evaluateAggregate packages config profile samples targetReports now localHour utcOffsetMinutes = some result ∧
      result.observation.sameHourSamples = (learnedWindows packages config.timeZone localHour readings).length ∧
      result.observation.baselineReady =
        (decide ((config.learningDays.toNat : ℤ) * 86400 ≤ baselineAge readings now) &&
          decide (config.minimumSameHourSamples ≤ (learnedWindows packages config.timeZone localHour readings).length)) ∧
      result.evaluations = behavioralEvaluations .aggregate profile result.observation.baselineReady
        (learnedWindows packages config.timeZone localHour readings) (currentWindow readings combined localHour)
        config.minimumSameHourSamples := by
  have hcurrent : (readings.getLast?.bind fun previous => windowBetween previous combined localHour) =
      currentWindow readings combined localHour := by
    simp only [currentWindow, windowBetween_eq]
  unfold evaluateAggregate baselineAge
  simp only [hmembers, hcombined, hreadings, Option.bind_eq_bind, Option.bind_some, sameHourWindows_eq_learnedWindows,
    hcurrent]
  cases readings with
  | nil => exact ⟨_, rfl, rfl, rfl, rfl⟩
  | cons oldest rest => exact ⟨_, rfl, rfl, rfl, rfl⟩

/-- **A group of one target agrees with its member**: for every list of samples
with at most one a run and target. -/
theorem evaluateAggregate_of_one (packages : Packages) (config : BehavioralBaselineConfig) (profile : ConditionProfile)
    (report : TargetReport) (operational : OperationalObservation) (targetReports : List TargetReport)
    (samples : List TargetSample) (now utcOffsetMinutes : ℤ) (localHour : UInt8) (htargets : config.targetIds = [report.id])
    (hlast : findLast (·.id = report.id) targetReports = some report) (hcomplete : report.complete = true)
    (hoperational : report.operational = some operational)
    (hdistinct : (samples.map fun sample => (sample.runId, sample.targetId)).Nodup) :
    ∃ result rate ratio collapse rate' ratio' collapse',
      evaluateAggregate packages config profile samples targetReports now localHour utcOffsetMinutes = some result ∧
      result.evaluations = [rate, ratio, collapse] ∧
      evaluateTargetBehavior packages config profile report samples now localHour = [rate', ratio', collapse'] ∧
      SameVerdict rate rate' ∧ SameVerdict ratio ratio' ∧ SameVerdict collapse collapse' ∧
      result.observation.sameHourSamples =
        (learnedWindows packages config.timeZone localHour (readingsOf report.id samples)).length ∧
      (0 < config.minimumSameHourSamples →
        (result.observation.baselineReady = true ↔
          ¬(rate.outcome = .notEvaluated ∧ rate.reason = "baseline_learning"))) := by
  have hreadings := combinedReadings_of_one htargets hdistinct
  have hmembers := groupMembers_of_one htargets hlast hcomplete hoperational
  have hmember : report.id ∈ config.targetIds := htargets ▸ List.mem_singleton_self _
  obtain ⟨result, hresult, hsamples, hready, hevaluations⟩ := evaluateAggregate_of_some packages profile now
    utcOffsetMinutes localHour hmembers (currentCombined_of_one report operational now) hreadings
  have htarget := evaluateTargetBehavior_learned packages profile samples now localHour hmember hcomplete hoperational
  have hempty : readingsOf report.id samples = [] →
      learnedWindows packages config.timeZone localHour (readingsOf report.id samples) = [] := by
    intro hempty
    rw [hempty]
    rfl
  have hfinite : ∀ window ∈ learnedWindows packages config.timeZone localHour (readingsOf report.id samples),
      window.Finite := fun window => finite_of_mem_learnedWindows
  generalize learnedWindows packages config.timeZone localHour (readingsOf report.id samples) = history at *
  have hrate := readyBounds_of_group config now config.minimumSameHourSamples (history.map (·.queryRate))
    (List.length_map _).le fun h => by rw [hempty h]; rfl
  have hratio := readyBounds_of_group config now config.minimumSameHourSamples
    (history.filterMap (·.comparableBlockedRatio)) (List.length_filterMap_le _ _) fun h => by rw [hempty h]; rfl
  rw [← hready] at hrate hratio
  refine ⟨result, _, _, _, _, _, _, hresult, hevaluations, htarget, queryRateEvaluation_agrees _ _ _ _ hrate,
    ratioEvaluation_agrees _ _ _ _ hratio _ _ _ _ _ _, ratioEvaluation_agrees _ _ _ _ hratio _ _ _ _ _ _, hsamples,
    fun hminimum => ?_⟩
  have hverdict := queryRateEvaluation_verdict .aggregate profile result.observation.baselineReady
    (currentWindow (readingsOf report.id samples) ⟨now, operational.queries, operational.blocked⟩ localHour) hfinite hminimum
  rw [hverdict.learning, not_not]
  refine ⟨fun h => ⟨h, ?_⟩, And.left⟩
  rw [hready, Bool.and_eq_true, decide_eq_true_eq, decide_eq_true_eq] at h
  exact h.2

/-- One target, of which one learned window is enough. -/
def groupOfOne : BehavioralBaselineConfig := ⟨["a"], "UTC", 1, 1⟩

/-- A surge of one target is a surge of its group. -/
theorem evaluateAggregate_of_one_surge :
    ∃ result, evaluateAggregate universalTime groupOfOne {} samplesOfOne [reportOf "a" 15000] 173100 0 0 = some result ∧
      result.observation.sameHourSamples = 1 ∧
      result.evaluations.map (·.outcome) = [.active, .clear, .clear] := by
  have hmember : (evaluateTargetBehavior universalTime groupOfOne {} (reportOf "a" 15000) samplesOfOne 173100 0).map
      (·.outcome) = [.active, .clear, .clear] := by decide +kernel
  obtain ⟨result, rate, ratio, collapse, rate', ratio', collapse', hresult, hevaluations, htarget, hrate, hratio, hcollapse,
    hsamples, -⟩ := evaluateAggregate_of_one universalTime groupOfOne {} (reportOf "a" 15000) _ [reportOf "a" 15000]
      samplesOfOne 173100 0 0 rfl (by decide) rfl rfl (by decide)
  refine ⟨result, hresult, hsamples.trans (by decide +kernel), ?_⟩
  rw [htarget] at hmember
  simp only [List.map_cons, List.map_nil] at hmember
  simp only [hevaluations, List.map_cons, List.map_nil, hrate.outcome, hratio.outcome, hcollapse.outcome, hmember]

/-- **Ready to compare with nothing**: a baseline that asks for no windows is
ready without any, and its rate condition is still learning. -/
theorem ready_while_learning :
    ¬∀ (packages : Packages) (config : BehavioralBaselineConfig) (profile : ConditionProfile) (report : TargetReport)
      (samples : List TargetSample) (now utcOffsetMinutes : ℤ) (localHour : UInt8), config.targetIds = [report.id] →
      report.complete = true → report.operational.isSome →
      (samples.map fun sample => (sample.runId, sample.targetId)).Nodup →
      ∀ result rate, evaluateAggregate packages config profile samples [report] now localHour utcOffsetMinutes =
        some result → result.evaluations.head? = some rate →
      (result.observation.baselineReady = true ↔ ¬(rate.outcome = .notEvaluated ∧ rate.reason = "baseline_learning")) := by
  intro h
  let result := evaluateAggregate universalTime ⟨["a"], "UTC", 1, 0⟩ {} [⟨"first", "a", 0, 1000, 0⟩]
    [reportOf "a" 15000] 173100 0 0
  have hready : (result.map fun result => result.observation.baselineReady) = some true := by decide +kernel
  have hlearning : (result.bind fun result => result.evaluations.head?.map fun rate => (rate.outcome, rate.reason)) =
      some (.notEvaluated, "baseline_learning") := by decide +kernel
  obtain ⟨value, hresult, hready⟩ := Option.map_eq_some_iff.mp hready
  rw [hresult, Option.bind_some] at hlearning
  obtain ⟨rate, hrate, hlearning⟩ := Option.map_eq_some_iff.mp hlearning
  obtain ⟨houtcome, hreason⟩ := Prod.mk.inj hlearning
  have hiff := h universalTime ⟨["a"], "UTC", 1, 0⟩ {} (reportOf "a" 15000) [⟨"first", "a", 0, 1000, 0⟩] 173100 0 0 rfl rfl
    rfl (by decide) value rate hresult hrate
  exact hiff.mp hready ⟨houtcome, hreason⟩

end Sentinel
