/-
# The learning gate

The behavioral conditions of a target are compared only once the oldest sample
that is read back is as old as the learning time. Retention bounds what is
read back: with readings at most ten minutes apart, a day more of retention
than of learning always keeps a reading that is old enough.

Key theorems: `learningGate_of_readings`, `learning_gate_opens`.
-/
import Sentinel.Cli.Assembly
import Sentinel.Cli.Report
import Sentinel.Core.Behavior
import Sentinel.Store.Samples

namespace Sentinel

open Collections StateStore

/-- **When the gate is open**: some sample is read back, and the first is old
enough. -/
theorem learningGate_iff {store : StateStore} {cutoff : ℤ} {samples : List TargetSample}
    (h : store.loadTargetSamples cutoff = .ok samples) (baseline : BehavioralBaselineConfig) (targetId : String)
    (completed : Timestamp) :
    learningGate baseline samples targetId completed.asSecond = true ↔
      ∃ oldest, ((readAt targetId store.learningRows).filter (cutoff ≤ ·)).head? = some oldest ∧
        oldest ≤ completed.asSecond - (baseline.learningDays.toNat : ℤ) * 86400 := by
  have htimes := timestamps_of_samples h targetId
  have hhead : ((samples.filter (·.targetId = targetId)).map TargetSample.reading).head?.map (·.timestamp) =
      ((readAt targetId store.learningRows).filter (cutoff ≤ ·)).head? := by
    rw [← htimes, List.head?_map, List.head?_map, Option.map_map]
    rfl
  have hnow := completed.asSecond_bounds
  have hrange : ∀ time ∈ (readAt targetId store.learningRows).filter (cutoff ≤ ·),
      -377705023201 ≤ time ∧ time ≤ 253402207200 := by
    intro time htime
    obtain ⟨entry, -, rfl⟩ := List.mem_map.mp (List.mem_of_mem_filter htime)
    exact entry.1.completedAt.asSecond_bounds
  unfold learningGate
  rw [← hhead]
  cases hfirst : ((samples.filter (·.targetId = targetId)).map TargetSample.reading).head? with
  | none => simp
  | some oldest =>
    have hbounds : -377705023201 ≤ oldest.timestamp ∧ oldest.timestamp ≤ 253402207200 := by
      refine hrange oldest.timestamp (List.mem_of_mem_head? ?_)
      rw [← hhead, hfirst]
      rfl
    rw [Option.any_some, decide_eq_true_iff]
    simp only [Option.map_some, Option.some.injEq, exists_eq_left', saturatingSub,
      saturate, i64Minimum, i64Maximum]
    omega

/-- **The gate opens** on readings that are at most ten minutes apart, if more
days are retained than learned. -/
theorem learningGate_of_readings {config : Config} {baseline : BehavioralBaselineConfig} {store : StateStore}
    {completed : Timestamp} {samples : List TargetSample} {targetId : String} {first last : ℤ}
    (hload : store.loadTargetSamples (cutoffUnixSeconds config completed) = .ok samples)
    (hdays : baseline.learningDays.toNat < config.state.retentionDays.toNat)
    (hgaps : (readAt targetId store.learningRows).IsChain fun a b => b ≤ a + 600)
    (hfirst : (readAt targetId store.learningRows).head? = some first)
    (hlast : (readAt targetId store.learningRows).getLast? = some last)
    (hlearned : first ≤ completed.asSecond - (baseline.learningDays.toNat : ℤ) * 86400)
    (hrecent : completed.asSecond - 600 ≤ last) :
    learningGate baseline samples targetId completed.asSecond = true := by
  rw [learningGate_iff hload]
  have hcutoff : cutoffUnixSeconds config completed =
      completed.asSecond - (config.state.retentionDays.toNat : ℤ) * 86400 := by
    have hnow := completed.asSecond_bounds
    have hretained := config.state.retentionDays.toNat_lt
    simp only [cutoffUnixSeconds, saturatingSub, saturate, i64Minimum, i64Maximum]
    omega
  obtain ⟨items, hreadings⟩ : ∃ items, readAt targetId store.learningRows = first :: items := by
    cases hreadings : readAt targetId store.learningRows with
    | nil =>
      rw [hreadings] at hfirst
      cases hfirst
    | cons head items =>
      rw [hreadings] at hfirst
      exact ⟨items, by rw [Option.some.inj hfirst]⟩
  have hreached : ∃ item ∈ first :: items, cutoffUnixSeconds config completed ≤ item := by
    refine ⟨last, ?_, ?_⟩
    · rw [← hreadings]
      exact List.mem_of_mem_getLast? hlast
    · omega
  rw [hreadings] at hgaps ⊢
  obtain ⟨oldest, holdest, hnear⟩ := head?_filter_reaching hgaps hreached
  refine ⟨oldest, holdest, ?_⟩
  rcases hnear with rfl | hnear
  · exact hlearned
  · omega

/-- **A valid configuration lets the learning gate open**, if it retains more
days than it learns: a member whose exact readings after its last ambiguous
count are at most ten minutes apart, began before the learning time and reach
the last ten minutes is compared with its baseline. -/
theorem learning_gate_opens {packages : Packages} {config : Config} {checkSecretFiles : Bool}
    (valid : config.validate packages checkSecretFiles = .ok ()) {baseline : BehavioralBaselineConfig}
    (hbaseline : config.behavioralBaseline = some baseline)
    (hdays : config.state.retentionDays ≠ baseline.learningDays) {store : StateStore} {completed : Timestamp}
    {samples : List TargetSample} (hload : store.loadTargetSamples (cutoffUnixSeconds config completed) = .ok samples)
    {targetId : String} (hmember : targetId ∈ baseline.targetIds) {first last : ℤ}
    (hgaps : (readAt targetId store.learningRows).IsChain fun a b => b ≤ a + 600)
    (hfirst : (readAt targetId store.learningRows).head? = some first)
    (hlast : (readAt targetId store.learningRows).getLast? = some last)
    (hlearned : first ≤ completed.asSecond - (baseline.learningDays.toNat : ℤ) * 86400)
    (hrecent : completed.asSecond - 600 ≤ last) :
    learningGate baseline samples targetId completed.asSecond = true ∧
      ∀ (profile : ConditionProfile) (report : TargetReport) (operational : OperationalObservation) (localHour : UInt8),
        report.id = targetId → report.complete = true → report.operational = some operational →
        evaluateTargetBehavior packages baseline profile report samples completed.asSecond localHour =
          behavioralEvaluations (.target report.id report.name) profile true
            (sameHourWindows packages baseline.timeZone localHour
              ((samples.filter (·.targetId = report.id)).map TargetSample.reading))
            (((samples.filter (·.targetId = report.id)).map TargetSample.reading).getLast?.bind fun previous =>
              windowBetween previous ⟨completed.asSecond, operational.queries, operational.blocked⟩ localHour)
            baseline.minimumSameHourSamples := by
  have hretained := retention_of_valid valid hbaseline
  have hmore : baseline.learningDays.toNat < config.state.retentionDays.toNat := by
    have hne : baseline.learningDays.toNat ≠ config.state.retentionDays.toNat :=
      fun h => hdays (UInt32.toNat_inj.mp h).symm
    omega
  have hgate := learningGate_of_readings hload hmore hgaps hfirst hlast hlearned hrecent
  refine ⟨hgate, fun profile report operational localHour hid hcomplete hoperational => ?_⟩
  rw [evaluateTargetBehavior_eq packages profile samples completed.asSecond localHour (hid ▸ hmember) hcomplete
    hoperational, hid, hgate]

/-! ### Readings every ten minutes -/

/-- One resolver that learns a day. -/
def learningConfig (retentionDays : UInt32) : Config :=
  { rewritesConfig [] with
    state := { retentionDays }
    behavioralBaseline := some ⟨["one"], "UTC", 1, 1⟩ }

/-- Exact readings every ten minutes of a day and five minutes. -/
def dailyMarks : List (ℕ × Bool) := (List.range 145).map fun n => (300 + 600 * n, true)

/-- The gate of a configuration on a store, if its samples can be read. -/
def gateAt (config : Config) (store : StateStore) (completed : Timestamp) : Option Bool :=
  (store.loadTargetSamples (cutoffUnixSeconds config completed)).toOption.map fun samples =>
    learningGate ⟨["one"], "UTC", 1, 1⟩ samples "one" completed.asSecond

/-- A day of readings opens the gate. -/
theorem learning_gate_opens_daily : gateAt (learningConfig 21) (readingsStore dailyMarks) (daySecond 87000) = some true := by
  have hvalid : (learningConfig 21).validate (packagesWith []) false = .ok () := by decide +kernel
  have hreadings : (readAt "one" (readingsStore dailyMarks).learningRows).IsChain (fun a b => b ≤ a + 600) ∧
      (readAt "one" (readingsStore dailyMarks).learningRows).head? = some 300 ∧
      (readAt "one" (readingsStore dailyMarks).learningRows).getLast? = some 86700 := by decide +kernel
  have hok : ((readingsStore dailyMarks).loadTargetSamples
      (cutoffUnixSeconds (learningConfig 21) (daySecond 87000))).toBool = true := by decide +kernel
  have hlearned : (300 : ℤ) ≤ (daySecond 87000).asSecond - (1 : ℕ) * 86400 ∧ (daySecond 87000).asSecond - 600 ≤ 86700 := by
    decide
  obtain ⟨samples, hload⟩ := Fallible.ok_of_toBool hok
  have hgate := (learning_gate_opens hvalid rfl (by decide) hload List.mem_cons_self hreadings.1 hreadings.2.1
    hreadings.2.2 hlearned.1 hlearned.2).1
  rw [gateAt, hload]
  exact congrArg some hgate

/-- A member's exact readings are ten minutes apart from before the learning
time until now, and its gate is closed. -/
def StaysClosed (retentionDays : UInt32) (marks : List (ℕ × Bool)) : Prop :=
  let readings := readAt "one" (readingsStore marks).exactRows
  let completed := daySecond 87000
  (learningConfig retentionDays).validate (packagesWith []) false = .ok () ∧
    readings.IsChain (fun a b => b ≤ a + 600) ∧ readings.head?.any (· ≤ completed.asSecond - 1 * 86400) ∧
    readings.getLast?.any (completed.asSecond - 600 ≤ ·) ∧
    gateAt (learningConfig retentionDays) (readingsStore marks) completed = some false

instance (retentionDays : UInt32) (marks : List (ℕ × Bool)) : Decidable (StaysClosed retentionDays marks) := by
  unfold StaysClosed
  infer_instance

/-- **A gate that stays closed**: an ambiguous count restarts what was learned,
and retention of the learning time alone keeps nothing that is old enough. -/
theorem learning_gate_stays_closed :
    StaysClosed 21 (dailyMarks ++ [(86800, false)]) ∧ StaysClosed 1 dailyMarks := by
  decide +kernel

end Sentinel
