/-
# Every window is learned in the hour it was judged

A check judges a member of the group by the window from its last stored sample
to what it just observed, in the local hour of the completion. What it observed
is then stored, so the last pair of what is read back later is that window, if
the member was complete, and no pair otherwise. The samples a later check reads
are sorted into 24 local hours, each window into its own.

Key theorems: `evaluateTargetBehavior_live`, `Judged.learned`, `windows_learned_once`.
-/
import Sentinel.Cli.Report
import Sentinel.Core.Behavior
import Sentinel.Delivery.Recollect

namespace Sentinel

open Collections CrashTxn

/-! ### The window a check judges -/

/-- The window from a member's last sample to what a check observed of it. -/
def liveWindow (samples : List TargetSample) (nowUnixSeconds : ℤ) (localHour : UInt8) (target : TargetReport) :
    Option RateWindow :=
  if target.complete then target.operational.bind fun value =>
    (readingsOf target.id samples).getLast?.bind fun previous =>
      windowBetween previous ⟨nowUnixSeconds, value.queries, value.blocked⟩ localHour
  else none

/-- **The window a check judges** is the live one; a member that is not
complete is not judged. -/
theorem evaluateTargetBehavior_live (packages : Packages) {baseline : BehavioralBaselineConfig} (profile : ConditionProfile)
    (target : TargetReport) (samples : List TargetSample) (nowUnixSeconds : ℤ) (localHour : UInt8)
    (hmember : target.id ∈ baseline.targetIds) :
    evaluateTargetBehavior packages baseline profile target samples nowUnixSeconds localHour =
      if target.complete && target.operational.isSome then
        behavioralEvaluations (.target target.id target.name) profile
          (learningGate baseline samples target.id nowUnixSeconds)
          (sameHourWindows packages baseline.timeZone localHour (readingsOf target.id samples))
          (liveWindow samples nowUnixSeconds localHour target) baseline.minimumSameHourSamples
      else [] := by
  cases hoperational : target.operational with
  | none =>
    unfold evaluateTargetBehavior
    rw [if_neg (not_not.mpr hmember), hoperational]
    simp
  | some value =>
    cases hcomplete : target.complete with
    | false =>
      unfold evaluateTargetBehavior
      rw [if_neg (not_not.mpr hmember), hoperational]
      simp [hcomplete]
    | true =>
      rw [evaluateTargetBehavior_eq packages profile samples nowUnixSeconds localHour hmember hcomplete hoperational]
      unfold liveWindow
      rw [hcomplete, hoperational]
      rfl

/-! ### Sequences of checks -/

/-- The local time of an instant is that of its whole second, and its hour is
one of the day's. -/
structure WholeHours (packages : Packages) (timeZone : String) : Prop where
  second : ∀ t : Timestamp, localTimeBucket packages t timeZone =
    (Timestamp.new t.asSecond 0).bind (localTimeBucket packages · timeZone)
  hour : ∀ (t : Timestamp) (localHour : UInt8) (offset : ℤ),
    localTimeBucket packages t timeZone = some (localHour, offset) → localHour.toNat < 24

/-- **A sequence of committed checks** whose group has a member, in a zone: the
windows the member was judged by, the commits with their retention cutoffs, and
the database. No run is older than the retention of a check. -/
inductive Judged (packages : Packages) (timeZone targetId : String) :
    List RateWindow → List (RunReport × Timestamp) → StateStore → Prop
  | start : Judged packages timeZone targetId [] [] .empty
  | check {windows : List RateWindow} {commits : List (RunReport × Timestamp)} {store : StateStore} {config : Config}
      {baseline : BehavioralBaselineConfig} {report : RunReport} {samples : List TargetSample} {localHour : UInt8}
      {offset : ℤ} {cutoff : Timestamp} {uuids : ℕ → String} {now : ℤ} {suppress : Bool} {committed : Committed}
      (judged : Judged packages timeZone targetId windows commits store)
      (declared : config.behavioralBaseline = some baseline) (zone : baseline.timeZone = timeZone)
      (member : targetId ∈ baseline.targetIds)
      (bucket : localTimeBucket packages report.completedAt timeZone = some (localHour, offset))
      (loads : store.loadTargetSamples (cutoffUnixSeconds config report.completedAt) = .ok samples)
      (retains : retentionCutoff config report.completedAt = .ok cutoff)
      (ok : store.commitRun uuids report config now cutoff suppress = .ok committed)
      (within : ∀ commit ∈ commits ++ [(report, cutoff)], cutoff ≤ commit.1.completedAt) :
      Judged packages timeZone targetId
        (windows ++ (report.targets.filter (·.id = targetId)).filterMap
          (liveWindow samples report.completedAt.asSecond localHour))
        (commits ++ [(report, cutoff)]) committed.store
  | claim {windows : List RateWindow} {commits : List (RunReport × Timestamp)} {store store' : StateStore}
      {uuid messageId executingRunId : String} {startedAt : Timestamp} {attempt : NotificationAttempt}
      (judged : Judged packages timeZone targetId windows commits store)
      (ok : store.beginNotificationAttempt uuid messageId startedAt executingRunId = .ok (store', attempt)) :
      Judged packages timeZone targetId windows commits store'
  | record {windows : List RateWindow} {commits : List (RunReport × Timestamp)} {store store' : StateStore}
      {attempt : NotificationAttempt} {completedAt : Timestamp} {outcome : NotificationAttemptOutcome}
      {report : NotificationReport} (judged : Judged packages timeZone targetId windows commits store)
      (ok : store.recordNotificationAttempt attempt completedAt outcome = .ok (store', report)) :
      Judged packages timeZone targetId windows commits store'
  | recover {windows : List RateWindow} {commits : List (RunReport × Timestamp)} {store store' : StateStore}
      {recoveredAt : Timestamp} (judged : Judged packages timeZone targetId windows commits store)
      (left : store' ∈ crashStates (StateStore.recoverInterruptedAttempts recoveredAt) store) :
      Judged packages timeZone targetId windows commits store'
  | refresh {windows : List RateWindow} {commits : List (RunReport × Timestamp)} {store store' : StateStore}
      {runId : String} (judged : Judged packages timeZone targetId windows commits store)
      (ok : store.refreshRunDelivery runId = .ok store') : Judged packages timeZone targetId windows commits store'

/-! ### What is read back of a member -/

theorem readingsOf_append (targetId : String) (samples samples' : List TargetSample) :
    readingsOf targetId (samples ++ samples') = readingsOf targetId samples ++ readingsOf targetId samples' := by
  simp [readingsOf]

theorem countedSamples_concat (reports : List RunReport) (report : RunReport) :
    countedSamples (reports ++ [report]) =
      countedSamples reports ++ (orderBy (·.id) report.targets).filterMap (countedSample report) := by
  unfold countedSamples reported
  rw [List.flatMap_append, List.filterMap_append, List.flatMap_singleton, List.filterMap_map]
  rfl

theorem countedSample_targetId {report : RunReport} {target : TargetReport} {sample : TargetSample}
    (h : countedSample report target = some sample) : sample.targetId = target.id := by
  unfold countedSample at h
  split at h
  · obtain ⟨value, -, rfl⟩ := Option.map_eq_some_iff.mp h
    rfl
  · cases h

/-- The readings a run adds to a member's. -/
theorem readingsOf_run (targetId : String) (report : RunReport) :
    readingsOf targetId ((orderBy (·.id) report.targets).filterMap (countedSample report)) =
      ((report.targets.filter (·.id = targetId)).filterMap (countedSample report)).map TargetSample.reading := by
  have hown : orderBy (·.id) (report.targets.filter (·.id = targetId)) = report.targets.filter (·.id = targetId) := by
    refine orderBy_eq_self (List.pairwise_of_forall_mem_list fun a ha b hb => ?_)
    rw [of_decide_eq_true (List.mem_filter.mp ha).2, of_decide_eq_true (List.mem_filter.mp hb).2]
  rw [readingsOf, List.filter_filterMap, ← hown, orderBy_filter, List.filterMap_filter]
  refine congrArg (List.map TargetSample.reading) (List.filterMap_congr fun target _ => ?_)
  cases hsample : countedSample report target with
  | none => simp
  | some sample =>
    have hid := countedSample_targetId hsample
    by_cases htarget : target.id = targetId <;> simp [Option.filter, hid, htarget]

/-! ### Windows by hour -/

/-- What two consecutive readings measured, in the hour of the later. -/
def measuredWindow (packages : Packages) (timeZone : String) (pair : Reading × Reading) : Option RateWindow :=
  (localHourOf packages pair.2.timestamp timeZone).bind fun hour => windowBetween pair.1 pair.2 hour

theorem sameHourWindows_bucket (packages : Packages) (timeZone : String) (localHour : UInt8) (readings : List Reading) :
    sameHourWindows packages timeZone localHour readings = (pairs readings).filterMap fun pair =>
      if localHourOf packages pair.2.timestamp timeZone = some localHour then windowBetween pair.1 pair.2 localHour
      else none := by
  refine List.filterMap_congr fun pair _ => ?_
  obtain ⟨previous, current⟩ := pair
  show (localHourOf packages current.timestamp timeZone).bind _ = _
  cases localHourOf packages current.timestamp timeZone with
  | none => rfl
  | some hour =>
    by_cases hsame : hour = localHour
    · simp [hsame]
    · simp [hsame]

section Hours

variable {packages : Packages} {timeZone : String}

theorem WholeHours.localHourOf_eq (hours : WholeHours packages timeZone) (t : Timestamp) :
    localHourOf packages t.asSecond timeZone = (localTimeBucket packages t timeZone).map Prod.fst := by
  rw [hours.second t, localHourOf]
  cases Timestamp.new t.asSecond 0 <;> rfl

/-- **Every window is in one of the day's hours**: its own. -/
theorem WholeHours.perm_sameHourWindows (hours : WholeHours packages timeZone) (readings : List Reading) :
    ((pairs readings).filterMap (measuredWindow packages timeZone)).Perm
      ((List.range 24).flatMap fun hour => sameHourWindows packages timeZone (UInt8.ofNat hour) readings) := by
  have hday : ∀ (pair : Reading × Reading) (hour : UInt8), localHourOf packages pair.2.timestamp timeZone = some hour →
      hour ∈ (List.range 24).map UInt8.ofNat := by
    intro pair hour hhour
    obtain ⟨value, -, hvalue⟩ := Option.bind_eq_some_iff.mp hhour
    obtain ⟨⟨localHour, offset⟩, hbucket, rfl⟩ := Option.map_eq_some_iff.mp hvalue
    refine List.mem_map.mpr ⟨localHour.toNat, List.mem_range.mpr (hours.hour value localHour offset hbucket), ?_⟩
    exact UInt8.ofNat_toNat
  have hperm := perm_flatMap_buckets (g := fun hour (pair : Reading × Reading) => windowBetween pair.1 pair.2 hour)
    (show ((List.range 24).map UInt8.ofNat).Nodup by decide) hday (pairs readings)
  rw [List.flatMap_map] at hperm
  simp only [sameHourWindows_bucket]
  exact hperm.symm

end Hours

/-! ### One more check -/

section Judged

variable {packages : Packages} {timeZone targetId : String} {windows : List RateWindow}
  {commits : List (RunReport × Timestamp)} {store : StateStore}

/-- A target's report is stored once. -/
theorem IsCommitted.nodup_targets {report : RunReport} {suppress : Bool} {cutoff : Timestamp} {committed : Committed}
    {latching : Latching} {persisted : StateStore}
    (h : IsCommitted report suppress cutoff store committed latching persisted) : (report.targets.map (·.id)).Nodup := by
  obtain ⟨run, -, hrecords⟩ := h.records
  have hids := Fallible.map_eq_map_of_forall₂ ((targetTable_eq_ok hrecords.targets).imp fun target row hrow =>
    (observes_targetRow hrow).targetId.symm)
  rw [hids]
  exact run.targets.distinct

/-- At most one report is a target's. -/
theorem filter_target_cases {reports : List TargetReport} (hnodup : (reports.map (·.id)).Nodup) (targetId : String) :
    reports.filter (·.id = targetId) = [] ∨
      ∃ target, target.id = targetId ∧ reports.filter (·.id = targetId) = [target] := by
  have hids : ∀ target ∈ reports.filter (·.id = targetId), target.id = targetId :=
    fun target htarget => of_decide_eq_true (List.mem_filter.mp htarget).2
  have hdistinct := hnodup.sublist ((List.filter_sublist (p := fun target => decide (target.id = targetId))).map _)
  cases hown : reports.filter (·.id = targetId) with
  | nil => exact .inl rfl
  | cons target rest =>
    rw [hown] at hids hdistinct
    cases rest with
    | nil => exact .inr ⟨target, hids target List.mem_cons_self, rfl⟩
    | cons other rest =>
      have hsame : target.id = other.id := by
        rw [hids target List.mem_cons_self, hids other (List.mem_cons_of_mem _ List.mem_cons_self)]
      exact absurd (List.mem_map.mpr ⟨other, List.mem_cons_self, hsame.symm⟩) (List.nodup_cons.mp hdistinct).1

/-- **What a check judges is what it stores**: the reading it adds to a member's
makes the window it judged the member by. -/
theorem measured_concat (hours : WholeHours packages timeZone) {report : RunReport} {localHour : UInt8} {offset : ℤ}
    (bucket : localTimeBucket packages report.completedAt timeZone = some (localHour, offset))
    (hnodup : (report.targets.map (·.id)).Nodup) (samples : List TargetSample) :
    (pairs (readingsOf targetId samples ++
        ((report.targets.filter (·.id = targetId)).filterMap (countedSample report)).map TargetSample.reading)).filterMap
          (measuredWindow packages timeZone) =
      (pairs (readingsOf targetId samples)).filterMap (measuredWindow packages timeZone) ++
        (report.targets.filter (·.id = targetId)).filterMap
          (liveWindow samples report.completedAt.asSecond localHour) := by
  rcases filter_target_cases hnodup targetId with hnone | ⟨target, rfl, hone⟩
  · simp [hnone]
  · rw [hone]
    cases hsample : countedSample report target with
    | none =>
      have hlive : liveWindow samples report.completedAt.asSecond localHour target = none := by
        unfold countedSample at hsample
        unfold liveWindow
        split at hsample
        · rw [if_pos ‹_›, Option.map_eq_none_iff.mp hsample]
          rfl
        · rw [if_neg ‹_›]
      simp [hsample, hlive]
    | some sample =>
      have hhour : localHourOf packages report.completedAt.asSecond timeZone = some localHour := by
        rw [hours.localHourOf_eq, bucket]
        rfl
      have hlive : liveWindow samples report.completedAt.asSecond localHour target =
          (readingsOf target.id samples).getLast?.bind fun previous =>
            measuredWindow packages timeZone (previous, sample.reading) := by
        unfold countedSample at hsample
        unfold liveWindow
        split at hsample
        · obtain ⟨value, hvalue, rfl⟩ := Option.map_eq_some_iff.mp hsample
          rw [if_pos ‹_›, hvalue]
          simp only [measuredWindow, TargetSample.reading, hhour, Option.bind_some]
        · cases hsample
      simp only [List.filterMap_cons_some hsample, List.filterMap_nil, List.map_cons, List.map_nil]
      rw [pairs_concat, List.filterMap_append]
      refine congrArg _ ?_
      simp only [List.filterMap_cons, List.filterMap_nil, hlive]
      cases (readingsOf target.id samples).getLast? with
      | none => rfl
      | some previous =>
        show List.filterMap _ [(previous, sample.reading)] = _
        cases hmeasured : measuredWindow packages timeZone (previous, sample.reading) <;> simp [hmeasured]

/-- What is so of every sequence of checks: nothing is deleted, and the windows
judged are those measured between the readings stored. -/
structure Learned (packages : Packages) (timeZone targetId : String) (windows : List RateWindow)
    (commits : List (RunReport × Timestamp)) (store : StateStore) : Prop where
  transcribed : Transcribed commits (commits.map Prod.fst) store
  retained : ∀ commit ∈ commits, ∀ later ∈ commits, commit.2 ≤ later.1.completedAt
  windows : windows = (pairs (readingsOf targetId (countedSamples (commits.map Prod.fst)))).filterMap
    (measuredWindow packages timeZone)

/-- What is loaded of a member since before every run is every reading of it. -/
theorem Learned.load (h : Learned packages timeZone targetId windows commits store) {cutoff : ℤ} {samples : List TargetSample}
    (within : ∀ commit ∈ commits, cutoff ≤ commit.1.completedAt.asSecond)
    (loads : store.loadTargetSamples cutoff = .ok samples) : samples = countedSamples (commits.map Prod.fst) := by
  rw [h.transcribed.loadTargetSamples] at loads
  obtain rfl := Except.ok.inj loads
  refine List.filter_eq_self.mpr fun sample hsample => decide_eq_true ?_
  obtain ⟨⟨report, target⟩, hentry, hsample⟩ := List.mem_filterMap.mp hsample
  obtain ⟨report', hreport, hentry⟩ := List.mem_flatMap.mp hentry
  obtain ⟨target', -, hentry⟩ := List.mem_map.mp hentry
  obtain ⟨rfl, rfl⟩ := Prod.mk.inj hentry
  obtain ⟨commit, hcommit, rfl⟩ := List.mem_map.mp hreport
  have htime : sample.timestamp = commit.1.completedAt.asSecond := by
    have hsample : countedSample commit.1 target' = some sample := hsample
    unfold countedSample at hsample
    split at hsample
    · obtain ⟨value, -, rfl⟩ := Option.map_eq_some_iff.mp hsample
      rfl
    · cases hsample
  rw [htime]
  exact within commit hcommit

/-- A run that retention spares is read back. -/
theorem cutoffUnixSeconds_le {config : Config} {completed cutoff : Timestamp}
    (retains : retentionCutoff config completed = .ok cutoff) {later : Timestamp} (h : cutoff ≤ later) :
    cutoffUnixSeconds config completed ≤ later.asSecond := by
  have hnew := Fallible.demand_eq_ok_iff.mp retains
  unfold Timestamp.new at hnew
  dsimp only at hnew
  split at hnew
  · obtain rfl := Option.some.inj hnew
    have hle : cutoffUnixSeconds config completed * nanosecondsPerSecond + 0 ≤ later.nanoseconds := h
    rw [Int.add_zero] at hle
    unfold Timestamp.asSecond
    calc cutoffUnixSeconds config completed
        = (cutoffUnixSeconds config completed * nanosecondsPerSecond).tdiv nanosecondsPerSecond :=
          (Int.mul_tdiv_cancel _ (by decide)).symm
      _ ≤ later.nanoseconds.tdiv nanosecondsPerSecond := Int.tdiv_le_tdiv (by decide) hle
  · cases hnew

/-- **One more check** learns the windows it judged. -/
theorem Learned.check (h : Learned packages timeZone targetId windows commits store)
    (hours : WholeHours packages timeZone) {config : Config} {report : RunReport} {samples : List TargetSample}
    {localHour : UInt8} {offset : ℤ} {cutoff : Timestamp} {uuids : ℕ → String} {now : ℤ} {suppress : Bool}
    {committed : Committed} (bucket : localTimeBucket packages report.completedAt timeZone = some (localHour, offset))
    (loads : store.loadTargetSamples (cutoffUnixSeconds config report.completedAt) = .ok samples)
    (retains : retentionCutoff config report.completedAt = .ok cutoff)
    (ok : store.commitRun uuids report config now cutoff suppress = .ok committed)
    (within : ∀ commit ∈ commits ++ [(report, cutoff)], cutoff ≤ commit.1.completedAt) :
    Learned packages timeZone targetId
      (windows ++ (report.targets.filter (·.id = targetId)).filterMap
        (liveWindow samples report.completedAt.asSecond localHour))
      (commits ++ [(report, cutoff)]) committed.store := by
  obtain ⟨latching, persisted, hcommitted⟩ := commitRun_eq_ok ok
  have hlater : ∀ commit ∈ commits, commit.1.completedAt ≤ report.completedAt := by
    intro commit hcommit
    obtain ⟨run, hrun, hrecords⟩ := Fallible.exists_of_forall₂_left h.transcribed.records commit.1
      (List.mem_map_of_mem hcommit)
    rw [← hrecords.completedAt]
    exact (hcommitted.clock.2 run hrun).trans hcommitted.clock.1
  have hretained : ∀ commit ∈ commits ++ [(report, cutoff)], ∀ later ∈ commits ++ [(report, cutoff)],
      commit.2 ≤ later.1.completedAt := by
    intro commit hcommit later hmem
    rcases List.mem_append.mp hcommit with hold | hnew
    · rcases List.mem_append.mp hmem with hmem | hmem
      · exact h.retained commit hold later hmem
      · obtain rfl := List.mem_singleton.mp hmem
        exact (h.retained commit hold commit hold).trans (hlater commit hold)
    · obtain rfl := List.mem_singleton.mp hnew
      exact within later hmem
  have htranscribed := hcommitted.transcribed h.transcribed
  rw [htranscribed.kept_eq hretained] at htranscribed
  have hload := h.load (fun commit hcommit => cutoffUnixSeconds_le retains
    (within commit (List.mem_append_left _ hcommit))) loads
  refine ⟨htranscribed, hretained, ?_⟩
  rw [List.map_append, List.map_singleton, countedSamples_concat, readingsOf_append, readingsOf_run, ← hload,
    measured_concat hours bucket hcommitted.nodup_targets, hload, ← h.windows]

theorem Learned.delivered (h : Learned packages timeZone targetId windows commits store) {store' : StateStore}
    (hsame : SameHistory store store') : Learned packages timeZone targetId windows commits store' :=
  ⟨h.transcribed.delivered hsame, h.retained, h.windows⟩

/-- **Every sequence of checks learns what it judged.** -/
theorem Judged.learned (judged : Judged packages timeZone targetId windows commits store)
    (hours : WholeHours packages timeZone) : Learned packages timeZone targetId windows commits store := by
  induction judged with
  | start => exact ⟨⟨.nil, .nil, .slnil, fun _ _ => rfl⟩, fun _ hm => absurd hm List.not_mem_nil, rfl⟩
  | check _ _ _ _ bucket loads retains ok within ih => exact ih.check hours bucket loads retains ok within
  | claim _ ok ih => exact ih.delivered (keeps_of_claim ok).1
  | record _ ok ih => exact ih.delivered (keeps_of_record ok).1
  | recover _ left ih => exact ih.delivered (keeps_of_recover left).1
  | refresh _ ok ih => exact ih.delivered (keeps_of_refresh ok).1

/-- **Every measured window is learned once, in the hour it was judged.** The
windows the checks judged a member by, each with its local hour, are those a
later check learns from, over the hours of the day. -/
theorem windows_learned_once (hours : WholeHours packages timeZone)
    (judged : Judged packages timeZone targetId windows commits store) {cutoff : ℤ} {samples : List TargetSample}
    (within : ∀ commit ∈ commits, cutoff ≤ commit.1.completedAt.asSecond)
    (loads : store.loadTargetSamples cutoff = .ok samples) :
    windows.Perm ((List.range 24).flatMap fun hour =>
      sameHourWindows packages timeZone (UInt8.ofNat hour) (readingsOf targetId samples)) := by
  have hlearned := judged.learned hours
  rw [hlearned.load within loads, hlearned.windows]
  exact hours.perm_sameHourWindows _

end Judged

/-! ### Two checks across an hour -/

theorem localTimeBucket_universalTime (t : Timestamp) (timeZone : String) :
    localTimeBucket universalTime t timeZone = some (UInt8.ofNat (t.asSecond / 3600 % 24).toNat, 0) := by
  have hhour : 0 ≤ t.asSecond / 3600 % 24 ∧ t.asSecond / 3600 % 24 < 256 := by omega
  exact if_pos hhour

theorem wholeHours_universalTime : WholeHours universalTime "UTC" where
  second t := by
    have hbounds := t.asSecond_bounds
    have hnew : ∃ whole, Timestamp.new t.asSecond 0 = some whole ∧ whole.asSecond = t.asSecond := by
      unfold Timestamp.new
      dsimp only
      rw [dif_pos (by unfold nanosecondsPerSecond; omega)]
      refine ⟨_, rfl, ?_⟩
      show (t.asSecond * nanosecondsPerSecond + 0).tdiv nanosecondsPerSecond = t.asSecond
      rw [Int.add_zero, Int.mul_tdiv_cancel _ (by decide)]
    obtain ⟨whole, hwhole, hsecond⟩ := hnew
    rw [hwhole, Option.bind_some]
    rw [localTimeBucket_universalTime, localTimeBucket_universalTime, hsecond]
  hour t localHour offset h := by
    rw [localTimeBucket_universalTime] at h
    rw [← (Prod.mk.inj (Option.some.inj h)).1, UInt8.toNat_ofNat']
    omega

/-- One resolver, whose runs are kept three weeks. -/
def memberConfig : Config :=
  { rewritesConfig [] with state := { retentionDays := 21 }, behavioralBaseline := some ⟨["one"], "UTC", 1, 1⟩ }

/-- A run that read a counter of the resolver. -/
def memberReport (runId : String) (seconds : ℕ) (queries : UInt64) : RunReport :=
  { apiReport runId .clear 0 with
    startedAt := daySecond seconds
    completedAt := daySecond seconds
    evaluations := []
    targets := [reportOf "one" queries] }

/-- Three weeks before an instant of the first days. -/
def weeksBefore (seconds : ℕ) : Timestamp :=
  ⟨((min seconds 1000000 : ℕ) - 1814400 : ℤ) * 1000000000, by unfold nanosecondsPerSecond; omega,
    by unfold nanosecondsPerSecond; omega⟩

/-- Two runs, in the last minutes of the first hour and the first of the next. -/
def checkTwice : Except StoreError Committed := do
  let committed ← StateStore.empty.commitRun (fun _ => "") (memberReport "first" 3500 7) memberConfig 3500
    (weeksBefore 3500) true
  committed.store.commitRun (fun _ => "") (memberReport "next" 3700 17) memberConfig 3700 (weeksBefore 3700) true

/-- The window across the hour is judged in the later hour, and learned there. -/
theorem windows_learned_once_hour : ∃ windows commits store samples,
    Judged universalTime "UTC" "one" windows commits store ∧
    windows = [windowOf 1 (⟨3500, 7, 0⟩, ⟨3700, 17, 0⟩)] ∧ store.loadTargetSamples 0 = .ok samples ∧
    windows.Perm ((List.range 24).flatMap fun hour =>
      sameHourWindows universalTime "UTC" (UInt8.ofNat hour) (readingsOf "one" samples)) := by
  have hrun : checkTwice.toBool = true := by decide +kernel
  obtain ⟨committed, htwice⟩ := Fallible.ok_of_toBool hrun
  obtain ⟨earlier, hfirst, hnext⟩ := Fallible.bind_eq_ok_iff.mp htwice
  have hdeclared : memberConfig.behavioralBaseline = some ⟨["one"], "UTC", 1, 1⟩ := rfl
  have hbucket : localTimeBucket universalTime (memberReport "first" 3500 7).completedAt "UTC" = some (0, 0) := by
    decide +kernel
  have hbucket' : localTimeBucket universalTime (memberReport "next" 3700 17).completedAt "UTC" = some (1, 0) := by
    decide +kernel
  have hretains : retentionCutoff memberConfig (memberReport "first" 3500 7).completedAt = .ok (weeksBefore 3500) := rfl
  have hretains' : retentionCutoff memberConfig (memberReport "next" 3700 17).completedAt = .ok (weeksBefore 3700) := rfl
  have hstart : Judged universalTime "UTC" "one" [] [] .empty := .start
  have hjudged := hstart.check hdeclared rfl List.mem_cons_self hbucket rfl hretains hfirst (by decide)
  have hsamples := (hjudged.learned wholeHours_universalTime).transcribed.loadTargetSamples
    (cutoffUnixSeconds memberConfig (memberReport "next" 3700 17).completedAt)
  have hboth := hjudged.check hdeclared rfl List.mem_cons_self hbucket' hsamples hretains' hnext (by decide)
  have hload := (hboth.learned wholeHours_universalTime).transcribed.loadTargetSamples 0
  refine ⟨_, _, _, _, hboth, ?_, hload, windows_learned_once wholeHours_universalTime hboth (by decide) hload⟩
  decide +kernel

end Sentinel
