/-
# The aggregate observation

What an aggregate observation holds, from what it is built of: the ratio of
sums of which no part exceeds its whole is between zero and one, the oldest
reading is not younger than now, and windows are no more than the seconds
their readings span.

Key theorems: `inUnit_shareOf`, `length_sameHourWindows_le`, `aggregateObservation_spec`.
-/
import Sentinel.Core.GroupWindow
import Sentinel.Lib.Binary64Order

namespace Sentinel

open Collections

/-- A share of a total is between zero and one. -/
theorem inUnit_shareOf {part total : UInt64} (h : part ≤ total) : (shareOf part total).InUnit := by
  unfold shareOf
  split
  case isTrue =>
    have hzero : (Binary64.ofNat 0).le (.ofNat 0) = true ∧ (Binary64.ofNat 0).le (.ofNat 1) = true := by decide +kernel
    exact hzero
  case isFalse hne =>
    have hpositive : 0 < total.toNat := Nat.pos_of_ne_zero fun hzero => hne (UInt64.toNat_inj.mp hzero)
    exact Binary64.inUnit_div_ofNat (UInt64.le_iff_toNat_le.mp h) hpositive total.toNat_lt

/-! ### The members' sums -/

theorem combined_blocked_le {members : List (TargetReport × OperationalObservation)} {nowUnixSeconds : ℤ}
    {combined : Reading} (h : currentCombined members nowUnixSeconds = some combined)
    (hmembers : ∀ member ∈ members, member.2.blocked ≤ member.2.queries) : combined.blocked ≤ combined.queries := by
  simp only [currentCombined, Option.bind_eq_bind, Option.bind_eq_some_iff] at h
  obtain ⟨queries, hqueries, blocked, hblocked, h⟩ := h
  obtain rfl := Option.some.inj h
  have hsums : (members.map fun member => member.2.blocked.toNat).sum ≤
      (members.map fun member => member.2.queries.toNat).sum :=
    List.sum_le_sum fun member hmember => UInt64.le_iff_toNat_le.mp (hmembers member hmember)
  rw [UInt64.le_iff_toNat_le]
  have htotal := foldlM_checkedAdd (fun member : TargetReport × OperationalObservation => member.2.queries) members 0
    queries hqueries
  have hpart := foldlM_checkedAdd (fun member : TargetReport × OperationalObservation => member.2.blocked) members 0
    blocked hblocked
  show blocked.toNat ≤ queries.toNat
  omega

theorem mem_groupMembers {config : BehavioralBaselineConfig} {targetReports : List TargetReport}
    {members : List (TargetReport × OperationalObservation)} (h : groupMembers config targetReports = some members)
    {member : TargetReport × OperationalObservation} (hmember : member ∈ members) :
    member.1 ∈ targetReports ∧ member.1.operational = some member.2 := by
  obtain ⟨id, -, hid⟩ := Fallible.exists_of_forall₂_right (Fallible.mapM_eq_some_iff.mp h) member hmember
  simp only [Option.bind_eq_bind, Option.bind_eq_some_iff] at hid
  obtain ⟨report, hreport, operational, hoperational, hid⟩ := hid
  split at hid
  · obtain rfl := Option.some.inj hid
    exact ⟨List.mem_reverse.mp (List.mem_of_find?_eq_some hreport), hoperational⟩
  · cases hid

/-! ### The group's readings -/

theorem CombinedEntry.add_timestamp {sample : TargetSample} {entry entry' : CombinedEntry}
    (h : entry.add sample = some entry') : entry'.timestamp = entry.timestamp := by
  unfold CombinedEntry.add at h
  split at h
  · rw [Option.some.inj h]
  · simp only [Option.bind_eq_bind, Option.bind_eq_some_iff] at h
    obtain ⟨_, -, _, -, h⟩ := h
    obtain rfl := Option.some.inj h
    rfl

/-- **A reading of the group is timed as a sample**, in the samples' order. -/
theorem timestamps_of_combinedReadings {config : BehavioralBaselineConfig} {samples : List TargetSample}
    {readings : List Reading} (h : combinedReadings config samples = some readings) :
    (readings.map (·.timestamp)).Sublist (samples.map (·.timestamp)) := by
  obtain ⟨entries, hentries, rfl⟩ := Option.map_eq_some_iff.mp h
  obtain ⟨all, hall, rfl⟩ := Option.map_eq_some_iff.mp hentries
  have htimes : (all.map (·.timestamp)).Sublist (samples.map (·.timestamp)) := by
    have hstart : (([] : List CombinedEntry).map (·.timestamp)).Sublist (([] : List TargetSample).map (·.timestamp)) :=
      .slnil
    refine Fallible.foldlM_some (I := fun (done : List TargetSample) (entries : List CombinedEntry) =>
      (entries.map (·.timestamp)).Sublist (done.map (·.timestamp))) (fun done sample entries entries' hI hstep => ?_) hstart hall
    rw [List.map_append]
    unfold combineSample at hstep
    split at hstep
    case isFalse =>
      obtain rfl := Option.some.inj hstep
      exact hI.trans (List.sublist_append_left _ _)
    case isTrue =>
      have hkept : entries'.map (·.timestamp) = (withEntry sample entries).map (·.timestamp) :=
        (Fallible.map_eq_map_of_forall₂ ((Fallible.mapM_eq_some_iff.mp hstep).imp fun _ _ hadd =>
          (CombinedEntry.add_timestamp hadd).symm)).symm
      rw [hkept]
      unfold withEntry
      split
      · exact hI.trans (List.sublist_append_left _ _)
      · rw [List.map_append]
        exact hI.append (List.Sublist.refl _)
  rw [List.map_map]
  exact (List.filter_sublist.map _).trans htimes

/-! ### Windows -/

theorem lt_of_withinGap {previous current : ℤ} (h : withinGap previous current = true) : previous < current := by
  by_contra hle
  have hzero := Binary64.ofInt_le_zero (show current - previous ≤ 0 by omega)
  simp only [withinGap, hzero, Bool.not_true, Bool.and_false, Bool.false_and, Bool.false_eq_true] at h

/-- **Windows are no more than the seconds they span.** -/
theorem length_sameHourWindows_le (packages : Packages) (timeZone : String) (localHour : UInt8) {readings : List Reading}
    {low high : ℤ} (hsorted : readings.Pairwise fun a b => a.timestamp ≤ b.timestamp)
    (hrange : ∀ reading ∈ readings, low ≤ reading.timestamp ∧ reading.timestamp ≤ high) (hroom : low ≤ high) :
    ((sameHourWindows packages timeZone localHour readings).length : ℤ) ≤ high - low := by
  have hrises := countP_pairs_lt_le hsorted hrange hroom
  have hwindows : (sameHourWindows packages timeZone localHour readings).length ≤
      (pairs readings).countP fun pair => pair.1.timestamp < pair.2.timestamp := by
    rw [sameHourWindows, List.length_filterMap_eq_countP]
    refine List.countP_mono_left fun pair _ hwindow => ?_
    obtain ⟨window, hwindow⟩ := Option.isSome_iff_exists.mp hwindow
    obtain ⟨hour, -, hwindow⟩ := Option.bind_eq_some_iff.mp hwindow
    split at hwindow
    · cases hwindow
    · have hsome := Option.isSome_of_eq_some hwindow
      rw [windowBetween_isSome_iff] at hsome
      exact decide_eq_true (lt_of_withinGap hsome.1)
  omega

/-! ### The observation -/

section Observation

variable {packages : Packages} {config : BehavioralBaselineConfig} {profile : ConditionProfile}
  {samples : List TargetSample} {targetReports : List TargetReport} {nowUnixSeconds utcOffsetMinutes : ℤ}
  {localHour : UInt8} {result : AggregateEvaluation}

/-- What an aggregate observation is kept to. -/
structure AggregateObservation.Bounded (observation : AggregateObservation) : Prop where
  localHour : observation.localHour.toNat ≤ 23
  ratio : observation.combinedBlockedRatio.InUnit
  age : 0 ≤ observation.baselineAgeSeconds
  samples : (observation.sameHourSamples : ℤ) ≤ i64Maximum

/-- **The oldest reading is not younger than now**, if no sample is later. -/
theorem baselineAgeSeconds_nonneg
    (h : evaluateAggregate packages config profile samples targetReports nowUnixSeconds localHour utcOffsetMinutes =
      some result)
    (hearlier : ∀ sample ∈ samples, sample.timestamp ≤ nowUnixSeconds) : 0 ≤ result.observation.baselineAgeSeconds := by
  simp only [evaluateAggregate, Option.bind_eq_bind, Option.bind_eq_some_iff] at h
  obtain ⟨_, -, _, -, readings, hreadings, h⟩ := h
  obtain rfl := Option.some.inj h
  cases hfirst : readings.head? with
  | none => exact le_rfl
  | some oldest =>
    obtain ⟨sample, hsample, htime⟩ := List.mem_map.mp ((timestamps_of_combinedReadings hreadings).subset
      (List.mem_map_of_mem (List.mem_of_mem_head? hfirst)))
    have holdest := hearlier sample hsample
    show 0 ≤ saturatingSub nowUnixSeconds oldest.timestamp
    simp only [saturatingSub, saturate, i64Minimum, i64Maximum]
    omega

/-- **An aggregate observation is within its bounds**, if no member blocked more
than it was asked and the samples are in order, up to now. -/
theorem aggregateObservation_spec
    (h : evaluateAggregate packages config profile samples targetReports nowUnixSeconds localHour utcOffsetMinutes =
      some result)
    (hhour : localHour.toNat ≤ 23)
    (hblocked : ∀ report ∈ targetReports, ∀ value ∈ report.operational, value.blocked ≤ value.queries)
    (hsorted : samples.Pairwise fun a b => a.timestamp ≤ b.timestamp)
    (hrange : ∀ sample ∈ samples, -377705023201 ≤ sample.timestamp ∧ sample.timestamp ≤ nowUnixSeconds)
    (hnow : -377705023201 ≤ nowUnixSeconds ∧ nowUnixSeconds ≤ 253402207200) : result.observation.Bounded := by
  have hage := baselineAgeSeconds_nonneg h fun sample hsample => (hrange sample hsample).2
  simp only [evaluateAggregate, Option.bind_eq_bind, Option.bind_eq_some_iff] at h
  obtain ⟨members, hmembers, combined, hcombined, readings, hreadings, h⟩ := h
  obtain rfl := Option.some.inj h
  have htimes := timestamps_of_combinedReadings hreadings
  have hreadingsSorted : readings.Pairwise fun a b => a.timestamp ≤ b.timestamp :=
    List.pairwise_map.mp ((List.pairwise_map.mpr hsorted).sublist htimes)
  have hreadingsRange : ∀ reading ∈ readings, -377705023201 ≤ reading.timestamp ∧ reading.timestamp ≤ nowUnixSeconds := by
    intro reading hreading
    obtain ⟨sample, hsample, htime⟩ := List.mem_map.mp (htimes.subset (List.mem_map_of_mem hreading))
    rw [← htime]
    exact hrange sample hsample
  refine ⟨hhour, inUnit_shareOf (combined_blocked_le hcombined fun member hmember => ?_), hage, ?_⟩
  · obtain ⟨hreport, hoperational⟩ := mem_groupMembers hmembers hmember
    exact hblocked member.1 hreport member.2 hoperational
  · have hwindows := length_sameHourWindows_le packages config.timeZone localHour hreadingsSorted hreadingsRange hnow.1
    show ((sameHourWindows packages config.timeZone localHour readings).length : ℤ) ≤ i64Maximum
    simp only [i64Maximum]
    omega

end Observation

end Sentinel
