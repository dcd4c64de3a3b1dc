/-
# Measurement windows

A resolver's statistics are counters that restart on the hour, so a rate is
the difference of two readings. `windowBetween` differences two readings of
one subject, `combinedReadings` sums the declared members of the group per
run, and `upstreamWindow` differences the counters of every upstream. Each
is absent where the two readings cannot describe a window.

Key theorems: `windowBetween_isSome_iff`, `windowBetween_queries`.
-/
import Sentinel.Core.Model
import Sentinel.Core.Config

namespace Sentinel

/-- The longest gap that counts as one window, in seconds. -/
def rateWindowMaximumSeconds : Binary64 := .ofNat 600

/-- The queries a window needs before its blocked ratio is compared. -/
def rateWindowMinimumQueries : UInt64 := 100

/-- Upstream latency pools the windows ending this recently. -/
def upstreamLookbackSeconds : ℤ := 1800

/-- How far back a check needs upstream readings. -/
def upstreamHistorySeconds : ℤ := upstreamLookbackSeconds + 600

/-- A new statistics unit starts on each UTC hour. -/
def statisticsUnitSeconds : ℤ := 3600

/-- `checked_add`. -/
def checkedAdd (a b : UInt64) : Option UInt64 :=
  if a.toNat + b.toNat < 2 ^ 64 then some (a + b) else none

/-- `checked_sub`. -/
def checkedSub (a b : UInt64) : Option UInt64 := if b ≤ a then some (a - b) else none

theorem checkedAdd_eq_some {a b c : UInt64} : checkedAdd a b = some c ↔ a.toNat + b.toNat = c.toNat := by
  unfold checkedAdd
  have hc := c.toNat_lt
  split
  case isTrue h =>
    rw [Option.some.injEq, ← UInt64.toNat_inj, UInt64.toNat_add, Nat.mod_eq_of_lt h]
  case isFalse h =>
    simp only [reduceCtorEq, false_iff]
    omega

theorem checkedSub_eq_some {a b c : UInt64} : checkedSub a b = some c ↔ b.toNat + c.toNat = a.toNat := by
  unfold checkedSub
  split
  case isTrue h =>
    rw [Option.some.injEq, ← UInt64.toNat_inj, UInt64.toNat_sub_of_le _ _ h]
    have := UInt64.le_iff_toNat_le.mp h
    omega
  case isFalse h =>
    simp only [reduceCtorEq, false_iff]
    have := mt UInt64.le_iff_toNat_le.mpr h
    omega

/-- `local_time_bucket`: an instant's hour and offset in minutes in a zone. -/
def localTimeBucket (packages : Packages) (timestamp : Timestamp) (timeZone : String) : Option (UInt8 × ℤ) :=
  (packages.timeZone timeZone).bind fun zone =>
    let (hour, offset) := zone timestamp
    if 0 ≤ hour ∧ hour < 256 then some (UInt8.ofNat hour.toNat, offset.tdiv 60) else none

/-- The local hour an instant falls in, if it can be resolved. -/
def localHourOf (packages : Packages) (timestamp : ℤ) (timeZone : String) : Option UInt8 :=
  (Timestamp.new timestamp 0).bind fun value => (localTimeBucket packages value timeZone).map Prod.fst

/-- Universal time in the time-zone database: the hour of the day, and no
offset. -/
def universalHour (t : Timestamp) : ℤ × ℤ := (t.asSecond / 3600 % 24, 0)

/-- Packages to which every zone is universal time. -/
def universalTime : Packages := { (default : Packages) with timeZone := fun _ => some universalHour }

/-! ### Windows of one subject -/

/-- A reading of cumulative queries and blocked queries. -/
structure Reading where
  timestamp : ℤ
  queries : UInt64
  blocked : UInt64
  deriving DecidableEq, Repr

/-- One measurement window between two consecutive readings. -/
structure RateWindow where
  localHour : UInt8
  queries : UInt64
  elapsedSeconds : Binary64
  queryRate : Binary64
  blockedRatio : Binary64
  deriving DecidableEq, Repr

/-- The window's blocked ratio, if it holds enough queries to carry one. -/
def RateWindow.comparableBlockedRatio (window : RateWindow) : Option Binary64 :=
  if rateWindowMinimumQueries ≤ window.queries then some window.blockedRatio else none

/-- Two instants are the ends of one window: in order, and not too far apart. -/
def withinGap (previous current : ℤ) : Bool :=
  let elapsed := Binary64.ofInt (current - previous)
  elapsed.isFinite && !elapsed.le (.ofNat 0) && !Binary64.lt rateWindowMaximumSeconds elapsed

/-- The window between two readings; absent for a counter that went
backwards, a gap that is too long, or more blocked queries than queries. -/
def windowBetween (previous current : Reading) (localHour : UInt8) : Option RateWindow :=
  if current.queries < previous.queries ∨ current.blocked < previous.blocked then none
  else if !withinGap previous.timestamp current.timestamp then none
  else
    let elapsed := Binary64.ofInt (current.timestamp - previous.timestamp)
    let queries := current.queries - previous.queries
    let blocked := current.blocked - previous.blocked
    if queries < blocked then none
    else
      let ratio := if queries = 0 then Binary64.ofNat 0
        else (Binary64.ofNat blocked.toNat).div (.ofNat queries.toNat)
      some ⟨localHour, queries, elapsed, (Binary64.ofNat queries.toNat).div elapsed, ratio⟩

/-- The counters of two readings can be differenced: neither went backwards,
and no more was blocked than queried. -/
def CountersRise (previous current : Reading) : Prop :=
  previous.queries.toNat ≤ current.queries.toNat ∧ previous.blocked.toNat ≤ current.blocked.toNat ∧
    current.blocked.toNat - previous.blocked.toNat ≤ current.queries.toNat - previous.queries.toNat

instance (previous current : Reading) : Decidable (CountersRise previous current) := by
  unfold CountersRise; infer_instance

/-- **When there is a window, and its queries.** -/
theorem windowBetween_isSome_iff (previous current : Reading) (localHour : UInt8) :
    (windowBetween previous current localHour).isSome ↔
      withinGap previous.timestamp current.timestamp ∧ CountersRise previous current := by
  unfold windowBetween CountersRise
  simp only [UInt64.lt_iff_toNat_lt]
  by_cases hd : current.queries.toNat < previous.queries.toNat ∨ current.blocked.toNat < previous.blocked.toNat
  · rw [if_pos hd]
    simp only [Option.isSome_none, Bool.false_eq_true, false_iff]
    omega
  · rw [if_neg hd]
    push Not at hd
    rw [UInt64.toNat_sub_of_le _ _ (UInt64.le_iff_toNat_le.mpr hd.1),
      UInt64.toNat_sub_of_le _ _ (UInt64.le_iff_toNat_le.mpr hd.2)]
    cases withinGap previous.timestamp current.timestamp with
    | false => simp
    | true =>
      simp only [Bool.not_true, Bool.false_eq_true, if_false, true_and]
      split
      case isTrue h =>
        simp only [Option.isSome_none, Bool.false_eq_true, false_iff]
        omega
      case isFalse h =>
        simp only [Option.isSome_some, true_iff]
        omega

theorem windowBetween_queries {previous current : Reading} {localHour : UInt8} {window : RateWindow}
    (h : windowBetween previous current localHour = some window) :
    window.queries = current.queries - previous.queries := by
  unfold windowBetween at h
  split at h
  · cases h
  · split at h
    · cases h
    · simp only at h
      split at h
      · cases h
      · rw [← Option.some.inj h]

/-! ### Windows of the group -/

def TargetSample.reading (sample : TargetSample) : Reading :=
  ⟨sample.timestamp, sample.queries, sample.blocked⟩

/-- The members of one run that reported, with their summed counters. -/
structure CombinedEntry where
  runId : String
  members : List String
  timestamp : ℤ
  queries : UInt64
  blocked : UInt64
  deriving DecidableEq, Repr

def CombinedEntry.reading (entry : CombinedEntry) : Reading :=
  ⟨entry.timestamp, entry.queries, entry.blocked⟩

/-- One sample of a declared member enters its run's entry: a second reading
of a member is ignored, an overflowing sum fails. -/
def CombinedEntry.add (sample : TargetSample) (entry : CombinedEntry) : Option CombinedEntry :=
  if entry.runId ≠ sample.runId ∨ sample.targetId ∈ entry.members then some entry
  else do
    let queries ← checkedAdd entry.queries sample.queries
    let blocked ← checkedAdd entry.blocked sample.blocked
    return { entry with members := entry.members ++ [sample.targetId], queries, blocked }

/-- The entries, in the order their runs were first seen, with an entry for
the run of `sample`. -/
def withEntry (sample : TargetSample) (entries : List CombinedEntry) : List CombinedEntry :=
  if entries.any (·.runId = sample.runId) then entries
  else entries ++ [⟨sample.runId, [], sample.timestamp, 0, 0⟩]

def combineSample (config : BehavioralBaselineConfig) (entries : List CombinedEntry) (sample : TargetSample) :
    Option (List CombinedEntry) :=
  if sample.targetId ∈ config.targetIds then (withEntry sample entries).mapM (CombinedEntry.add sample)
  else some entries

/-- The runs every declared member reported in, oldest first, with the sums. -/
def combinedRuns (config : BehavioralBaselineConfig) (samples : List TargetSample) :
    Option (List CombinedEntry) :=
  (samples.foldlM (combineSample config) []).map fun entries =>
    entries.filter (·.members.length = config.targetIds.length)

/-- `combined_readings`. -/
def combinedReadings (config : BehavioralBaselineConfig) (samples : List TargetSample) :
    Option (List Reading) :=
  (combinedRuns config samples).map fun entries => entries.map CombinedEntry.reading

/-! ### Windows of the upstreams -/

/-- One upstream's responses and their summed duration over windows. -/
structure UpstreamTotals where
  responses : UInt64 := 0
  totalMicroseconds : UInt64 := 0
  deriving DecidableEq, Repr

def UpstreamTotals.averageSeconds (totals : UpstreamTotals) : Option Binary64 :=
  if 0 < totals.responses then
    some (((Binary64.ofNat totals.totalMicroseconds.toNat).div (.ofNat totals.responses.toNat)).div
      (.ofNat 1000000))
  else none

/-- The statistics unit a reading was taken in; absent when its run spanned a
boundary. -/
def statisticsUnit (sample : UpstreamSample) : Option ℤ :=
  let unit := sample.timestamp / statisticsUnitSeconds
  if sample.observationStarted / statisticsUnitSeconds = unit then some unit else none

/-- An upstream's counters in a reading; zero when it is not listed. -/
def UpstreamSample.find (sample : UpstreamSample) (identity : String) : UpstreamTotals :=
  match sample.upstreams.find? (·.identity = identity) with
  | some counter => ⟨counter.responses, counter.totalMicroseconds⟩
  | none => {}

/-- The identities of two readings, as an ordered set iterates over them. -/
def windowIdentities (previous current : UpstreamSample) : List String :=
  distinct ((previous.upstreams ++ current.upstreams).map (·.identity))

/-- The elapsed seconds between two readings and each upstream's responses and
summed duration; absent unless both were taken in one statistics unit, at
most ten minutes apart, and no counter decreased. -/
def upstreamWindow (previous current : UpstreamSample) : Option (ℤ × List (String × UpstreamTotals)) := do
  let elapsed := current.timestamp - previous.timestamp
  if elapsed ≤ 0 ∨ Binary64.lt rateWindowMaximumSeconds (.ofInt elapsed) then none
  else
    let previousUnit ← statisticsUnit previous
    let currentUnit ← statisticsUnit current
    if previousUnit ≠ currentUnit then none
    else
      let totals ← (windowIdentities previous current).mapM fun identity => do
        let responses ← checkedSub (current.find identity).responses (previous.find identity).responses
        let totalMicroseconds ←
          checkedSub (current.find identity).totalMicroseconds (previous.find identity).totalMicroseconds
        return (identity, { responses, totalMicroseconds })
      return (elapsed, totals)

/-- The current reading of a complete target; absent when a count is unknown
or an average cannot be converted back into a sum. -/
def currentUpstreamSample (report : TargetReport) (observationStarted timestamp : ℤ) :
    Option UpstreamSample := do
  let upstreams ← report.upstreams.mapM fun (upstream : UpstreamObservation) => do
    UpstreamCounter.fromAverage upstream.identity upstream.averageSeconds (← upstream.responses)
  return ⟨report.id, observationStarted, timestamp, upstreams⟩

end Sentinel
