/-
# The samples rate windows are built from

`load_target_samples` reads the exact observations that come after every
ambiguous count of their target, since a cutoff. What it returns of a target
depends on the observations of that target alone.

Key theorems: `loadTargetSamples_eq_ok`, `timestamps_of_samples`, `samples_of_no_barrier`.
-/
import Sentinel.Store.Load

namespace Sentinel

open Collections

/-- A complete observation whose counts can be compared. -/
def TargetRow.isExact (row : TargetRow) : Bool :=
  row.complete && row.countersExact && row.queries.isSome && row.blocked.isSome

namespace StateStore

variable {store : StateStore}

/-- The exact observations, in the order they are read. -/
def exactRows (store : StateStore) : List (RunRow × TargetRow) :=
  (observations store).filter fun entry => entry.2.isExact

/-- The exact observations after every ambiguous count of their target. -/
def learningRows (store : StateStore) : List (RunRow × TargetRow) :=
  store.exactRows.filter fun entry => pastBarrier store.runs.rows entry.1 entry.2.targetId

/-- When each of a target's rows was completed. -/
def readAt (targetId : String) (rows : List (RunRow × TargetRow)) : List ℤ :=
  (rows.filter fun entry => entry.2.targetId = targetId).map fun entry => entry.1.completedAt.asSecond

/-- The sample of an observation. -/
def sampleOf (entry : RunRow × TargetRow) : Except StoreError TargetSample := do
  let queries ← parseCounter (entry.2.queries.getD "") "query count"
  let blocked ← parseCounter (entry.2.blocked.getD "") "blocked count"
  return ⟨entry.1.id, entry.2.targetId, entry.1.completedAt.asSecond, queries, blocked⟩

theorem loadTargetSamples_eq (cutoffUnixSeconds : ℤ) (store : StateStore) :
    store.loadTargetSamples cutoffUnixSeconds =
      (store.learningRows.filter fun entry => cutoffUnixSeconds ≤ entry.1.completedAt.asSecond).mapM sampleOf := by
  unfold loadTargetSamples learningRows exactRows
  rw [List.filter_filter (p := fun entry : RunRow × TargetRow => pastBarrier store.runs.rows entry.1 entry.2.targetId)]
  have hrows : (fun entry : RunRow × TargetRow => entry.2.complete && entry.2.countersExact && entry.2.queries.isSome &&
      entry.2.blocked.isSome && pastBarrier store.runs.rows entry.1 entry.2.targetId) =
      fun entry => pastBarrier store.runs.rows entry.1 entry.2.targetId && entry.2.isExact := by
    funext entry
    exact Bool.and_comm _ _
  rw [← hrows]
  rfl

theorem sampleOf_eq_ok {entry : RunRow × TargetRow} {sample : TargetSample} (h : sampleOf entry = .ok sample) :
    sample.runId = entry.1.id ∧ sample.targetId = entry.2.targetId ∧
      sample.timestamp = entry.1.completedAt.asSecond := by
  simp only [sampleOf, Fallible.bind_eq_ok_iff] at h
  obtain ⟨_, -, _, -, h⟩ := h
  obtain rfl := Except.ok.inj h
  exact ⟨rfl, rfl, rfl⟩

/-- **What the samples are**: the rows since the cutoff, in order. -/
theorem loadTargetSamples_eq_ok {cutoffUnixSeconds : ℤ} {samples : List TargetSample}
    (h : store.loadTargetSamples cutoffUnixSeconds = .ok samples) :
    List.Forall₂ (fun entry sample => sampleOf entry = .ok sample)
      (store.learningRows.filter fun entry => cutoffUnixSeconds ≤ entry.1.completedAt.asSecond) samples := by
  rw [loadTargetSamples_eq] at h
  exact Fallible.mapM_eq_ok_iff.mp h

/-- A sample's run and observation, which come after every ambiguous count. -/
theorem mem_samples {cutoffUnixSeconds : ℤ} {samples : List TargetSample}
    (h : store.loadTargetSamples cutoffUnixSeconds = .ok samples) {sample : TargetSample} (hm : sample ∈ samples) :
    ∃ entry ∈ observations store, entry.2.isExact ∧ pastBarrier store.runs.rows entry.1 entry.2.targetId ∧
      sampleOf entry = .ok sample := by
  obtain ⟨entry, hentry, hsample⟩ := Fallible.exists_of_forall₂_right (loadTargetSamples_eq_ok h) sample hm
  obtain ⟨hexact, hpast⟩ := List.mem_filter.mp (List.mem_of_mem_filter hentry)
  obtain ⟨hentry, hexact⟩ := List.mem_filter.mp hexact
  exact ⟨entry, hentry, hexact, hpast, hsample⟩

/-- **Samples are in order of time.** -/
theorem samples_sorted {cutoffUnixSeconds : ℤ} {samples : List TargetSample}
    (h : store.loadTargetSamples cutoffUnixSeconds = .ok samples) :
    samples.Pairwise fun a b => a.timestamp ≤ b.timestamp := by
  have hrows : (store.learningRows.filter fun entry => cutoffUnixSeconds ≤ entry.1.completedAt.asSecond).Sublist
      (observations store) := List.filter_sublist.trans (List.filter_sublist.trans List.filter_sublist)
  refine Fallible.pairwise_of_forall₂ ?_ (loadTargetSamples_eq_ok h) ((observations_sorted store).sublist hrows)
  intro entry entry' sample sample' hsample hsample' hle
  rw [(sampleOf_eq_ok hsample).2.2, (sampleOf_eq_ok hsample').2.2]
  exact Timestamp.asSecond_mono hle

/-- The samples of one target are those of its rows. -/
theorem samples_of_target {cutoffUnixSeconds : ℤ} {samples : List TargetSample}
    (h : store.loadTargetSamples cutoffUnixSeconds = .ok samples) (targetId : String) :
    List.Forall₂ (fun entry sample => sampleOf entry = .ok sample)
      ((store.learningRows.filter fun entry => cutoffUnixSeconds ≤ entry.1.completedAt.asSecond).filter fun entry =>
        entry.2.targetId = targetId) (samples.filter (·.targetId = targetId)) := by
  refine List.rel_filter (fun entry sample hsample => ?_) (loadTargetSamples_eq_ok h)
  show decide (entry.2.targetId = targetId) = true ↔ decide (sample.targetId = targetId) = true
  rw [(sampleOf_eq_ok hsample).2.1]

/-- **When a target's samples were completed**: its readings since the cutoff. -/
theorem timestamps_of_samples {cutoffUnixSeconds : ℤ} {samples : List TargetSample}
    (h : store.loadTargetSamples cutoffUnixSeconds = .ok samples) (targetId : String) :
    (samples.filter (·.targetId = targetId)).map (·.timestamp) =
      (readAt targetId store.learningRows).filter (cutoffUnixSeconds ≤ ·) := by
  have htimes : List.Forall₂ (fun (entry : RunRow × TargetRow) (sample : TargetSample) =>
      entry.1.completedAt.asSecond = sample.timestamp) _ _ :=
    (samples_of_target h targetId).imp fun entry sample hsample => (sampleOf_eq_ok hsample).2.2.symm
  rw [← Fallible.map_eq_map_of_forall₂ htimes, readAt, List.filter_map, List.filter_comm]
  rfl

/-- **Without a barrier every exact row is read**: the samples of the target
are its exact rows since the cutoff, in order. -/
theorem samples_of_no_barrier {cutoffUnixSeconds : ℤ} {samples : List TargetSample}
    (h : store.loadTargetSamples cutoffUnixSeconds = .ok samples) {targetId : String}
    (hnone : latestBarrier store.runs.rows targetId = none) :
    List.Forall₂ (fun entry sample => sampleOf entry = .ok sample)
      ((store.exactRows.filter fun entry => cutoffUnixSeconds ≤ entry.1.completedAt.asSecond).filter fun entry =>
        entry.2.targetId = targetId) (samples.filter (·.targetId = targetId)) := by
  have hrows : (store.learningRows.filter fun entry => cutoffUnixSeconds ≤ entry.1.completedAt.asSecond).filter
      (fun entry => entry.2.targetId = targetId) =
      (store.exactRows.filter fun entry => cutoffUnixSeconds ≤ entry.1.completedAt.asSecond).filter fun entry =>
        entry.2.targetId = targetId := by
    unfold learningRows
    rw [List.filter_filter, List.filter_filter, List.filter_filter]
    refine List.filter_congr fun entry _ => ?_
    by_cases htarget : entry.2.targetId = targetId
    · have hpast : pastBarrier store.runs.rows entry.1 entry.2.targetId = true := by
        rw [pastBarrier, htarget, hnone]
        rfl
      rw [hpast, Bool.and_true]
    · rw [decide_eq_false htarget, Bool.false_and, Bool.false_and]
  rw [← hrows]
  exact samples_of_target h targetId

end StateStore

/-! ### Runs at some seconds -/

/-- An instant of the first days. -/
def daySecond (seconds : ℕ) : Timestamp :=
  ⟨(min seconds 1000000 : ℕ) * 1000000000, by unfold nanosecondsPerSecond; omega, by unfold nanosecondsPerSecond; omega⟩

/-- A run that observed one target, exactly or not. -/
def readingRun (id : String) (seconds : ℕ) (exact : Bool) : RunRow where
  id
  startedAt := daySecond seconds
  completedAt := daySecond seconds
  mode := .live
  configSha256 := ""
  status := .complete
  expectedTargets := 1
  completeTargets := 1
  minimumTargets := 1
  exitCode := 0
  healthIssues := []
  deliveryActivity := []
  targets := ⟨[{
    targetId := "one"
    targetName := "One"
    status := "complete"
    complete := true
    serverVersion := none
    protectionEnabled := some true
    queries := some "0"
    blocked := some "0"
    countersExact := exact
    blockedRatio := some (.ofNat 0)
    averageProcessingSeconds := some (.ofNat 0)
    maximumUpstreamSeconds := some (.ofNat 0)
    topClientShare := some (.ofNat 0)
    dnsUpstreamMode := none
    dnsUpstream := none
    filteringEnabled := none
    rewritesEnabled := none
    errorKind := none
    errorDetail := none
    upstreams := .empty
    filters := .empty
    rewrites := .empty }], List.nodup_singleton _⟩
  aggregate := none
  evaluations := .empty

/-- The id of a numbered run. -/
def numberedId (number : ℕ) : String := String.ofList (List.replicate number 'r')

theorem numberedId_injective : Function.Injective numberedId := by
  intro a b h
  have hlists := congrArg (fun id : String => id.toList.length) h
  simpa [numberedId] using hlists

/-- A store with runs at these seconds. -/
def readingsStore (marks : List (ℕ × Bool)) : StateStore :=
  { StateStore.empty with
    runs := ⟨marks.zipIdx.map fun (mark, number) => readingRun (numberedId number) mark.1 mark.2, by
      rw [List.map_map]
      have hids : (RunRow.id ∘ fun ((mark, number) : (ℕ × Bool) × ℕ) => readingRun (numberedId number) mark.1 mark.2) =
          numberedId ∘ Prod.snd := rfl
      rw [hids, ← List.map_map, List.zipIdx_map_snd]
      exact List.Nodup.map numberedId_injective (List.nodup_range' ..)⟩ }

end Sentinel
