/-
# Reading the stored history

The samples that rate and latency windows are built from, and the reports
of stored runs. A query's rows are listed in the order it asks for, ties in
the order they were inserted.
-/
import Sentinel.Store.Commit
import Mathlib.Data.List.Dedup

namespace Sentinel

open Collections

/-! ### Samples -/

/-- The place of a run in the order of its completion, then of its insertion. -/
def runOrder (runs : List RunRow) (run : RunRow) : Timestamp ×ₗ ℕ :=
  toLex (run.completedAt, runs.findIdx (·.id = run.id))

/-- The run comes after every ambiguous count of the target. -/
def pastBarrier (runs : List RunRow) (run : RunRow) (targetId : String) : Bool :=
  (StateStore.latestBarrier runs targetId).all fun barrier => runOrder runs barrier < runOrder runs run

/-- Every observation with its run, in the order the samples are read. -/
def observations (store : StateStore) : List (RunRow × TargetRow) :=
  (orderBy (·.completedAt) store.runs.rows).flatMap fun run =>
    (orderBy (·.targetId) run.targets.rows).map fun row => (run, row)

theorem mem_observations {store : StateStore} {entry : RunRow × TargetRow} :
    entry ∈ observations store ↔ entry.1 ∈ store.runs.rows ∧ entry.2 ∈ entry.1.targets.rows := by
  simp only [observations, List.mem_flatMap, List.mem_map, mem_orderBy]
  constructor
  · rintro ⟨run, hrun, row, hrow, rfl⟩
    exact ⟨hrun, hrow⟩
  · intro h
    exact ⟨entry.1, h.1, entry.2, h.2, rfl⟩

theorem observations_sorted (store : StateStore) :
    (observations store).Pairwise fun a b => a.1.completedAt ≤ b.1.completedAt := by
  rw [observations, List.pairwise_flatMap]
  refine ⟨fun run _ => List.pairwise_map.mpr (List.pairwise_of_forall fun _ _ => le_rfl), ?_⟩
  refine (pairwise_orderBy (·.completedAt) store.runs.rows).imp ?_
  intro run run' hle a ha b hb
  obtain ⟨_, -, rfl⟩ := List.mem_map.mp ha
  obtain ⟨_, -, rfl⟩ := List.mem_map.mp hb
  exact hle

/-- A reading of a joined row: its run and target, and its counters while all
are known. -/
abbrev UpstreamReading := (String × String) × Option UpstreamSample

/-- A row of the join of the observations with their upstreams. -/
structure UpstreamJoin where
  run : RunRow
  target : TargetRow
  upstream : Option UpstreamRow

/-- The left join of an observation with its upstreams. -/
def joinUpstreams (run : RunRow) (target : TargetRow) : List UpstreamJoin :=
  match orderBy (·.ordinal) target.upstreams.rows with
  | [] => [⟨run, target, none⟩]
  | upstreams => upstreams.map fun upstream => ⟨run, target, some upstream⟩

/-- The counter of a stored upstream, if its responses are known and its sum
can be recovered. -/
def UpstreamRow.counter (row : UpstreamRow) : Except StoreError (Option UpstreamCounter) :=
  match row.responses with
  | none => return none
  | some responses =>
    return UpstreamCounter.fromAverage row.upstreamIdentity row.averageSeconds
      (← parseCounter responses "upstream response count")

/-- A counter joins a reading; an unknown one ends it. -/
def extendReading (counter : Option UpstreamCounter) (entry : Option UpstreamSample) : Option UpstreamSample :=
  match entry, counter with
  | some sample, some counter => some { sample with upstreams := sample.upstreams ++ [counter] }
  | _, _ => none

/-- A reading before its upstreams. -/
def emptyReading (run : RunRow) (target : TargetRow) : UpstreamReading :=
  ((run.id, target.targetId),
    some ⟨target.targetId, run.startedAt.asSecond, run.completedAt.asSecond, []⟩)

/-- The readings, newest first, with one for the run and target of a row. -/
def withReading (row : UpstreamJoin) (readings : List UpstreamReading) : List UpstreamReading :=
  match readings with
  | last :: rest =>
    if last.1 = (row.run.id, row.target.targetId) then last :: rest
    else emptyReading row.run row.target :: last :: rest
  | [] => [emptyReading row.run row.target]

/-- One row of the join enters the readings. -/
def addReading (readings : List UpstreamReading) (row : UpstreamJoin) :
    Except StoreError (List UpstreamReading) :=
  let readings := withReading row readings
  match row.upstream with
  | none => return readings
  | some upstream => do
    let counter ← upstream.counter
    return readings.modifyHead fun (key, entry) => (key, extendReading counter entry)

namespace StateStore

/-- `load_target_samples`. -/
def loadTargetSamples (cutoffUnixSeconds : ℤ) (store : StateStore) : Except StoreError (List TargetSample) :=
  let rows := (observations store).filter fun (run, row) =>
    row.complete && row.countersExact && row.queries.isSome && row.blocked.isSome &&
      pastBarrier store.runs.rows run row.targetId
  (rows.filter fun (run, _) => cutoffUnixSeconds ≤ run.completedAt.asSecond).mapM fun (run, row) => do
    let queries ← parseCounter (row.queries.getD "") "query count"
    let blocked ← parseCounter (row.blocked.getD "") "blocked count"
    return ⟨run.id, row.targetId, run.completedAt.asSecond, queries, blocked⟩

/-- The loop of `load_upstream_samples`: the readings since an instant, newest
first; the error's text is the time library's. -/
def keyedReadings (sinceUnixSeconds : ℤ) (store : StateStore) : Except StoreError (List UpstreamReading) := do
  let since ← Fallible.demand (.invalidData "invalid timestamp") (Timestamp.new sinceUnixSeconds 0)
  let since ← canonicalTimestamp since
  let rows := (observations store).filter fun (run, row) => row.complete && since ≤ run.completedAt
  (rows.flatMap fun (run, row) => joinUpstreams run row).foldlM addReading []

/-- `load_upstream_samples`: the readings whose counters are all known. -/
def loadUpstreamSamples (sinceUnixSeconds : ℤ) (store : StateStore) :
    Except StoreError (List UpstreamSample) := do
  return (← store.keyedReadings sinceUnixSeconds).reverse.filterMap (·.2)

end StateStore

/-! ### Reports -/

def UpstreamRow.load (row : UpstreamRow) : Except StoreError UpstreamObservation := do
  return ⟨row.upstreamIdentity, row.averageSeconds,
    ← row.responses.mapM fun count => parseCounter count "upstream response count"⟩

def FilterRow.load (row : FilterRow) : Except StoreError FilterObservation := do
  return ⟨row.filterUrl, row.serverId, row.enabled, ← parseCounter row.rulesCount "rules count",
    row.lastUpdated, row.lastUpdatedUnixSeconds⟩

def RewriteRow.load (row : RewriteRow) : RewriteObservation := ⟨row.domain, row.answer, row.enabled⟩

/-- The operational part of an observation, if every column holds a value. -/
def TargetRow.operational (row : TargetRow) : Except StoreError (Option OperationalObservation) :=
  match row.protectionEnabled, row.queries, row.blocked, row.blockedRatio, row.averageProcessingSeconds,
    row.maximumUpstreamSeconds, row.topClientShare with
  | some protection, some queries, some blocked, some ratio, some processing, some upstream, some client => do
    return some ⟨protection, ← parseCounter queries "query count", ← parseCounter blocked "blocked count", ratio,
      processing, upstream, client⟩
  | _, _, _, _, _, _, _ => return none

def TargetRow.dns (row : TargetRow) : Option DnsObservation :=
  match row.dnsUpstreamMode, row.dnsUpstream with
  | some mode, some upstreams => some ⟨mode, upstreams⟩
  | _, _ => none

/-- A status read from its column; the error's text is the serializer's. -/
def decodeStatus (text : String) : Except StoreError TargetStatus :=
  Fallible.demand (.invalidData "unknown variant") (TargetStatus.decode text)

def TargetRow.load (row : TargetRow) : Except StoreError TargetReport := do
  let operational ← row.operational
  let status ← decodeStatus row.status
  let upstreams ← (orderBy (·.ordinal) row.upstreams.rows).mapM (·.load)
  let filters ← (orderBy (·.filterUrl) row.filters.rows).mapM (·.load)
  return {
    id := row.targetId
    name := row.targetName
    status
    complete := row.complete
    serverVersion := row.serverVersion
    operational
    dns := row.dns
    filteringEnabled := row.filteringEnabled
    rewritesEnabled := row.rewritesEnabled
    upstreams, filters
    rewrites := (orderBy RewriteRow.key row.rewrites.rows).map (·.load)
    errorKind := row.errorKind
    errorDetail := row.errorDetail }

def AggregateRow.load (row : AggregateRow) : Except StoreError AggregateObservation := do
  let localHour ← u8FromI64 row.localHour "local hour out of range"
  let utcOffsetMinutes ← i32FromI64 row.utcOffsetMinutes "UTC offset out of range"
  return {
    localHour, utcOffsetMinutes
    combinedQueries := ← parseCounter row.combinedQueries "combined query count"
    combinedBlockedRatio := row.combinedBlockedRatio
    baselineAgeSeconds := row.baselineAgeSeconds
    sameHourSamples := ← usizeFromI64 row.sameHourSamples "same-hour sample count"
    baselineReady := row.baselineReady
    resolverQueryShare := row.resolverQueryShare
    topClientShare := row.topClientShare }

/-- What a stored message reports. -/
def OutboxRow.report (row : OutboxRow) : NotificationReport where
  id := row.id
  transition := row.transition
  conditionIds := row.members.map (·.conditionId)
  status := row.status
  remoteRequestId := row.remoteRequestId
  errorClass := row.errorClass

namespace StateStore

/-- The messages a run queued, and their replacements. -/
def runMessages (runId : String) (store : StateStore) : List OutboxRow :=
  store.notificationOutbox.rows.filter (·.runId = runId)

def loadEvaluations (run : RunRow) : List ConditionEvaluation :=
  (orderBy (·.conditionId) run.evaluations.rows).map (·.evidence)

def loadNotificationReports (runId : String) (store : StateStore) : List NotificationReport :=
  (orderBy (·.createdAt) (store.runMessages runId)).map (·.report)

/-- `load_transitions`: the distinct memberships of a run's messages. -/
def loadTransitions (runId : String) (store : StateStore) : List ConditionTransition :=
  sortTransitions (((store.runMessages runId).flatMap fun row => row.conditions.rows.map fun member =>
    ⟨member.conditionId, row.transition, member.summary⟩).dedup)

def loadReport (runId : String) (store : StateStore) : Except StoreError RunReport := do
  let run ← constraint (store.runs.find? runId)
  let expectedTargets ← usizeFromI64 run.expectedTargets "expected target count"
  let completeTargets ← usizeFromI64 run.completeTargets "complete target count"
  let minimumCompleteTargets ← usizeFromI64 run.minimumTargets "minimum target count"
  let exitCode ← u8FromI64 run.exitCode "exit code out of range"
  let evaluations := loadEvaluations run
  let targets ← (orderBy (·.targetId) run.targets.rows).mapM (·.load)
  let aggregate ← run.aggregate.mapM (·.load)
  return {
    schemaVersion := reportSchemaVersion
    runId
    mode := run.mode
    startedAt := run.startedAt
    completedAt := run.completedAt
    configSha256 := run.configSha256
    stateSchemaVersion
    runStatus := run.status
    expectedTargets, completeTargets, minimumCompleteTargets, targets, aggregate, evaluations
    findings := findingsOf evaluations
    transitions := store.loadTransitions runId
    notifications := store.loadNotificationReports runId
    deliveryActivity := run.deliveryActivity
    health := {
      minimumCompleteTargets, completeTargets
      met := minimumCompleteTargets ≤ completeTargets
      issues := run.healthIssues }
    exit := ⟨exitCode, exitReason exitCode⟩ }

/-- `load_reports`: the newest runs first. -/
def loadReports (limit : ℕ) (since : Option Timestamp) (store : StateStore) :
    Except StoreError (List RunReport) := do
  let since ← since.mapM canonicalTimestamp
  let runs := (orderBy (·.completedAt) store.runs.rows).reverse.filter fun run => since.all (· ≤ run.completedAt)
  (runs.take (min limit i64Maximum.toNat)).mapM fun run => store.loadReport run.id

end StateStore

end Sentinel
