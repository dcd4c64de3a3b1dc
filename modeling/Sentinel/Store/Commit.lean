/-
# Committing a run

`commitRun` advances every latch by the run's evaluations, queues what they
announce, stores the report and deletes what retention has released, in one
transaction: it returns the new database, the report as it was stored and the
messages it queued, or an error and no change.
-/
import Sentinel.Core.Config
import Sentinel.Core.Latch
import Sentinel.Store.Outbox

namespace Sentinel

open Collections

/-! ### The rows of a report -/

def runRow (report : RunReport) : Except StoreError RunRow := do
  let expectedTargets ← i64FromUsize report.expectedTargets
  let completeTargets ← i64FromUsize report.completeTargets
  let minimumTargets ← i64FromUsize report.minimumCompleteTargets
  columnCheck (report.exit.code ≤ 5)
  return {
    id := report.runId
    startedAt := report.startedAt
    completedAt := report.completedAt
    mode := report.mode
    configSha256 := report.configSha256
    status := report.runStatus
    expectedTargets, completeTargets, minimumTargets
    exitCode := report.exit.code.toNat
    healthIssues := report.health.issues
    deliveryActivity := report.deliveryActivity
    targets := .empty
    aggregate := none
    evaluations := .empty }

def upstreamRow (upstream : UpstreamObservation) (ordinal : ℕ) : Except StoreError UpstreamRow := do
  let ordinal ← i64FromUsize ordinal
  let averageSeconds ← constraint (bindReal upstream.averageSeconds)
  columnCheck ((Binary64.ofNat 0).le averageSeconds)
  let responses := upstream.responses.map Text.toText
  columnCheck (responses.all unsignedText)
  return ⟨ordinal, upstream.identity, averageSeconds, responses⟩

def filterRow (filter : FilterObservation) : Except StoreError FilterRow := do
  let rulesCount := Text.toText filter.rulesCount
  columnCheck (unsignedText rulesCount)
  return ⟨filter.url, filter.serverId, filter.enabled, rulesCount, filter.lastUpdated,
    filter.lastUpdatedUnixSeconds⟩

def rewriteRow (rewrite : RewriteObservation) : RewriteRow :=
  ⟨rewrite.domain, rewrite.answer, rewrite.enabled⟩

def targetRow (target : TargetReport) : Except StoreError TargetRow := do
  let queries := target.operational.map fun value => Text.toText value.queries
  let blocked := target.operational.map fun value => Text.toText value.blocked
  columnCheck (queries.all unsignedText && blocked.all unsignedText)
  let upstreams ← target.upstreams.zipIdx.mapM fun (upstream, ordinal) => upstreamRow upstream ordinal
  let filters ← target.filters.mapM filterRow
  return {
    targetId := target.id
    targetName := target.name
    status := target.status.encode
    complete := target.complete
    serverVersion := target.serverVersion
    protectionEnabled := target.operational.map (·.protectionEnabled)
    queries, blocked
    countersExact := true
    blockedRatio := target.operational.bind fun value => bindReal value.blockedRatio
    averageProcessingSeconds := target.operational.bind fun value => bindReal value.averageProcessingSeconds
    maximumUpstreamSeconds := target.operational.bind fun value => bindReal value.maximumUpstreamSeconds
    topClientShare := target.operational.bind fun value => bindReal value.topClientShare
    dnsUpstreamMode := target.dns.map (·.upstreamMode)
    dnsUpstream := target.dns.map (·.upstreamDns)
    filteringEnabled := target.filteringEnabled
    rewritesEnabled := target.rewritesEnabled
    errorKind := target.errorKind
    errorDetail := target.errorDetail
    upstreams := ← constraint (Table.empty.insertAll upstreams)
    filters := ← constraint (Table.empty.insertAll filters)
    rewrites := ← constraint (Table.empty.insertAll (target.rewrites.map rewriteRow)) }

/-- The rows of the upstreams are built if each is. -/
theorem exists_upstreamRows (upstreams : List UpstreamObservation)
    (h : ∀ entry ∈ upstreams.zipIdx, ∃ row, upstreamRow entry.1 entry.2 = .ok row) :
    ∃ rows, (upstreams.zipIdx.mapM fun (upstream, ordinal) => upstreamRow upstream ordinal) = .ok rows :=
  Fallible.exists_mapM_eq_ok h

def aggregateRow (aggregate : AggregateObservation) : Except StoreError AggregateRow := do
  let sameHourSamples ← i64FromUsize aggregate.sameHourSamples
  columnCheck (aggregate.localHour ≤ 23)
  let combinedQueries := Text.toText aggregate.combinedQueries
  columnCheck (unsignedText combinedQueries)
  let combinedBlockedRatio ← constraint (bindReal aggregate.combinedBlockedRatio)
  columnCheck ((Binary64.ofNat 0).le combinedBlockedRatio && combinedBlockedRatio.le (.ofNat 1))
  columnCheck (0 ≤ aggregate.baselineAgeSeconds)
  return {
    localHour := aggregate.localHour.toNat
    utcOffsetMinutes := aggregate.utcOffsetMinutes
    combinedQueries, combinedBlockedRatio
    baselineAgeSeconds := aggregate.baselineAgeSeconds
    sameHourSamples
    baselineReady := aggregate.baselineReady
    resolverQueryShare := aggregate.resolverQueryShare
    topClientShare := aggregate.topClientShare }

/-- The latch's episode is the evaluation's. -/
def evaluationRow (states : Table ConditionState.id) (evaluation : ConditionEvaluation) : EvaluationRow where
  conditionId := evaluation.id
  outcome := evaluation.outcome
  expected := evaluation.expected
  observed := evaluation.observed
  evidence := evaluation
  complete := evaluation.observationComplete
  episodeId := (states.find? evaluation.id).bind (·.episodeId)

namespace StateStore

/-! ### Inserting a report -/

def insertRun (report : RunReport) (store : StateStore) : Except StoreError StateStore := do
  return { store with runs := ← constraint (store.runs.insert? (← runRow report)) }

/-- `UPDATE runs … WHERE id = ?`, and inserts of rows that hang on the run. -/
def updateRun (runId : String) (f : RunRow → RunRow) (hf : ∀ run, (f run).id = run.id) (store : StateStore) :
    StateStore :=
  { store with runs := store.runs.update runId f hf }

/-- The rows of a report's targets. -/
def targetTable (targets : List TargetReport) : Except StoreError (Table TargetRow.targetId) :=
  targets.foldlM (fun table target => do constraint (table.insert? (← targetRow target))) .empty

def insertTargets (report : RunReport) (store : StateStore) : Except StoreError StateStore := do
  let targets ← targetTable report.targets
  return store.updateRun report.runId (fun run => { run with targets }) fun _ => rfl

def insertAggregate (report : RunReport) (store : StateStore) : Except StoreError StateStore :=
  match report.aggregate with
  | none => return store
  | some aggregate => do
    let row ← aggregateRow aggregate
    return store.updateRun report.runId (fun run => { run with aggregate := some row }) fun _ => rfl

def insertEvaluations (report : RunReport) (store : StateStore) : Except StoreError StateStore := do
  let evaluations ← constraint
    (Table.empty.insertAll (report.evaluations.map (evaluationRow store.conditionState)))
  return store.updateRun report.runId (fun run => { run with evaluations }) fun _ => rfl

def upsertConditionState (store : StateStore) (state : ConditionState) : StateStore :=
  { store with conditionState := store.conditionState.upsert state }

/-- What one target's report says about its authentication. -/
def updateRuntimeState (config : Config) (nowUnixSeconds : ℤ) (store : StateStore) (report : TargetReport) :
    Except StoreError StateStore :=
  match report.status with
  | .authenticationRejected => do
    let target ← Fallible.demand (.invalidData "target missing from config")
      (config.targets.find? (·.id = report.id))
    let profile ← Fallible.demand (.invalidData "condition profile missing")
      (config.conditionProfiles.get? target.conditionProfile)
    let retryAfter := saturatingAdd nowUnixSeconds (min profile.authenticationRetrySeconds.toNat i64Maximum)
    return { store with
      targetRuntimeState := store.targetRuntimeState.upsert ⟨report.id, some nowUnixSeconds, some retryAfter⟩ }
  | .complete =>
    return { store with targetRuntimeState := store.targetRuntimeState.filter (·.targetId ≠ report.id) }
  | .authenticationCooldown | .unavailable | .invalidResponse | .unsupportedVersion | .responseTooLarge =>
    return store

def updateRuntimeStates (report : RunReport) (config : Config) (nowUnixSeconds : ℤ) (store : StateStore) :
    Except StoreError StateStore :=
  report.targets.foldlM (updateRuntimeState config nowUnixSeconds) store

/-! ### Retention -/

/-- The newest run with an ambiguous count of a target. -/
def latestBarrier (runs : List RunRow) (targetId : String) : Option RunRow :=
  findLast (fun run => run.targets.rows.any fun row => row.targetId = targetId && !row.countersExact)
    (orderBy (·.completedAt) runs)

/-- The run is the latest barrier of one of its targets. -/
def isPrecisionBarrier (runs : List RunRow) (run : RunRow) : Bool :=
  run.targets.rows.any fun row =>
    !row.countersExact && (latestBarrier runs row.targetId).any (·.id = run.id)

/-- A message that keeps its run. -/
def isUnsettled (row : OutboxRow) : Bool :=
  row.status ∈ [.pending, .retryable, .inFlight, .unknown, .failed]

/-- Retention has released the run. -/
def isReleased (retentionCutoff : Timestamp) (store : StateStore) (run : RunRow) : Bool :=
  run.completedAt < retentionCutoff && !isPrecisionBarrier store.runs.rows run &&
    !store.notificationOutbox.rows.any fun row => row.runId = run.id && isUnsettled row

/-- Deletes the released runs, and the messages they queued. -/
def pruneRuns (retentionCutoff : Timestamp) (store : StateStore) : StateStore :=
  let released := store.runs.rows.filter (store.isReleased retentionCutoff)
  { store with
    runs := store.runs.filter fun run => !store.isReleased retentionCutoff run
    notificationOutbox := store.notificationOutbox.filter fun row => !released.any (·.id = row.runId) }

/-! ### The commit -/

def latestCompletedAt (store : StateStore) : Option Timestamp := (store.runs.rows.map (·.completedAt)).max?

theorem latestCompletedAt_eq_some_iff {store : StateStore} {latest : Timestamp} :
    store.latestCompletedAt = some latest ↔
      (∃ run ∈ store.runs.rows, run.completedAt = latest) ∧ ∀ run ∈ store.runs.rows, run.completedAt ≤ latest := by
  simp [latestCompletedAt, List.max?_eq_some_iff]

theorem le_latestCompletedAt {store : StateStore} {run : RunRow} (h : run ∈ store.runs.rows) :
    ∃ latest, store.latestCompletedAt = some latest ∧ run.completedAt ≤ latest := by
  cases hl : store.latestCompletedAt with
  | none =>
    rw [latestCompletedAt, List.max?_eq_none_iff, List.map_eq_nil_iff] at hl
    rw [hl] at h
    cases h
  | some latest => exact ⟨latest, rfl, (latestCompletedAt_eq_some_iff.mp hl).2 run h⟩

def ensureRunMode (mode : RunMode) (store : StateStore) : Except StoreError Unit :=
  match store.stateIdentity with
  | none => .ok ()
  | some existing => Fallible.ensure (existing = mode)
      (.invalidData ("state database is bound to Some(\"" ++ existing.encode ++
        "\") runs and cannot be used for \"" ++ mode.encode ++ "\""))

end StateStore

/-- What the loop over the evaluations has built. -/
structure Latching where
  store : StateStore
  drawn : ℕ
  evaluations : List ConditionEvaluation
  states : List ConditionState
  transitions : List ConditionTransition

section Latch

variable (uuids : ℕ → String) (report : RunReport) (suppressNotifications : Bool)

/-- The latch of an evaluation before it is advanced. -/
def priorState (store : StateStore) (evaluation : ConditionEvaluation) : ConditionState :=
  (store.conditionState.find? evaluation.id).getD (.fromEvaluation evaluation)

/-- A new episode begins. -/
def beginsEpisode (evaluation : ConditionEvaluation) (prior : ConditionState) : Bool :=
  evaluation.outcome = .active ∧ prior.lifecycle = .clear

/-- The recovery came before the alert was sent. -/
def recoversUnsent (evaluation : ConditionEvaluation) (prior state : ConditionState) : Bool :=
  evaluation.outcome = .clear ∧ state.lifecycle = .clear ∧ prior.lifecycle ≠ .clear ∧
    prior.alertDeliveryState = .pending

/-- The latch after an evaluation, the evaluation with the latch's fields, and
the transition: a recovery whose alert was never sent leaves nothing pending. -/
def latchOutcome (evaluation : ConditionEvaluation) (prior : ConditionState) :
    ConditionState × ConditionEvaluation × Option ConditionTransition :=
  let (state, copied, transition) :=
    advanceCondition evaluation report.completedAt report.runId suppressNotifications prior
  if recoversUnsent evaluation prior state then
    ({ state with alertDeliveryState := .never }, { copied with notificationState := .never }, transition)
  else (state, copied, transition)

/-- A new episode withdraws what an earlier one left unsent. -/
def cancelEarlier (evaluation : ConditionEvaluation) (prior : ConditionState) (state : StateStore × ℕ) :
    Except StoreError (StateStore × ℕ) :=
  if beginsEpisode evaluation prior then StateStore.cancelUnsentCondition uuids evaluation.id none state
  else return state

/-- A recovery withdraws the alert that was not sent. -/
def cancelRecovered (evaluation : ConditionEvaluation) (prior : ConditionState) (state : StateStore × ℕ) :
    Except StoreError (StateStore × ℕ) :=
  if recoversUnsent evaluation prior
      (advanceCondition evaluation report.completedAt report.runId suppressNotifications prior).1 then
    StateStore.cancelUnsentCondition uuids evaluation.id (some .alert) state
  else return state

/-- One evaluation: its latch advances, and messages that no longer apply are
cancelled. -/
def latchEvaluation (latching : Latching) (evaluation : ConditionEvaluation) : Except StoreError Latching := do
  let prior := priorState latching.store evaluation
  let (store, drawn) ← cancelEarlier uuids evaluation prior (latching.store, latching.drawn)
  let (store, drawn) ← cancelRecovered uuids report suppressNotifications evaluation prior (store, drawn)
  let (state, copied, transition) := latchOutcome report suppressNotifications evaluation prior
  return ⟨store, drawn, latching.evaluations ++ [copied], latching.states ++ [state],
    latching.transitions ++ transition.toList⟩

end Latch

/-- Alerts come before resolutions. -/
def transitionOrder : TransitionKind → ℕ
  | .alert => 0
  | .resolution => 1

def sortTransitions (transitions : List ConditionTransition) : List ConditionTransition :=
  orderBy (fun transition => toLex (transitionOrder transition.kind, transition.conditionId)) transitions

def findingsOf (evaluations : List ConditionEvaluation) : List Finding :=
  (evaluations.filter (·.outcome = .active)).map Finding.ofEvaluation

def notificationReport (message : OutboxMessage) : NotificationReport where
  id := message.id
  transition := message.transition
  conditionIds := message.conditionIds
  status := message.status
  remoteRequestId := none
  errorClass := none

/-- What a commit leaves: the database, the report as it was stored, the
messages it queued. -/
structure Committed where
  store : StateStore
  report : RunReport
  outbox : List OutboxMessage

/-- The report with canonical times, if the clock has not run backwards. -/
def admitReport (report : RunReport) (store : StateStore) : Except StoreError RunReport := do
  let startedAt ← canonicalTimestamp report.startedAt
  let completedAt ← canonicalTimestamp report.completedAt
  Fallible.ensure (startedAt ≤ completedAt)
    (.invalidData "wall clock regressed during observation; state was not advanced")
  Fallible.ensure (store.latestCompletedAt.all (· ≤ startedAt))
    (.invalidData "wall clock regressed behind the latest completed run; state was not advanced")
  store.ensureRunMode report.mode
  return { report with startedAt, completedAt, stateSchemaVersion }

/-- The report after its latches have advanced. -/
def latchedReport (uuids : ℕ → String) (report : RunReport) (latching : Latching)
    (suppressNotifications : Bool) : RunReport × List OutboxMessage :=
  let transitions := sortTransitions latching.transitions
  let report := { report with
    evaluations := latching.evaluations
    transitions
    findings := orderBy (·.id) (findingsOf latching.evaluations) }
  let outbox := buildOutbox (fun n => uuids (latching.drawn + n)) report suppressNotifications transitions
  ({ report with notifications := outbox.map notificationReport }, outbox)

/-- The rows of a latched report, and retention. -/
def StateStore.persist (report : RunReport) (outbox : List OutboxMessage) (states : List ConditionState)
    (config : Config) (nowUnixSeconds : ℤ) (retentionCutoff : Timestamp) (store : StateStore) :
    Except StoreError StateStore := do
  let store ← store.insertRun report
  let store ← store.insertTargets report
  let store ← store.insertAggregate report
  let store := states.foldl upsertConditionState store
  let store ← store.insertEvaluations report
  let store ← store.updateRuntimeStates report config nowUnixSeconds
  let store ← store.insertOutbox report.completedAt report.transitions outbox
  return store.pruneRuns (← canonicalTimestamp retentionCutoff)

/-- `commit_run`. -/
def StateStore.commitRun (uuids : ℕ → String) (report : RunReport) (config : Config) (nowUnixSeconds : ℤ)
    (retentionCutoff : Timestamp) (suppressNotifications : Bool) (store : StateStore) :
    Except StoreError Committed := do
  let candidate ← admitReport report store
  let store := { store with stateIdentity := some (store.stateIdentity.getD candidate.mode) }
  let latching ← candidate.evaluations.foldlM (latchEvaluation uuids candidate suppressNotifications)
    ⟨store, 0, [], [], []⟩
  let (candidate, outbox) := latchedReport uuids candidate latching suppressNotifications
  let store ← latching.store.persist candidate outbox latching.states config nowUnixSeconds retentionCutoff
  return ⟨store, candidate, outbox⟩

end Sentinel
