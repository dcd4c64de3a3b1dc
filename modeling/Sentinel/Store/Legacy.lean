/-
# Databases of every released version

The tables as SQL has them, of versions 1 to 3: flat, related by ids that need
not resolve, in the order of their row ids. `…Columns` are the columns a table
has had in every version, as `τ` spells an instant: version 1 kept the text it
was given, later ones keep canonical text, that is the instant. A JSON column
holds what its text is read as.

`Tables.store` is the database the current store works on: each row under the
row its foreign key names.
-/
import Sentinel.Store.Load

namespace Sentinel

open Collections

/-- A JSON column: the value of its text, or what the serializer says of it. -/
abbrev Json (α : Type) : Type := Except String α

def readJson {α : Type} (json : Json α) : Except StoreError α := json.mapError .invalidData

/-- A counter of version 1: an integer column that is not negative. -/
abbrev LegacyCount : Type := Fin (2 ^ 63)

/-! ### Rows -/

structure MigrationRow (τ : Type) where
  version : ℤ
  name : String
  checksum : String
  appliedAt : τ

structure RunColumns (τ : Type) where
  id : String
  startedAt : τ
  completedAt : τ
  mode : RunMode
  configSha256 : String
  status : RunStatus
  expectedTargets : ℤ
  completeTargets : ℤ
  minimumTargets : ℤ
  exitCode : ℤ

structure RunRecord (τ : Type) extends RunColumns τ where
  healthIssues : List String
  deliveryActivity : List DeliveryActivity

structure ObservationColumns where
  runId : String
  targetId : String
  targetName : String
  status : String
  complete : Bool
  serverVersion : Option String
  protectionEnabled : Option Bool
  blockedRatio : Option Binary64
  averageProcessingSeconds : Option Binary64
  maximumUpstreamSeconds : Option Binary64
  topClientShare : Option Binary64
  dnsUpstreamMode : Option String
  dnsUpstream : Option (Json (List String))
  filteringEnabled : Option Bool
  rewritesEnabled : Option Bool
  errorKind : Option String
  errorDetail : Option String

structure LegacyObservation extends ObservationColumns where
  queries : Option LegacyCount
  blocked : Option LegacyCount

structure ObservationRecord extends ObservationColumns where
  queries : Option String
  blocked : Option String
  countersExact : Bool

/-- The table of versions 1 and 2. -/
structure UpstreamColumns where
  runId : String
  targetId : String
  ordinal : ℤ
  upstreamIdentity : String
  averageSeconds : Binary64

structure UpstreamRecord extends UpstreamColumns where
  responses : Option String

structure FilterColumns where
  runId : String
  targetId : String
  filterUrl : String
  serverId : ℤ
  enabled : Bool
  lastUpdated : Option String
  lastUpdatedUnixSeconds : Option ℤ

structure LegacyFilter extends FilterColumns where
  rulesCount : LegacyCount

structure FilterRecord extends FilterColumns where
  rulesCount : String

structure RewriteRecord extends RewriteRow where
  runId : String
  targetId : String

structure AggregateColumns where
  runId : String
  localHour : ℤ
  utcOffsetMinutes : ℤ
  combinedBlockedRatio : Binary64
  baselineAgeSeconds : ℤ
  sameHourSamples : ℤ
  baselineReady : Bool
  /-- No longer read, like the other limit. -/
  volumeLimit : Option Binary64
  ratioLimit : Option Binary64
  resolverQueryShare : Json (List (String × Binary64))
  topClientShare : Json (List (String × Binary64))

structure LegacyAggregate extends AggregateColumns where
  combinedQueries : LegacyCount

structure AggregateRecord extends AggregateColumns where
  combinedQueries : String

structure EvaluationColumns where
  runId : String
  conditionId : String
  outcome : EvaluationOutcome
  expected : Value
  observed : Value
  evidence : Json ConditionEvaluation
  complete : Bool

structure EvaluationRecord extends EvaluationColumns where
  episodeId : Option String

structure LatchColumns (τ : Type) where
  conditionId : String
  targetId : Option String
  kind : String
  severity : Severity
  lifecycle : ConditionLifecycle
  firstObservedAt : Option τ
  lastObservedAt : Option τ
  activeCount : UInt32
  clearCount : UInt32
  alertDeliveryState : AlertDeliveryState
  lastTransitionRun : Option String

structure LatchRecord (τ : Type) extends LatchColumns τ where
  episodeId : Option String

structure OutboxColumns (τ : Type) where
  id : String
  runId : String
  transition : TransitionKind
  title : String
  message : String
  priority : ℤ
  status : NotificationStatus
  createdAt : τ
  nextRetryAt : Option τ
  deliveredAt : Option τ
  remoteRequestId : Option String
  errorClass : Option String

/-- Version 1 had no message in flight. -/
structure LegacyMessage extends OutboxColumns String where
  status_check : status ≠ .inFlight

structure OutboxRecord (τ : Type) extends OutboxColumns τ where
  attemptId : Option String

structure MemberColumns where
  notificationId : String
  conditionId : String

structure MemberRecord extends MemberColumns where
  episodeId : String
  summary : String

structure AttemptColumns (τ : Type) where
  id : String
  notificationId : String
  startedAt : τ
  httpStatus : Option ℤ
  remoteRequestId : Option String
  errorClass : Option String

/-- An attempt of version 1 had ended; its outcome was any text. -/
structure LegacyAttempt extends AttemptColumns String where
  completedAt : String
  outcome : String

structure AttemptRecord (τ : Type) extends AttemptColumns τ where
  executingRunId : String
  completedAt : Option τ
  outcome : AttemptOutcome

/-! ### Primary keys -/

def ObservationColumns.key (row : ObservationColumns) : String × String := (row.runId, row.targetId)

/-- The observation an upstream hangs on. -/
def UpstreamColumns.parent (row : UpstreamColumns) : String × String := (row.runId, row.targetId)

def UpstreamColumns.key (row : UpstreamColumns) : (String × String) × String := (row.parent, row.upstreamIdentity)

def FilterColumns.parent (row : FilterColumns) : String × String := (row.runId, row.targetId)

def FilterColumns.key (row : FilterColumns) : (String × String) × String := (row.parent, row.filterUrl)

def RewriteRecord.parent (row : RewriteRecord) : String × String := (row.runId, row.targetId)

def RewriteRecord.key (row : RewriteRecord) : (String × String) × (String ×ₗ String) :=
  (row.parent, row.toRewriteRow.key)

def EvaluationColumns.key (row : EvaluationColumns) : String × String := (row.runId, row.conditionId)

def MemberColumns.key (row : MemberColumns) : String × String := (row.notificationId, row.conditionId)

/-! ### Databases -/

/-- The upstreams of versions 1 and 2. -/
abbrev UpstreamTable : Type := Table UpstreamColumns.key

/-- The upstreams with their response counts. -/
abbrev CountedUpstreamTable : Type := Table fun row : UpstreamRecord => row.key

/-- A database of version 1; `υ` is its table of upstreams. -/
structure LegacyTables (υ : Type) where
  schemaMigrations : Table (@MigrationRow.version String)
  runs : Table (@RunColumns.id String)
  targetObservations : Table fun row : LegacyObservation => row.key
  upstreamObservations : υ
  filterObservations : Table fun row : LegacyFilter => row.key
  rewriteObservations : Table RewriteRecord.key
  aggregateObservations : Table fun row : LegacyAggregate => row.runId
  conditionEvaluations : Table EvaluationColumns.key
  conditionState : Table (@LatchColumns.conditionId String)
  targetRuntimeState : Table TargetRuntimeState.targetId
  notificationOutbox : Table fun row : LegacyMessage => row.id
  notificationConditions : Table MemberColumns.key
  notificationAttempts : Table fun row : LegacyAttempt => row.id

/-- A database of version 2, or 3 once its upstreams are counted. -/
structure Tables (τ υ : Type) where
  schemaMigrations : Table (@MigrationRow.version τ)
  stateIdentity : Option RunMode
  runs : Table fun row : RunRecord τ => row.id
  targetObservations : Table fun row : ObservationRecord => row.key
  upstreamObservations : υ
  filterObservations : Table fun row : FilterRecord => row.key
  rewriteObservations : Table RewriteRecord.key
  aggregateObservations : Table fun row : AggregateRecord => row.runId
  conditionEvaluations : Table fun row : EvaluationRecord => row.key
  conditionState : Table fun row : LatchRecord τ => row.conditionId
  targetRuntimeState : Table TargetRuntimeState.targetId
  notificationOutbox : Table fun row : OutboxRecord τ => row.id
  notificationConditions : Table fun row : MemberRecord => row.key
  notificationAttempts : Table fun row : AttemptRecord τ => row.id

/-- A state file, by its `user_version`. -/
inductive StateFile where
  | v1 (tables : LegacyTables UpstreamTable)
  | v2 (tables : Tables Timestamp UpstreamTable)
  | v3 (tables : Tables Timestamp CountedUpstreamTable)

def StateFile.version : StateFile → ℤ
  | v1 _ => 1
  | v2 _ => 2
  | v3 _ => 3

/-! ### What the current store sees -/

def UpstreamRecord.nested (row : UpstreamRecord) : UpstreamRow :=
  ⟨row.ordinal, row.upstreamIdentity, row.averageSeconds, row.responses⟩

def FilterRecord.nested (row : FilterRecord) : FilterRow :=
  ⟨row.filterUrl, row.serverId, row.enabled, row.rulesCount, row.lastUpdated, row.lastUpdatedUnixSeconds⟩

/-- The aggregate, if its JSON is readable. -/
def AggregateRecord.nested (row : AggregateRecord) : Option AggregateRow := do
  let resolverQueryShare ← row.resolverQueryShare.toOption
  let topClientShare ← row.topClientShare.toOption
  return {
    localHour := row.localHour
    utcOffsetMinutes := row.utcOffsetMinutes
    combinedQueries := row.combinedQueries
    combinedBlockedRatio := row.combinedBlockedRatio
    baselineAgeSeconds := row.baselineAgeSeconds
    sameHourSamples := row.sameHourSamples
    baselineReady := row.baselineReady
    resolverQueryShare, topClientShare }

/-- The evaluation, if its evidence is readable. -/
def EvaluationRecord.nested (row : EvaluationRecord) : Option EvaluationRow := do
  let evidence ← row.evidence.toOption
  return ⟨row.conditionId, row.outcome, row.expected, row.observed, evidence, row.complete, row.episodeId⟩

def MemberRecord.nested (row : MemberRecord) : NotificationCondition :=
  ⟨row.conditionId, row.episodeId, row.summary⟩

def AttemptRecord.nested (row : AttemptRecord Timestamp) : AttemptRow where
  id := row.id
  executingRunId := row.executingRunId
  startedAt := row.startedAt
  completedAt := row.completedAt
  outcome := row.outcome
  httpStatus := row.httpStatus
  remoteRequestId := row.remoteRequestId
  errorClass := row.errorClass

def LatchRecord.nested (row : LatchRecord Timestamp) : ConditionState where
  id := row.conditionId
  targetId := row.targetId
  kind := row.kind
  severity := row.severity
  lifecycle := row.lifecycle
  firstObservedAt := row.firstObservedAt
  lastObservedAt := row.lastObservedAt
  consecutiveActive := row.activeCount
  consecutiveClear := row.clearCount
  alertDeliveryState := row.alertDeliveryState
  lastTransitionRun := row.lastTransitionRun
  episodeId := row.episodeId

namespace Tables

section Nested

variable (tables : Tables Timestamp CountedUpstreamTable)

def upstreamsOf (parent : String × String) : Table UpstreamRow.upstreamIdentity :=
  tables.upstreamObservations.under (·.parent) parent (fun row => some row.nested)
    fun a b a' b' hparent ha hb hkey => by
      obtain rfl := Option.some.inj ha
      obtain rfl := Option.some.inj hb
      exact Prod.ext hparent hkey

def filtersOf (parent : String × String) : Table FilterRow.filterUrl :=
  tables.filterObservations.under (·.parent) parent (fun row => some row.nested)
    fun a b a' b' hparent ha hb hkey => by
      obtain rfl := Option.some.inj ha
      obtain rfl := Option.some.inj hb
      exact Prod.ext hparent hkey

def rewritesOf (parent : String × String) : Table RewriteRow.key :=
  tables.rewriteObservations.under (·.parent) parent (fun row => some row.toRewriteRow)
    fun a b a' b' hparent ha hb hkey => by
      obtain rfl := Option.some.inj ha
      obtain rfl := Option.some.inj hb
      exact Prod.ext hparent hkey

/-- An observation with what hangs on it. -/
def nestedTarget (row : ObservationRecord) : TargetRow where
  targetId := row.targetId
  targetName := row.targetName
  status := row.status
  complete := row.complete
  serverVersion := row.serverVersion
  protectionEnabled := row.protectionEnabled
  queries := row.queries
  blocked := row.blocked
  countersExact := row.countersExact
  blockedRatio := row.blockedRatio
  averageProcessingSeconds := row.averageProcessingSeconds
  maximumUpstreamSeconds := row.maximumUpstreamSeconds
  topClientShare := row.topClientShare
  dnsUpstreamMode := row.dnsUpstreamMode
  dnsUpstream := row.dnsUpstream.bind (·.toOption)
  filteringEnabled := row.filteringEnabled
  rewritesEnabled := row.rewritesEnabled
  errorKind := row.errorKind
  errorDetail := row.errorDetail
  upstreams := tables.upstreamsOf row.key
  filters := tables.filtersOf row.key
  rewrites := tables.rewritesOf row.key

def targetsOf (runId : String) : Table TargetRow.targetId :=
  tables.targetObservations.under (·.runId) runId (fun row => some (tables.nestedTarget row))
    fun a b a' b' hparent ha hb hkey => by
      obtain rfl := Option.some.inj ha
      obtain rfl := Option.some.inj hb
      exact Prod.ext hparent hkey

def evaluationsOf (runId : String) : Table EvaluationRow.conditionId :=
  tables.conditionEvaluations.under (·.runId) runId (·.nested) fun a b a' b' hparent ha hb hkey => by
    obtain ⟨_, -, ha⟩ := Option.bind_eq_some_iff.mp ha
    obtain ⟨_, -, hb⟩ := Option.bind_eq_some_iff.mp hb
    obtain rfl := Option.some.inj ha
    obtain rfl := Option.some.inj hb
    exact Prod.ext hparent hkey

/-- A run with what hangs on it. -/
def nestedRun (run : RunRecord Timestamp) : RunRow where
  id := run.id
  startedAt := run.startedAt
  completedAt := run.completedAt
  mode := run.mode
  configSha256 := run.configSha256
  status := run.status
  expectedTargets := run.expectedTargets
  completeTargets := run.completeTargets
  minimumTargets := run.minimumTargets
  exitCode := run.exitCode
  healthIssues := run.healthIssues
  deliveryActivity := run.deliveryActivity
  targets := tables.targetsOf run.id
  aggregate := (tables.aggregateObservations.find? run.id).bind (·.nested)
  evaluations := tables.evaluationsOf run.id

def membersOf (notificationId : String) : Table NotificationCondition.conditionId :=
  tables.notificationConditions.under (·.notificationId) notificationId (fun row => some row.nested)
    fun a b a' b' hparent ha hb hkey => by
      obtain rfl := Option.some.inj ha
      obtain rfl := Option.some.inj hb
      exact Prod.ext hparent hkey

def attemptsOf (notificationId : String) : Table AttemptRow.id :=
  tables.notificationAttempts.under (·.notificationId) notificationId (fun row => some row.nested)
    fun a b a' b' _ ha hb hkey => by
      obtain rfl := Option.some.inj ha
      obtain rfl := Option.some.inj hb
      exact hkey

/-- A message with what hangs on it. -/
def nestedMessage (row : OutboxRecord Timestamp) : OutboxRow where
  id := row.id
  runId := row.runId
  transition := row.transition
  title := row.title
  message := row.message
  priority := row.priority
  status := row.status
  createdAt := row.createdAt
  nextRetryAt := row.nextRetryAt
  deliveredAt := row.deliveredAt
  remoteRequestId := row.remoteRequestId
  errorClass := row.errorClass
  attemptId := row.attemptId
  conditions := tables.membersOf row.id
  attempts := tables.attemptsOf row.id

/-- The database the current store works on. A JSON column that is not
readable is left out, with the row where it is not null. -/
def store : StateStore where
  stateIdentity := tables.stateIdentity
  runs := tables.runs.image tables.nestedRun fun _ => rfl
  notificationOutbox := tables.notificationOutbox.image tables.nestedMessage fun _ => rfl
  conditionState := tables.conditionState.image LatchRecord.nested fun _ => rfl
  targetRuntimeState := tables.targetRuntimeState

/-- The JSON of a run's observations is readable. -/
def readTargets (runId : String) : Except StoreError Unit :=
  (tables.targetObservations.rows.filter (·.runId = runId)).forM fun row => row.dnsUpstream.forM fun json => do
    let _ ← readJson json

/-- The JSON a report of the run needs is readable. -/
def readRun (runId : String) : Except StoreError Unit := do
  (tables.conditionEvaluations.rows.filter (·.runId = runId)).forM fun row => do
    let _ ← readJson row.evidence
  tables.readTargets runId
  (tables.aggregateObservations.find? runId).forM fun row => do
    let _ ← readJson row.resolverQueryShare
    let _ ← readJson row.topClientShare

/-- `load_targets`. -/
def loadTargets (runId : String) : Except StoreError (List TargetReport) := do
  tables.readTargets runId
  (orderBy (·.targetId) (tables.targetsOf runId).rows).mapM (·.load)

/-- `load_reports`. -/
def loadReports (limit : ℕ) (since : Option Timestamp) : Except StoreError (List RunReport) := do
  let reports ← tables.store.loadReports limit since
  reports.forM fun report => tables.readRun report.runId
  return reports

end Nested

end Tables

end Sentinel
