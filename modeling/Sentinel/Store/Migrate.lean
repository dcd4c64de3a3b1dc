/-
# Migrating released state

`migrate` turns a state file of version 1 or 2 into one of version 3, in one
transaction. The upstreams get their response counts, unknown so far. Version
1 is rebuilt table by table, its timestamps are respelled, and its
notification history is read for what it proves: a message whose delivery it
does not prove becomes `unknown`, and with it what the latches claim.
-/
import Sentinel.Core.Packages
import Sentinel.Lib.CrashTxn
import Sentinel.Store.Legacy

namespace Sentinel

open Collections

/-- Every row, in order, as `f` writes it into a new table. -/
def carryRows {ρ ρ' κ κ' : Type} [DecidableEq κ'] {key : ρ → κ} {key' : ρ' → κ'} (f : ρ → Except StoreError ρ')
    (table : Table key) : Except StoreError (Table key') := do
  constraint (Table.empty.insertAll (← table.rows.mapM f))

/-! ### Rebuilding the tables -/

/-- The counts were never retained. -/
def UpstreamColumns.rebuild (row : UpstreamColumns) : UpstreamRecord := { row with responses := none }

/-- `add_upstream_response_counts`. -/
def addUpstreamResponseCounts (upstreams : UpstreamTable) : Except StoreError CountedUpstreamTable :=
  carryRows (fun row => .ok row.rebuild) upstreams

/-- An integer in a text column. -/
def countText (count : LegacyCount) : String := Nat.repr count.val

def RunColumns.rebuild (row : RunColumns String) : RunRecord String :=
  { row with healthIssues := [], deliveryActivity := [] }

def LegacyObservation.rebuild (row : LegacyObservation) : Except StoreError ObservationRecord := do
  let queries := row.queries.map countText
  let blocked := row.blocked.map countText
  columnCheck (queries.all unsignedText && blocked.all unsignedText)
  return { row with queries, blocked, countersExact := true }

def LegacyFilter.rebuild (row : LegacyFilter) : Except StoreError FilterRecord := do
  let rulesCount := countText row.rulesCount
  columnCheck (unsignedText rulesCount)
  return { row with rulesCount }

def LegacyAggregate.rebuild (row : LegacyAggregate) : Except StoreError AggregateRecord := do
  let combinedQueries := countText row.combinedQueries
  columnCheck (unsignedText combinedQueries)
  return { row with combinedQueries }

def EvaluationColumns.rebuild (row : EvaluationColumns) : EvaluationRecord := { row with episodeId := none }

def LatchColumns.rebuild (row : LatchColumns String) : LatchRecord String := { row with episodeId := none }

def LegacyMessage.rebuild (row : LegacyMessage) : OutboxRecord String := { row with attemptId := none }

def MemberColumns.rebuild (row : MemberColumns) : MemberRecord := { row with episodeId := "", summary := "" }

def AttemptOutcome.decode : String → Option AttemptOutcome
  | "in_flight" => some .inFlight
  | "delivered" => some .delivered
  | "retryable" => some .retryable
  | "failed" => some .failed
  | "unknown" => some .unknown
  | _ => none

/-- The run that queued the message executed the attempt. -/
def LegacyAttempt.rebuild (outbox : Table fun row : OutboxRecord String => row.id) (row : LegacyAttempt) :
    Except StoreError (AttemptRecord String) := do
  let message ← constraint (outbox.find? row.notificationId)
  let outcome ← constraint (AttemptOutcome.decode row.outcome)
  return { row with executingRunId := message.runId, completedAt := some row.completedAt, outcome }

namespace LegacyTables

variable {υ : Type}

/-- The mode every run was made in, if there are runs. -/
def runMode (tables : LegacyTables υ) : Except StoreError (Option RunMode) := do
  let modes := (tables.runs.rows.map (·.mode)).dedup
  Fallible.ensure (modes.length ≤ 1)
    (.invalidData "legacy state contains both live and dry-run histories")
  Fallible.ensure (modes ≠ [] || tables.conditionState.rows.length + tables.targetRuntimeState.rows.length = 0)
    (.invalidData "legacy state has latches but no history establishing its run mode")
  return modes.head?

/-- The tables as version 2 has them. -/
def rebuild (stateIdentity : Option RunMode) (tables : LegacyTables υ) : Except StoreError (Tables String υ) := do
  let runs ← carryRows (fun row => .ok row.rebuild) tables.runs
  let targetObservations ← carryRows (·.rebuild) tables.targetObservations
  let filterObservations ← carryRows (·.rebuild) tables.filterObservations
  let aggregateObservations ← carryRows (·.rebuild) tables.aggregateObservations
  let conditionEvaluations ← carryRows (fun row => .ok row.rebuild) tables.conditionEvaluations
  let conditionState ← carryRows (fun row => .ok row.rebuild) tables.conditionState
  let notificationOutbox ← carryRows (fun row => .ok row.rebuild) tables.notificationOutbox
  let notificationConditions ← carryRows (fun row => .ok row.rebuild) tables.notificationConditions
  let notificationAttempts ← carryRows (·.rebuild notificationOutbox) tables.notificationAttempts
  return {
    schemaMigrations := tables.schemaMigrations
    stateIdentity, runs, targetObservations
    upstreamObservations := tables.upstreamObservations
    filterObservations
    rewriteObservations := tables.rewriteObservations
    aggregateObservations, conditionEvaluations, conditionState
    targetRuntimeState := tables.targetRuntimeState
    notificationOutbox, notificationConditions, notificationAttempts }

end LegacyTables

/-! ### Respelling timestamps -/

section Respell

variable (packages : Packages)

/-- `canonical_timestamp` of a text; the error's text is the time library's. -/
def canonicalText (text : String) : Except StoreError Timestamp := do
  canonicalTimestamp (← Fallible.demand (.invalidData "invalid timestamp") (packages.parseTimestamp text))

def RunRecord.respell (row : RunRecord String) : Except StoreError (RunRecord Timestamp) := do
  let startedAt ← canonicalText packages row.startedAt
  let completedAt ← canonicalText packages row.completedAt
  return { row with startedAt, completedAt }

def OutboxRecord.respell (row : OutboxRecord String) : Except StoreError (OutboxRecord Timestamp) := do
  let createdAt ← canonicalText packages row.createdAt
  let nextRetryAt ← row.nextRetryAt.mapM (canonicalText packages)
  let deliveredAt ← row.deliveredAt.mapM (canonicalText packages)
  return { row with createdAt, nextRetryAt, deliveredAt }

def AttemptRecord.respell (row : AttemptRecord String) : Except StoreError (AttemptRecord Timestamp) := do
  let startedAt ← canonicalText packages row.startedAt
  let completedAt ← row.completedAt.mapM (canonicalText packages)
  return { row with startedAt, completedAt }

def LatchRecord.respell (row : LatchRecord String) : Except StoreError (LatchRecord Timestamp) := do
  let firstObservedAt ← row.firstObservedAt.mapM (canonicalText packages)
  let lastObservedAt ← row.lastObservedAt.mapM (canonicalText packages)
  return { row with firstObservedAt, lastObservedAt }

def MigrationRow.respell (row : MigrationRow String) : Except StoreError (MigrationRow Timestamp) := do
  let appliedAt ← canonicalText packages row.appliedAt
  return { row with appliedAt }

/-- `normalize_timestamps`. The source goes column by column: of several
unreadable texts it may report another. -/
def Tables.normalizeTimestamps {υ : Type} (tables : Tables String υ) : Except StoreError (Tables Timestamp υ) := do
  let runs ← carryRows (·.respell packages) tables.runs
  let notificationOutbox ← carryRows (·.respell packages) tables.notificationOutbox
  let notificationAttempts ← carryRows (·.respell packages) tables.notificationAttempts
  let conditionState ← carryRows (·.respell packages) tables.conditionState
  let schemaMigrations ← carryRows (·.respell packages) tables.schemaMigrations
  return { tables with runs, notificationOutbox, notificationAttempts, conditionState, schemaMigrations }

end Respell

/-! ### Saturated counters -/

/-- The text of the greatest integer of a version 1 column. -/
def saturatedText : String := "9223372036854775807"

/-- Version 1 saturated its counters: the greatest may stand for more. -/
def ObservationRecord.flagSaturated (row : ObservationRecord) : ObservationRecord :=
  if row.queries = some saturatedText ∨ row.blocked = some saturatedText then { row with countersExact := false }
  else row

theorem ObservationRecord.flagSaturated_columns (row : ObservationRecord) :
    row.flagSaturated.toObservationColumns = row.toObservationColumns := by
  unfold flagSaturated
  split <;> rfl

def Tables.flagSaturated {τ υ : Type} (tables : Tables τ υ) : Tables τ υ :=
  { tables with
    targetObservations := tables.targetObservations.modify (·.flagSaturated) fun row =>
      congrArg ObservationColumns.key row.flagSaturated_columns }

/-! ### The notification history -/

def legacyEpisode (runId conditionId : String) : String := "legacy:" ++ runId ++ ":" ++ conditionId

/-- `length(trim(…)) > 0`: SQL trims blanks, and counts to the first NUL. -/
def isNonblank (text : String) : Bool :=
  match text.toList.dropWhile (· = ' ') with
  | c :: _ => c ≠ '\x00'
  | [] => false

namespace Tables

variable {υ : Type}

/-- Each latch's episode began with its last transition. -/
def nameEpisodes (tables : Tables Timestamp υ) : Tables Timestamp υ :=
  { tables with
    conditionState := tables.conditionState.modify (fun latch =>
      { latch with episodeId := some (legacyEpisode (latch.lastTransitionRun.getD "state") latch.conditionId) })
      fun _ => rfl }

/-- `load_notification_conditions`. -/
def memberIds (notificationId : String) (tables : Tables Timestamp υ) : List String :=
  orderBy id ((tables.notificationConditions.rows.filter (·.notificationId = notificationId)).map (·.conditionId))

/-- The summary a run recorded for a condition. -/
def recordedSummary (runId conditionId : String) (tables : Tables Timestamp υ) : Except StoreError (Option String) :=
  (tables.conditionEvaluations.find? (runId, conditionId)).mapM fun row => do
    return (← readJson row.evidence).summary

def updateEvaluation (runId conditionId : String) (f : EvaluationRecord → EvaluationRecord)
    (hf : ∀ row, (f row).key = row.key) (tables : Tables Timestamp υ) : Tables Timestamp υ :=
  { tables with conditionEvaluations := tables.conditionEvaluations.update (runId, conditionId) f hf }

/-- `UPDATE condition_evaluations SET episode_id`. -/
def setEpisode (runId conditionId episode : String) (tables : Tables Timestamp υ) : Tables Timestamp υ :=
  tables.updateEvaluation runId conditionId (fun row => { row with episodeId := some episode }) fun _ => rfl

/-- A member takes its episode and its recorded summary; its evaluation takes
the episode. -/
def attributeMember (message : OutboxRecord Timestamp) (state : Tables Timestamp υ × List (Option String))
    (conditionId : String) : Except StoreError (Tables Timestamp υ × List (Option String)) := do
  let (tables, summaries) := state
  let summary ← tables.recordedSummary message.runId conditionId
  let episode := legacyEpisode message.runId conditionId
  let tables := { tables with
    notificationConditions := tables.notificationConditions.update (message.id, conditionId) (fun member =>
      { member with
        episodeId := episode
        summary := summary.getD "Legacy transition; original summary unavailable" }) fun _ => rfl }
  return (tables.setEpisode message.runId conditionId episode, summaries ++ [summary])

/-- The message's text is exactly the summaries of all its members. -/
def isVisible (message : OutboxRecord Timestamp) (members : List String) (summaries : List (Option String)) : Bool :=
  let lines := summaries.mapM fun summary => summary.map ("- " ++ ·)
  members ≠ [] && lines.map ("\n".intercalate ·) = some message.message && message.message.length ≤ 1024

/-- A completed attempt was accepted under the message's own request id. -/
def isAcknowledged (message : OutboxRecord Timestamp) (tables : Tables Timestamp υ) : Bool :=
  tables.notificationAttempts.rows.any fun attempt =>
    attempt.notificationId = message.id && message.remoteRequestId.any isNonblank &&
      attempt.remoteRequestId = message.remoteRequestId && attempt.outcome = .delivered &&
      attempt.httpStatus = some 200 && attempt.completedAt.isSome

/-- The delivery is not proved either way. -/
def isUnconfirmed (status : NotificationStatus) (visible acknowledged : Bool) : Bool :=
  status = .pending || status = .retryable || status = .delivered && (!visible || !acknowledged)

/-- An unconfirmed message. -/
def quarantinedRow (row : OutboxRecord Timestamp) : OutboxRecord Timestamp :=
  { row with status := .unknown, nextRetryAt := none, errorClass := some "legacy_delivery_unconfirmed" }

/-- `refresh_evaluation`. -/
def refreshEvaluation (runId conditionId episode : String) (state : AlertDeliveryState) (tables : Tables Timestamp υ) :
    Except StoreError (Tables Timestamp υ) :=
  match tables.conditionEvaluations.find? (runId, conditionId) with
  | none => return tables
  | some row =>
    if row.episodeId = some episode then do
      let evaluation ← readJson row.evidence
      return tables.updateEvaluation runId conditionId
        (fun row => { row with evidence := .ok { evaluation with notificationState := state } }) fun _ => rfl
    else return tables

/-- An unconfirmed message leaves the latches of its episodes unknown. -/
def disclaimLatch (conditionId episode : String) (tables : Tables Timestamp υ) : Tables Timestamp υ :=
  { tables with
    conditionState := tables.conditionState.update conditionId (fun latch =>
      if latch.episodeId = some episode then { latch with alertDeliveryState := .unknown } else latch)
      fun latch => by split <;> rfl }

/-- A confirmed alert confirms its members' episodes, an unconfirmed message
disclaims them. -/
def settleMember (message : OutboxRecord Timestamp) (unconfirmed : Bool)
    (state : Tables Timestamp υ × List (String × String)) (conditionId : String) :
    Except StoreError (Tables Timestamp υ × List (String × String)) := do
  let (tables, confirmed) := state
  let episode := legacyEpisode message.runId conditionId
  let confirmed := if message.status = .delivered && message.transition = .alert && !unconfirmed
    then confirmed ++ [(conditionId, episode)] else confirmed
  if unconfirmed then do
    let tables ← (tables.disclaimLatch conditionId episode).refreshEvaluation message.runId conditionId episode .unknown
    return (tables, confirmed)
  else return (tables, confirmed)

/-- One message of the history; `confirmed` are the members of the alerts
whose delivery is proved. -/
def migrateMessage (state : Tables Timestamp υ × List (String × String)) (message : OutboxRecord Timestamp) :
    Except StoreError (Tables Timestamp υ × List (String × String)) := do
  let (tables, confirmed) := state
  let members := tables.memberIds message.id
  let (tables, summaries) ← members.foldlM (attributeMember message) (tables, [])
  let unconfirmed := isUnconfirmed message.status (isVisible message members summaries) (tables.isAcknowledged message)
  let tables := if unconfirmed
    then { tables with notificationOutbox := tables.notificationOutbox.update message.id quarantinedRow fun _ => rfl }
    else tables
  members.foldlM (settleMember message unconfirmed) (tables, confirmed)

/-- A latch claims nothing that is not confirmed. -/
def withdrawClaims (confirmed : List (String × String)) (tables : Tables Timestamp υ) : Tables Timestamp υ :=
  { tables with
    conditionState := tables.conditionState.modify (fun latch =>
      if latch.alertDeliveryState = .pending ∨ latch.alertDeliveryState = .delivered ∧
          (latch.conditionId, latch.episodeId.getD "") ∉ confirmed
      then { latch with alertDeliveryState := .unknown } else latch) fun latch => by split <;> rfl }

/-- The run of a condition's latest evaluation. -/
def latestEvaluated (conditionId : String) (tables : Tables Timestamp υ) : Option String :=
  (findLast (fun run => (tables.conditionEvaluations.find? (run.id, conditionId)).isSome)
    (orderBy (·.completedAt) tables.runs.rows)).map (·.id)

/-- The latest evaluation of a latch takes its episode and delivery state. -/
def refreshLatest (tables : Tables Timestamp υ) (entry : String × LatchRecord Timestamp) :
    Except StoreError (Tables Timestamp υ) :=
  let (runId, latch) := entry
  let episode := latch.episodeId.getD ""
  (tables.setEpisode runId latch.conditionId episode).refreshEvaluation runId latch.conditionId episode
    latch.alertDeliveryState

/-- `migrate_notification_history`. -/
def migrateNotificationHistory (tables : Tables Timestamp υ) : Except StoreError (Tables Timestamp υ) := do
  let tables := tables.nameEpisodes
  let messages := orderBy (·.createdAt) tables.notificationOutbox.rows
  let (tables, confirmed) ← messages.foldlM migrateMessage (tables, [])
  let tables := tables.withdrawClaims confirmed
  let latest := tables.conditionState.rows.filterMap fun latch =>
    (tables.latestEvaluated latch.conditionId).map fun runId => (runId, latch)
  latest.foldlM refreshLatest tables

end Tables

/-! ### Health -/

/-- What is wrong with a run. -/
def migratedIssues (run : RunRecord Timestamp) (targets : List TargetReport) : List String :=
  ((targets.filter (!·.complete)).map fun target =>
      "target " ++ target.id ++ " incomplete: " ++ target.errorKind.getD "unknown") ++
    if run.completeTargets < run.minimumTargets then ["minimum complete target count was not met"] else []

/-- `migrate_health`. -/
def Tables.migrateHealth (tables : Tables Timestamp CountedUpstreamTable) :
    Except StoreError (Tables Timestamp CountedUpstreamTable) := do
  let runs ← carryRows (fun run => do
    return { run with healthIssues := migratedIssues run (← tables.loadTargets run.id) }) tables.runs
  return { tables with runs }

/-! ### The migration -/

section Migrate

variable (packages : Packages) (checksum : ℤ → String) (appliedAt : ℤ → Timestamp)

def migrationName (version : ℤ) : String :=
  match version with
  | 1 => "initial"
  | 2 => "durable-delivery"
  | 3 => "upstream-response-counts"
  | _ => "unknown"

def Tables.recordMigration {υ : Type} (version : ℤ) (tables : Tables Timestamp υ) :
    Except StoreError (Tables Timestamp υ) := do
  columnCheck (!tables.schemaMigrations.rows.any (·.name = migrationName version))
  let schemaMigrations ← constraint
    (tables.schemaMigrations.insert? ⟨version, migrationName version, checksum version, appliedAt version⟩)
  return { tables with schemaMigrations }

/-- `migrate_to_v2`. -/
def LegacyTables.migrateToV2 (tables : LegacyTables CountedUpstreamTable) :
    Except StoreError (Tables Timestamp CountedUpstreamTable) := do
  let stateIdentity ← tables.runMode
  let tables ← tables.rebuild stateIdentity
  let tables ← tables.normalizeTimestamps packages
  let tables ← tables.flagSaturated.migrateNotificationHistory
  let tables ← tables.migrateHealth
  tables.recordMigration checksum appliedAt 2

/-- `pragma_foreign_key_check`: how many rows refer to a row that is not there. -/
def Tables.brokenForeignKeys (tables : Tables Timestamp CountedUpstreamTable) : ℕ :=
  let orphan (runId : String) : Bool := (tables.runs.find? runId).isNone
  let unobserved (parent : String × String) : Bool := (tables.targetObservations.find? parent).isNone
  let unqueued (notificationId : String) : Bool := (tables.notificationOutbox.find? notificationId).isNone
  tables.targetObservations.rows.countP (fun row => orphan row.runId) +
    tables.upstreamObservations.rows.countP (fun row => unobserved row.parent) +
    tables.filterObservations.rows.countP (fun row => unobserved row.parent) +
    tables.rewriteObservations.rows.countP (fun row => unobserved row.parent) +
    tables.aggregateObservations.rows.countP (fun row => orphan row.runId) +
    tables.conditionEvaluations.rows.countP (fun row => orphan row.runId) +
    tables.notificationOutbox.rows.countP (fun row => orphan row.runId) +
    tables.notificationConditions.rows.countP (fun row => unqueued row.notificationId) +
    tables.notificationAttempts.rows.countP (fun row => unqueued row.notificationId)

/-- The end of the transaction, whatever the version it began with. -/
def Tables.finishMigration (tables : Tables Timestamp CountedUpstreamTable) :
    Except StoreError (Tables Timestamp CountedUpstreamTable) := do
  let tables ← tables.recordMigration checksum appliedAt 3
  Fallible.ensure (tables.brokenForeignKeys = 0) (.invalidData "legacy state contains broken foreign keys")
  return tables

/-- `migrate_transaction`. -/
def migrateTransaction : StateFile → Except StoreError (Tables Timestamp CountedUpstreamTable)
  | .v1 tables => do
    let upstreamObservations ← addUpstreamResponseCounts tables.upstreamObservations
    let tables ← { tables with upstreamObservations }.migrateToV2 packages checksum appliedAt
    tables.finishMigration checksum appliedAt
  | .v2 tables => do
    let upstreamObservations ← addUpstreamResponseCounts tables.upstreamObservations
    { tables with upstreamObservations }.finishMigration checksum appliedAt
  | .v3 _ => .error (.unsupportedVersion 3)

/-- The digests of a file's recorded migrations. -/
def StateFile.recordedChecksum (version : ℤ) : StateFile → Option String
  | .v1 tables => (tables.schemaMigrations.find? version).map (·.checksum)
  | .v2 tables => (tables.schemaMigrations.find? version).map (·.checksum)
  | .v3 tables => (tables.schemaMigrations.find? version).map (·.checksum)

/-- `validate`. -/
def StateFile.validate (expected : ℤ) (file : StateFile) : Except StoreError Unit := do
  Fallible.ensure (file.version = expected) (.unsupportedVersion file.version)
  (List.range expected.toNat).forM fun index => do
    let version : ℤ := index + 1
    Fallible.ensure (file.recordedChecksum version = some (checksum version))
      (.invalidData s!"state migration checksum is absent or does not match schema v{version}")

/-- `migrate`. -/
def migrate (version : ℤ) : CrashTxn StateFile StoreError Unit := do
  CrashTxn.read fun file => do
    Fallible.ensure (1 ≤ version ∧ version < 3) (.unsupportedVersion version)
    file.validate checksum version
  CrashTxn.commit fun file => do return (.v3 (← migrateTransaction packages checksum appliedAt file), ())

end Migrate

end Sentinel
