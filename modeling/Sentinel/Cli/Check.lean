/-
# The check command

What `check` does to the state database, in order: it quarantines attempts
whose process died, commits the run it observed, and, unless notifications
are suppressed, claims, sends and records the pending messages until one is
not delivered. What it observes in between, the clock and the results of
sending are inputs.
-/
import Sentinel.Cli.Assembly
import Sentinel.Store.Attempt
import Sentinel.Store.Load

namespace Sentinel

/-- The text of a store's error. -/
def StoreError.text : StoreError → String
  | sqlite => "cannot open or use state database"
  | unsupportedVersion observed =>
    "state schema version " ++ toString observed ++ " is unsupported; expected 3"
  | invalidData detail => "state contains invalid serialized data: " ++ detail

/-- `CommandError::state`. -/
def CommandError.ofStore (error : StoreError) : CommandError := .state error.text

/-- What a check does with one message: the id it draws, the clock around the
sending, and what came of it. -/
structure Sending where
  uuid : String
  startedAt : Timestamp
  completedAt : Timestamp
  outcome : NotificationAttemptOutcome

/-- What a check meets outside the database. -/
structure CheckInputs where
  mode : RunMode
  started : Timestamp
  /-- The run's report, from what was recovered and what is stored. -/
  observe : List DeliveryActivity → StateStore → Except CommandError RunReport
  config : Config
  completedUnixSeconds : ℤ
  retentionCutoff : Timestamp
  suppressNotifications : Bool
  uuids : ℕ → String
  selectedAt : Timestamp
  /-- The error of setting up the provider's client. -/
  providerError : Option String
  send : OutboxMessage → Sending

namespace StateStore

/-- A read of the store by the command. -/
def readFor {α : Type} (f : StateStore → Except StoreError α) : CrashTxn StateStore CommandError α :=
  CrashTxn.mapError .ofStore (CrashTxn.read f)

/-- A transaction of the command. -/
def commitFor {α : Type} (f : StateStore → Except StoreError (StateStore × α)) :
    CrashTxn StateStore CommandError α :=
  CrashTxn.mapError .ofStore (CrashTxn.commit f)

end StateStore

/-- The clock is not behind the latest run. -/
def checkClock (started : Timestamp) (store : StateStore) : Except CommandError Unit :=
  Fallible.ensure (store.latestCompletedAt.all (· ≤ started))
    (.state "wall clock regressed behind the latest completed run; state was not advanced")

/-- Sends the pending messages, until one is not delivered; whether that
happened. -/
def deliverPending (send : OutboxMessage → Sending) (runId : String) :
    List OutboxMessage → CrashTxn StateStore CommandError Bool
  | [] => pure false
  | message :: pending => do
    let sending := send message
    let attempt ← StateStore.commitFor fun store =>
      store.beginNotificationAttempt sending.uuid message.id sending.startedAt runId
    let _ ← StateStore.commitFor fun store =>
      store.recordNotificationAttempt attempt sending.completedAt sending.outcome
    if sending.outcome.status = .delivered then deliverPending send runId pending else pure true

/-- The delivery of a check, which may be suppressed; whether a message was
not delivered. -/
def deliver (inputs : CheckInputs) (runId : String) : CrashTxn StateStore CommandError Bool :=
  if inputs.suppressNotifications then pure false
  else do
    let pending ← StateStore.readFor (·.pendingOutbox inputs.selectedAt)
    let _ ← CrashTxn.read fun _ => Fallible.ensure (pending = [] ∨ inputs.providerError = none)
      (.invocation (inputs.providerError.getD ""))
    deliverPending inputs.send runId pending

/-- `check_with_sink`, as it uses the state database: the exit code. -/
def checkWithSink (inputs : CheckInputs) : CrashTxn StateStore CommandError UInt8 := do
  let _ ← StateStore.readFor (·.ensureRunMode inputs.mode)
  let _ ← CrashTxn.read (checkClock inputs.started)
  let recovered ← CrashTxn.mapError .ofStore (StateStore.recoverInterruptedAttempts inputs.started)
  let report ← CrashTxn.read (inputs.observe recovered)
  let report ← StateStore.commitFor fun store => do
    let committed ← store.commitRun inputs.uuids report inputs.config inputs.completedUnixSeconds
      inputs.retentionCutoff inputs.suppressNotifications
    return (committed.store, committed.report)
  let failed ← deliver inputs report.runId
  let _ ← StateStore.commitFor fun store => do return (← store.refreshRunDelivery report.runId, ())
  let _ ← StateStore.readFor (·.loadReports 1 none)
  return if failed || !recovered.isEmpty then 4 else report.exit.code

end Sentinel
