/-
# Delivery attempts

A message is claimed before anything is sent, and what came of the attempt is
recorded after; an attempt whose process died in between is recovered as
unknown. Each operation is one transaction: it returns the new database and
its result, or an error and no change. Recovery is one transaction for each
interrupted message.
-/
import Sentinel.Lib.CrashTxn
import Sentinel.Store.Commit

namespace Sentinel

open Collections

/-- What came of an attempt. -/
inductive NotificationAttemptOutcome where
  | delivered (httpStatus : UInt16) (remoteRequestId : String)
  | retryable (httpStatus : Option UInt16) (errorClass : String)
  | failed (httpStatus : Option UInt16) (remoteRequestId : Option String) (errorClass : String)
  | unknown (errorClass : String)
  deriving DecidableEq, Repr

namespace NotificationAttemptOutcome

def status : NotificationAttemptOutcome → NotificationStatus
  | delivered .. => .delivered
  | retryable .. => .retryable
  | failed .. => .failed
  | unknown .. => .unknown

theorem status_ne_inFlight (outcome : NotificationAttemptOutcome) : outcome.status ≠ .inFlight := by
  cases outcome <;> simp [status]

def label : NotificationAttemptOutcome → AttemptOutcome
  | delivered .. => .delivered
  | retryable .. => .retryable
  | failed .. => .failed
  | unknown .. => .unknown

def httpStatus : NotificationAttemptOutcome → Option ℤ
  | delivered httpStatus _ => some httpStatus.toNat
  | retryable httpStatus _ => httpStatus.map fun status => status.toNat
  | failed httpStatus _ _ => httpStatus.map fun status => status.toNat
  | unknown _ => none

def remoteRequestId : NotificationAttemptOutcome → Option String
  | delivered _ remoteRequestId => some remoteRequestId
  | retryable .. => none
  | failed _ remoteRequestId _ => remoteRequestId
  | unknown _ => none

def errorClass : NotificationAttemptOutcome → Option String
  | delivered .. => none
  | retryable _ errorClass => some errorClass
  | failed _ _ errorClass => some errorClass
  | unknown errorClass => some errorClass

end NotificationAttemptOutcome

/-- A claimed message. -/
structure NotificationAttempt where
  message : OutboxMessage
  id : String
  startedAt : Timestamp
  executingRunId : String
  deriving DecidableEq, Repr

/-! ### Parts of the transactions -/

/-- Replaces the activity of the same attempt, or adds it. -/
def replaceActivity (activity : DeliveryActivity) : List DeliveryActivity → List DeliveryActivity
  | [] => [activity]
  | existing :: rest =>
    if existing.attemptId = activity.attemptId then activity :: rest
    else existing :: replaceActivity activity rest

/-- The delivery state a result gives the conditions of its message. -/
def deliveredState (status : NotificationStatus) (transition : TransitionKind) : Option AlertDeliveryState :=
  match status, transition with
  | .delivered, .alert => some .delivered
  | .delivered, .resolution => some .resolved
  | .failed, _ => some .failed
  | .unknown, _ => some .unknown
  | _, _ => none

/-- When a retryable message may be sent again; the error's text is the time
library's. -/
def nextRetryAt (status : NotificationStatus) (completedAt : Timestamp) :
    Except StoreError (Option Timestamp) :=
  if status = .retryable then do
    let second := completedAt.asSecond + 5
    return some (← Fallible.demand (.invalidData "retry timestamp is out of range")
      (Timestamp.new second completedAt.subsecNanosecond))
  else return none

/-- The attempt is the one to complete. -/
def isUnfinished (id : String) (attempt : AttemptRow) : Bool :=
  attempt.id = id && attempt.outcome = .inFlight && attempt.completedAt = none

namespace StateStore

def recordDeliveryActivity (runId : String) (activity : DeliveryActivity) (store : StateStore) :
    Except StoreError StateStore := do
  let run ← constraint (store.runs.find? runId)
  let activities := replaceActivity activity run.deliveryActivity
  return store.updateRun runId (fun run => { run with deliveryActivity := activities }) fun _ => rfl

/-- The delivery state of a run's evaluation, if it belongs to the episode. -/
def refreshEvaluation (runId conditionId episode : String) (state : AlertDeliveryState) (store : StateStore) :
    StateStore :=
  match (store.runs.find? runId).bind fun run => run.evaluations.find? conditionId with
  | none => store
  | some row =>
    if row.episodeId = some episode then
      let evidence := { row.evidence with notificationState := state }
      store.updateRun runId (fun run => { run with
        evaluations := run.evaluations.update conditionId (fun row => { row with evidence }) fun _ => rfl })
        fun _ => rfl
    else store

/-- `UPDATE condition_state SET alert_delivery_state … WHERE condition_id … AND episode_id …`. -/
def setDeliveryState (conditionId episode : String) (state : AlertDeliveryState) (store : StateStore) :
    StateStore :=
  { store with
    conditionState := store.conditionState.update conditionId (fun latch =>
      if latch.episodeId = some episode then { latch with alertDeliveryState := state } else latch)
      fun latch => by split <;> rfl }

/-! ### Selecting -/

def pendingOutbox (now : Timestamp) (store : StateStore) : Except StoreError (List OutboxMessage) := do
  let now ← canonicalTimestamp now
  let rows := store.notificationOutbox.rows.filter fun row =>
    row.status ∈ [.pending, .retryable] ∧ ∀ retry ∈ row.nextRetryAt, retry ≤ now
  (orderBy (fun row => toLex (row.createdAt, transitionOrder row.transition)) rows).mapM (·.toMessage)

/-! ### Claiming -/

/-- The claim of a message is refused, for one of these reasons. -/
def admitAttempt (row : OutboxRow) (startedAt : Timestamp) (latestCompleted : Option Timestamp) :
    Except StoreError Unit := do
  let createdAt ← canonicalTimestamp row.createdAt
  let latestCompleted ← latestCompleted.mapM canonicalTimestamp
  Fallible.ensure (createdAt ≤ startedAt ∧ ∀ latest ∈ latestCompleted, latest ≤ startedAt)
    (.invalidData "wall clock regressed before notification delivery; no attempt was started")
  Fallible.ensure (row.status ∈ [.pending, .retryable] ∧ (∀ retry ∈ row.nextRetryAt, retry ≤ startedAt) ∧
      ¬(row.status = .retryable ∧ row.nextRetryAt = none))
    (.invalidData "notification is not eligible for a delivery attempt")
  Fallible.ensure (row.members ≠ [] ∧ ∀ member ∈ row.members, member.episodeId ≠ "")
    (.invalidData "notification has no valid episode membership")
  Fallible.ensure (notificationPayload row.members = row.message ∧
      (notificationPayload row.members).length ≤ notificationLimit)
    (.invalidData "notification payload does not match its condition membership")

/-- The row of an attempt in flight. -/
def attemptRow (id executingRunId : String) (startedAt : Timestamp) : AttemptRow where
  id
  executingRunId
  startedAt
  completedAt := none
  outcome := .inFlight
  httpStatus := none
  remoteRequestId := none
  errorClass := none

/-- `INSERT INTO notification_attempts`: the id is a primary key across all
messages. -/
def insertAttempt (messageId : String) (attempt : AttemptRow) (store : StateStore) :
    Except StoreError StateStore := do
  columnCheck (store.notificationOutbox.rows.all fun row => row.attempts.rows.all (·.id ≠ attempt.id))
  let row ← constraint (store.notificationOutbox.find? messageId)
  let attempts ← constraint (row.attempts.insert? attempt)
  return store.updateMessage messageId (fun row => { row with attempts }) fun _ => rfl

/-- What a run reports of an attempt on a message. -/
def activityOf (attemptId : String) (message : OutboxMessage) (status : NotificationStatus)
    (remoteRequestId errorClass : Option String) : DeliveryActivity where
  attemptId
  originRunId := message.runId
  action := .attempt
  notification := ⟨message.id, message.transition, message.conditionIds, status, remoteRequestId, errorClass⟩

/-- `begin_notification_attempt`, drawing `uuid`. -/
def beginNotificationAttempt (uuid messageId : String) (startedAt : Timestamp) (executingRunId : String)
    (store : StateStore) : Except StoreError (StateStore × NotificationAttempt) := do
  let startedAt ← canonicalTimestamp startedAt
  let stored ← store.loadOutboxMessage messageId
  let row ← constraint (store.notificationOutbox.find? messageId)
  admitAttempt row startedAt store.latestCompletedAt
  let store ← store.insertAttempt messageId (attemptRow uuid executingRunId startedAt)
  let store := store.updateMessage messageId
    (fun row => { row with status := .inFlight, attemptId := some uuid }) fun _ => rfl
  let store ← store.recordDeliveryActivity executingRunId (activityOf uuid stored .inFlight none none)
  return (store, ⟨{ stored with status := .inFlight }, uuid, startedAt, executingRunId⟩)

/-! ### Recording -/

/-- The conditions of a message take the delivery state, each where it is
still in the message's episode. -/
def settleMembers (runId : String) (members : List NotificationCondition) (state : AlertDeliveryState)
    (store : StateStore) : StateStore :=
  members.foldl (fun store member =>
    (store.setDeliveryState member.conditionId member.episodeId state).refreshEvaluation runId member.conditionId
      member.episodeId state) store

/-- The attempt's row with its result. -/
def completeAttempt (id : String) (completedAt : Timestamp) (outcome : NotificationAttemptOutcome)
    (attempt : AttemptRow) : AttemptRow :=
  if isUnfinished id attempt then
    { attempt with
      completedAt := some completedAt
      outcome := outcome.label
      httpStatus := outcome.httpStatus
      remoteRequestId := outcome.remoteRequestId
      errorClass := outcome.errorClass }
  else attempt

theorem completeAttempt_id (id : String) (completedAt : Timestamp) (outcome : NotificationAttemptOutcome)
    (attempt : AttemptRow) : (completeAttempt id completedAt outcome attempt).id = attempt.id := by
  unfold completeAttempt
  split <;> rfl

/-- `record_notification_attempt`. -/
def recordNotificationAttempt (attempt : NotificationAttempt) (completedAt : Timestamp)
    (outcome : NotificationAttemptOutcome) (store : StateStore) :
    Except StoreError (StateStore × NotificationReport) := do
  let completedAt ← canonicalTimestamp completedAt
  Fallible.ensure (attempt.startedAt ≤ completedAt)
    (.invalidData "wall clock regressed during notification delivery; outcome remains unconfirmed")
  let message ← store.loadOutboxMessage attempt.message.id
  let row ← constraint (store.notificationOutbox.find? message.id)
  Fallible.ensure (message.status = .inFlight ∧ row.attemptId = some attempt.id)
    (.invalidData "notification attempt is no longer in flight")
  Fallible.ensure (row.attempts.rows.countP (isUnfinished attempt.id) = 1)
    (.invalidData "notification attempt lacks an unfinished durable record")
  let nextRetryAt ← nextRetryAt outcome.status completedAt
  let settled := store.updateMessage message.id (fun row => { row with
    attempts := row.attempts.modify (completeAttempt attempt.id completedAt outcome) (completeAttempt_id _ _ _)
    status := outcome.status
    deliveredAt := if outcome.status = .delivered then some completedAt else none
    remoteRequestId := outcome.remoteRequestId
    errorClass := outcome.errorClass
    nextRetryAt }) fun _ => rfl
  let settled := match deliveredState outcome.status message.transition with
    | some state => settled.settleMembers message.runId row.members state
    | none => settled
  let activity := activityOf attempt.id message outcome.status outcome.remoteRequestId outcome.errorClass
  let recorded ← settled.recordDeliveryActivity attempt.executingRunId activity
  let recorded := if outcome.status ≠ .delivered then
      recorded.updateRun attempt.executingRunId (fun run => { run with exitCode := 4 }) fun _ => rfl
    else recorded
  return (recorded, activity.notification)

/-! ### Recovery -/

/-- The attempt a message in flight was left with. -/
def interruptedAttempt (row : OutboxRow) (store : StateStore) : Except StoreError NotificationAttempt := do
  let id ← Fallible.demand (.invalidData "in-flight notification has no attempt") row.attemptId
  let attempt ← Fallible.demand (.invalidData "in-flight notification has no durable start")
    (row.attempts.find? id)
  return ⟨← store.loadOutboxMessage row.id, id, attempt.startedAt, attempt.executingRunId⟩

/-- The result recovery records. -/
def interruptedOutcome : NotificationAttemptOutcome :=
  .unknown "process_interrupted_after_possible_transmission"

/-- Recovers one interrupted message. -/
def recoverAttempt (recoveredAt : Timestamp) (row : OutboxRow) (store : StateStore) :
    Except StoreError (StateStore × DeliveryActivity) := do
  let attempt ← store.interruptedAttempt row
  let (store, notification) ← store.recordNotificationAttempt attempt (max recoveredAt attempt.startedAt)
    interruptedOutcome
  return (store, ⟨attempt.id, attempt.message.runId, .recovered, notification⟩)

/-- The messages in flight, oldest first. -/
def interruptedMessages (store : StateStore) : List OutboxRow :=
  orderBy (·.createdAt) (store.notificationOutbox.rows.filter (·.status = .inFlight))

/-- `recover_interrupted_attempts`, a transaction for each message. -/
def recoverInterruptedAttempts (recoveredAt : Timestamp) :
    CrashTxn StateStore StoreError (List DeliveryActivity) := do
  let recoveredAt ← CrashTxn.read fun _ => canonicalTimestamp recoveredAt
  let interrupted ← CrashTxn.read fun store => .ok store.interruptedMessages
  CrashTxn.each (fun row => CrashTxn.commit (recoverAttempt recoveredAt row)) interrupted

/-! ### Refreshing -/

/-- `refresh_run_delivery`. -/
def refreshRunDelivery (runId : String) (store : StateStore) : Except StoreError StateStore :=
  let states := match store.runs.find? runId with
    | none => []
    | some run => run.evaluations.rows.filterMap fun (row : EvaluationRow) => do
      let latch ← store.conditionState.find? row.conditionId
      let episode ← row.episodeId
      if latch.episodeId = some episode then some (row.conditionId, episode, latch.alertDeliveryState) else none
  return states.foldl (fun store (conditionId, episode, state) =>
    store.refreshEvaluation runId conditionId episode state) store

end StateStore

end Sentinel
