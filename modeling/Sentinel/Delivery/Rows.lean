/-
# The rows of the outbox

Where a row of the outbox comes from: a commit queued it, or it replaces one
that was cancelled; and what happens to it: it is cancelled, claimed, or its
attempt is recorded. A property that these keep holds of every row. One is
that a row has an attempt in flight just when it is in flight itself.

Key theorems: `IsCommitted.forall_rows`, `forall_rows_claim`, `forall_rows_record`,
`Attempted.recorded`.
-/
import Sentinel.Delivery.Attempts
import Sentinel.Delivery.Conditions

namespace Sentinel

open Collections

/-- A message that no attempt has claimed. -/
def OutboxRow.Unsent (row : OutboxRow) : Prop := row.status ∈ [.pending, .retryable]

/-- Cancelling keeps a property of rows, and gives it to the replacements. -/
structure Cancellable (P : OutboxRow → Prop) : Prop where
  cancelled : ∀ row, P row → row.Unsent → P (StateStore.cancelledRow row)
  replaced : ∀ row conditionId uuid (conditions : Table NotificationCondition.conditionId), P row → row.Unsent →
    StateStore.survivors conditionId row ≠ [] → conditions.rows = StateStore.survivors conditionId row →
    P { StateStore.replacementRow row uuid (notificationPayload (StateStore.survivors conditionId row)) with conditions }

theorem Cancellable.step {P : OutboxRow → Prop} (hP : Cancellable P) {conditionId : String}
    {kind : Option TransitionKind} {store store' : StateStore}
    (h : StateStore.CancelStep conditionId kind store store') (hs : ∀ row ∈ store.notificationOutbox.rows, P row) :
    ∀ row ∈ store'.notificationOutbox.rows, P row := by
  obtain ⟨hsplit, hu, -, hrep, hrows⟩ := h
  rename_i row before after replacements outbox
  have hunsent : row.Unsent := (StateStore.isUnsent_iff.mp hu).2
  have hrow : P row := hs row (by rw [hsplit]; simp)
  intro other hother
  rw [hrows] at hother
  simp only [List.mem_append, List.mem_cons] at hother
  rcases hother with hb | rfl | ha | hr
  · exact hs other (by rw [hsplit]; simp [hb])
  · exact hP.cancelled row hrow hunsent
  · exact hs other (by rw [hsplit]; simp [ha])
  · rcases hrep with ⟨-, rfl⟩ | ⟨hne, uuid, conditions, hc, rfl⟩
    · cases hr
    · obtain rfl := List.mem_singleton.mp hr
      exact hP.replaced row conditionId uuid conditions hrow hunsent hne hc

theorem Cancellable.cancels {P : OutboxRow → Prop} (hP : Cancellable P) {store store' : StateStore}
    (h : Cancels store store') (hs : ∀ row ∈ store.notificationOutbox.rows, P row) :
    ∀ row ∈ store'.notificationOutbox.rows, P row := by
  induction h with
  | refl => exact hs
  | tail _ hstep ih =>
    obtain ⟨conditionId, kind, hstep⟩ := hstep
    exact hP.step hstep ih

/-- **The rows after a commit**: those it queued, and those that cancelling
left of the rows before it. -/
theorem IsCommitted.forall_rows {report : RunReport} {suppress : Bool} {cutoff : Timestamp} {store : StateStore}
    {committed : Committed} {latching : Latching} {persisted : StateStore} {P : OutboxRow → Prop}
    (h : IsCommitted report suppress cutoff store committed latching persisted) (hP : Cancellable P)
    (hs : ∀ row ∈ store.notificationOutbox.rows, P row)
    (hq : ∀ message ∈ committed.outbox, ∀ row, StateStore.IsQueued committed.store.conditionState
      committed.report.transitions committed.report.completedAt message row → P row) :
    ∀ row ∈ committed.store.notificationOutbox.rows, P row := by
  intro row hrow
  rcases h.mem_outbox hrow with hold | ⟨message, hm, hqueued⟩
  · exact hP.cancels h.latched.cancels hs row hold
  · exact hq message hm row hqueued

section Attempt

variable {store store' : StateStore} {P : OutboxRow → Prop}

/-- **The rows after a claim.** -/
theorem forall_rows_claim {uuid messageId executingRunId : String} {startedAt : Timestamp}
    {attempt : NotificationAttempt}
    (h : store.beginNotificationAttempt uuid messageId startedAt executingRunId = .ok (store', attempt))
    (hs : ∀ row ∈ store.notificationOutbox.rows, P row)
    (claimed : ∀ row (attempts : Table AttemptRow.id), P row → row.Unsent →
      attempts.rows = row.attempts.rows ++ [StateStore.attemptRow uuid executingRunId startedAt] →
      P (StateStore.claimedRow row attempts uuid)) : ∀ row ∈ store'.notificationOutbox.rows, P row := by
  obtain ⟨row, attempts, runs, outbox, -, hunsent, hattempts, hexchange, -, -⟩ :=
    StateStore.beginNotificationAttempt_eq_ok h
  intro other hother
  rcases hexchange.mem_iff hother with rfl | ⟨hold, -⟩
  · exact claimed row attempts (hs row hexchange.mem.1) hunsent hattempts
  · exact hs other hold

/-- **The rows after a recorded result.** -/
theorem forall_rows_record {attempt : NotificationAttempt} {completedAt : Timestamp}
    {outcome : NotificationAttemptOutcome} {report : NotificationReport}
    (h : store.recordNotificationAttempt attempt completedAt outcome = .ok (store', report))
    (hs : ∀ row ∈ store.notificationOutbox.rows, P row)
    (recorded : ∀ row next, P row → row.status = .inFlight → row.attemptId = some attempt.id →
      row.attempts.rows.countP (isUnfinished attempt.id) = 1 → nextRetryAt outcome.status completedAt = .ok next →
      P (StateStore.recordedRow row attempt.id completedAt outcome next)) :
    ∀ row ∈ store'.notificationOutbox.rows, P row := by
  obtain ⟨row, next, outbox, runs, states, -, hstatus, hid, hcount, hnext, hexchange, -, -, -⟩ :=
    StateStore.recordNotificationAttempt_eq_ok h
  intro other hother
  rcases hexchange.mem_iff hother with rfl | ⟨hold, -⟩
  · exact recorded row next (hs row hexchange.mem.1) hstatus hid hcount hnext
  · exact hs other hold

end Attempt

/-! ### Attempts in flight -/

/-- The attempt has no result. -/
def AttemptRow.isInFlight (attempt : AttemptRow) : Bool := attempt.outcome = .inFlight

/-- The row has one attempt in flight if it is in flight, and none otherwise. -/
def Attempted (row : OutboxRow) : Prop :=
  row.attempts.rows.countP (·.isInFlight) = if row.status = .inFlight then 1 else 0

theorem attempted_cancellable : Cancellable Attempted where
  cancelled row h hu := by
    have hne : row.status ≠ .inFlight := fun hs => by simp [OutboxRow.Unsent, hs] at hu
    rw [Attempted, if_neg hne] at h
    exact h
  replaced row conditionId uuid conditions _ hu _ _ := by
    have hne : row.status ≠ .inFlight := fun hs => by simp [OutboxRow.Unsent, hs] at hu
    show 0 = if row.status = .inFlight then 1 else 0
    rw [if_neg hne]

theorem attempted_queued {states : Table ConditionState.id} {transitions : List ConditionTransition}
    {createdAt : Timestamp} {message : OutboxMessage} {row : OutboxRow}
    (h : StateStore.IsQueued states transitions createdAt message row) (hs : message.status ≠ .inFlight) :
    Attempted row := by
  rw [h.header]
  show 0 = if message.status = .inFlight then 1 else 0
  rw [if_neg hs]

theorem Attempted.claimed {row : OutboxRow} {attempts : Table AttemptRow.id} {uuid executingRunId : String}
    {startedAt : Timestamp} (h : Attempted row) (hu : row.Unsent)
    (ha : attempts.rows = row.attempts.rows ++ [StateStore.attemptRow uuid executingRunId startedAt]) :
    Attempted (StateStore.claimedRow row attempts uuid) := by
  have hne : row.status ≠ .inFlight := fun hs => by simp [OutboxRow.Unsent, hs] at hu
  rw [Attempted, if_neg hne] at h
  show attempts.rows.countP (·.isInFlight) = 1
  rw [ha, List.countP_append, h]
  rfl

/-- **A recorded result ends the attempt in flight.** -/
theorem Attempted.recorded {row : OutboxRow} {id : String} {completedAt : Timestamp}
    {outcome : NotificationAttemptOutcome} {next : Option Timestamp} (h : Attempted row)
    (hs : row.status = .inFlight) (hcount : row.attempts.rows.countP (isUnfinished id) = 1) :
    Attempted (StateStore.recordedRow row id completedAt outcome next) := by
  have hlabel : outcome.label ≠ .inFlight := by cases outcome <;> simp [NotificationAttemptOutcome.label]
  have hstatus := outcome.status_ne_inFlight
  rw [Attempted, if_pos hs] at h
  show ((row.attempts.rows.map (StateStore.completeAttempt id completedAt outcome)).countP (·.isInFlight)) =
    if outcome.status = .inFlight then 1 else 0
  rw [if_neg hstatus, List.countP_map]
  -- what stays in flight is in flight but not the attempt that ends, and there is one in flight
  have hstays : ∀ attempt : AttemptRow, ((·.isInFlight) ∘ StateStore.completeAttempt id completedAt outcome) attempt =
      (attempt.isInFlight && !isUnfinished id attempt) := by
    intro attempt
    show (StateStore.completeAttempt id completedAt outcome attempt).isInFlight = _
    unfold StateStore.completeAttempt
    split
    case isTrue hu => simp [AttemptRow.isInFlight, hlabel, hu]
    case isFalse hu => simp [hu]
  have hends : ∀ attempt : AttemptRow, isUnfinished id attempt = (attempt.isInFlight && isUnfinished id attempt) := by
    intro attempt
    unfold isUnfinished AttemptRow.isInFlight
    cases decide (attempt.outcome = .inFlight) <;> simp
  have hsum : row.attempts.rows.countP (fun attempt => attempt.isInFlight && !isUnfinished id attempt) +
      row.attempts.rows.countP (fun attempt => attempt.isInFlight && isUnfinished id attempt) =
        row.attempts.rows.countP (·.isInFlight) := by
    induction row.attempts.rows with
    | nil => rfl
    | cons attempt attempts ih =>
      simp only [List.countP_cons]
      cases attempt.isInFlight <;> cases isUnfinished id attempt <;> simp <;> omega
  have hended : row.attempts.rows.countP (fun attempt => attempt.isInFlight && isUnfinished id attempt) = 1 := by
    rw [← hcount]
    exact List.countP_congr fun attempt _ => by rw [← hends attempt]
  have hleft : row.attempts.rows.countP ((·.isInFlight) ∘ StateStore.completeAttempt id completedAt outcome) =
      row.attempts.rows.countP (fun attempt => attempt.isInFlight && !isUnfinished id attempt) :=
    List.countP_congr fun attempt _ => by rw [hstays attempt]
  omega

end Sentinel
