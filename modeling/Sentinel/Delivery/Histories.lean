/-
# Histories of a database

Any interleaving of the store's transactions from an empty database: runs
committed, messages claimed, results recorded and interrupted attempts
recovered, by processes that may die between any two. Whatever a check leaves
has a history, and a history is a run of the delivery desk, so what holds of
every run of the desk holds of it.

Key theorems: `spec_history_check`, `deskRun_of_history`.
-/
import Sentinel.Delivery.Checks
import Sentinel.Delivery.Desk

namespace Sentinel

open Collections

/-! ### What messages announce -/

def OutboxRow.announcements (row : OutboxRow) : List Announcement :=
  row.conditions.rows.map fun member => ⟨member.conditionId, member.episodeId, row.transition⟩

theorem mem_announcements {row : OutboxRow} {a : Announcement} :
    a ∈ row.announcements ↔ row.transition = a.kind ∧ row.Holds a.conditionId a.episodeId := by
  obtain ⟨conditionId, episodeId, kind⟩ := a
  simp only [OutboxRow.announcements, OutboxRow.Holds, List.mem_map, Announcement.mk.injEq]
  constructor
  · rintro ⟨member, hm, hc, he, hk⟩
    exact ⟨hk, member, hm, hc, he⟩
  · rintro ⟨hk, member, hm, hc, he⟩
    exact ⟨member, hm, hc, he, hk⟩

theorem live_eq_announcements {row : OutboxRow} (h : row.status ≠ .cancelled) :
    row.live = ↑(row.announcements.map (Announcement.entry row.status)) := by
  rw [OutboxRow.live, if_neg h, OutboxRow.announcements, List.map_map]
  rfl

/-- What a commit queued: every condition of every message, in the episode of
its latch. -/
def Committed.announcements (committed : Committed) : List Announcement :=
  committed.outbox.flatMap fun message => message.conditionIds.map fun conditionId =>
    ⟨conditionId, episodeOf committed.store.conditionState conditionId, message.transition⟩

/-! ### Histories -/

/-- **A history**: what happened, latest first, and the database it left. -/
inductive History : List Event → StateStore → Prop
  | start : History [] .empty
  | commit {events : List Event} {store : StateStore} {uuids : ℕ → String} {report : RunReport} {config : Config}
      {now : ℤ} {cutoff : Timestamp} {suppress : Bool} {committed : Committed} (h : History events store)
      (ok : store.commitRun uuids report config now cutoff suppress = .ok committed) :
      History (.committed report.runId suppress committed.announcements :: events) committed.store
  | claim {events : List Event} {store store' : StateStore} {uuid messageId executingRunId : String}
      {startedAt : Timestamp} {attempt : NotificationAttempt} {row : OutboxRow} (h : History events store)
      (found : store.notificationOutbox.find? messageId = some row)
      (ok : store.beginNotificationAttempt uuid messageId startedAt executingRunId = .ok (store', attempt)) :
      History (.claimed row.announcements :: events) store'
  | record {events : List Event} {store store' : StateStore} {attempt : NotificationAttempt}
      {completedAt : Timestamp} {outcome : NotificationAttemptOutcome} {report : NotificationReport} {row : OutboxRow}
      (h : History events store) (found : store.notificationOutbox.find? attempt.message.id = some row)
      (ok : store.recordNotificationAttempt attempt completedAt outcome = .ok (store', report)) :
      History (.ended row.announcements outcome.status :: events) store'
  | recover {events : List Event} {store store' : StateStore} {recoveredAt : Timestamp}
      {interrupted row : OutboxRow} {activity : DeliveryActivity} (h : History events store)
      (found : store.notificationOutbox.find? interrupted.id = some row)
      (ok : StateStore.recoverAttempt recoveredAt interrupted store = .ok (store', activity)) :
      History (.ended row.announcements .unknown :: events) store'
  | refresh {events : List Event} {store store' : StateStore} {runId : String} (h : History events store)
      (ok : store.refreshRunDelivery runId = .ok store') : History events store'

/-- The database has a history. -/
def HasHistory (store : StateStore) : Prop := ∃ events, History events store

/-! ### Checks have histories -/

section Check

open CrashTxn

/-- **Every transaction extends a history.** -/
theorem kept_hasHistory : Kept HasHistory where
  commit hs _ ok := by
    obtain ⟨events, hs⟩ := hs
    exact ⟨_, hs.commit ok⟩
  claim hs ok := by
    obtain ⟨events, hs⟩ := hs
    obtain ⟨row, _, _, _, found, -⟩ := StateStore.beginNotificationAttempt_eq_ok ok
    exact ⟨_, hs.claim found ok⟩
  record hs ok := by
    obtain ⟨events, hs⟩ := hs
    obtain ⟨row, _, _, _, _, found, -⟩ := StateStore.recordNotificationAttempt_eq_ok ok
    exact ⟨_, hs.record found ok⟩
  refresh hs ok := by
    obtain ⟨events, hs⟩ := hs
    exact ⟨_, hs.refresh ok⟩

/-- **A check extends a history**, wherever it dies. -/
theorem spec_history_check (inputs : CheckInputs) :
    Spec HasHistory HasHistory (checkWithSink inputs) fun _ => HasHistory :=
  spec_check kept_hasHistory inputs

end Check

/-- What delivery sees of a database. -/
def StateStore.desk (store : StateStore) : Desk := ⟨store.ledger, latchView store⟩

/-! ### A commit -/

section Commit

variable {report : RunReport} {suppress : Bool} {cutoff : Timestamp} {store : StateStore}
  {committed : Committed} {latching : Latching} {persisted : StateStore}

/-- What batches announce, whatever the batches. -/
theorem announcements_of_batches (states : Table ConditionState.id) {kind : TransitionKind}
    {batches : List (List ConditionTransition)} {messages : List OutboxMessage}
    (h : List.Forall₂ (IsBatch report suppress kind) batches messages) :
    (messages.flatMap fun message => message.conditionIds.map fun conditionId =>
      (⟨conditionId, episodeOf states conditionId, message.transition⟩ : Announcement)) =
      batches.flatten.map fun transition =>
        ⟨transition.conditionId, episodeOf states transition.conditionId, kind⟩ := by
  induction h with
  | nil => rfl
  | @cons batch message batches messages hbatch _ ih =>
    obtain ⟨uuid, hm⟩ := hbatch.header
    rw [List.flatMap_cons, List.flatten_cons, List.map_append, ih, hm]
    congr 1
    simp only [notificationBatch, List.map_map]
    rfl

namespace IsCommitted

/-- **A commit announces its transitions**, each in the episode of its latch. -/
theorem announcements_perm (h : IsCommitted report suppress cutoff store committed latching persisted) :
    committed.announcements.Perm (committed.report.transitions.map fun transition =>
      ⟨transition.conditionId, episodeOf committed.store.conditionState transition.conditionId, transition.kind⟩) := by
  obtain ⟨built, alerts, resolutions, alertMessages, resolutionMessages, -, houtbox, ha, hr, haf, hrf⟩ := h.outbox_batches
  rw [Committed.announcements, houtbox, List.flatMap_append, announcements_of_batches _ ha,
    announcements_of_batches _ hr, haf, hrf]
  refine List.Perm.trans (List.Perm.of_eq ?_) ((perm_kinds committed.report.transitions).map _)
  rw [List.map_append]
  congr 1
  · refine List.map_congr_left fun t ht => ?_
    rw [of_decide_eq_true (List.mem_filter.mp ht).2]
  · refine List.map_congr_left fun t ht => ?_
    rw [of_decide_eq_true (List.mem_filter.mp ht).2]

theorem episodeOf_eq (conditionId : String) :
    episodeOf store.conditionState conditionId = (latchView store conditionId).episode.getD "" := by
  unfold episodeOf latchView
  cases store.conditionState.find? conditionId <;> rfl

/-- **A commit moves every latch**, by what it announces of the condition. -/
theorem moves (h : IsCommitted report suppress cutoff store committed latching persisted) (conditionId : String) :
    ∃ kind withdrawal,
      LatchMove report.runId suppress (latchView store conditionId) (latchView committed.store conditionId) kind
        withdrawal ∧
      (committed.announcements.filter fun a => a.conditionId = conditionId) =
        kind.toList.map fun k => ⟨conditionId, (latchView committed.store conditionId).episode.getD "", k⟩ := by
  have hfilter : ∀ kind : Option TransitionKind,
      (committed.report.transitions.filter fun t => t.conditionId = conditionId).map (·.kind) = kind.toList →
      (committed.announcements.filter fun a => a.conditionId = conditionId) =
        kind.toList.map fun k => ⟨conditionId, (latchView committed.store conditionId).episode.getD "", k⟩ := by
    intro kind hkind
    have hperm := h.announcements_perm.filter fun a => a.conditionId = conditionId
    rw [List.filter_map] at hperm
    have hmap : (committed.report.transitions.filter fun t => t.conditionId = conditionId).map (fun t =>
          (⟨t.conditionId, episodeOf committed.store.conditionState t.conditionId, t.kind⟩ : Announcement)) =
        kind.toList.map fun k => ⟨conditionId, (latchView committed.store conditionId).episode.getD "", k⟩ := by
      rw [← hkind, List.map_map]
      refine List.map_congr_left fun t ht => ?_
      rw [of_decide_eq_true (List.mem_filter.mp ht).2, episodeOf_eq]
      rfl
    have hperm' : (committed.announcements.filter fun a => a.conditionId = conditionId).Perm
        (kind.toList.map fun k => ⟨conditionId, (latchView committed.store conditionId).episode.getD "", k⟩) :=
      hmap ▸ hperm
    cases kind with
    | none => exact List.perm_nil.mp hperm'
    | some k => exact List.perm_singleton.mp hperm'
  by_cases hm : ∃ evaluation ∈ report.evaluations, evaluation.id = conditionId
  · obtain ⟨evaluation, hm, rfl⟩ := hm
    have hmove := latchMove_of_latchOutcome report suppress evaluation (priorState store evaluation)
    rw [view_priorState] at hmove
    refine ⟨_, _, latchView_of_mem h hm ▸ hmove, hfilter _ ?_⟩
    rw [h.filter_transitions_of_mem hm]
    show (latchedTransition report suppress store evaluation).toList.map (·.kind) =
      ((latchedTransition report suppress store evaluation).map (·.kind)).toList
    cases latchedTransition report suppress store evaluation <;> rfl
  · have hne : ∀ evaluation ∈ report.evaluations, evaluation.id ≠ conditionId :=
      fun evaluation he hid => hm ⟨evaluation, he, hid⟩
    refine ⟨none, .nothing, latchView_of_not_mem h hne ▸ .idle _, hfilter none ?_⟩
    rw [List.filter_eq_nil_iff.mpr]
    · rfl
    · intro t ht hc
      obtain ⟨evaluation, he, -, hid⟩ := h.conditionId_mem_of_transition ht
      exact hne evaluation he (hid.symm.trans (of_decide_eq_true hc))

/-- **A resolution that is sent** is of a latch whose alert was delivered. -/
theorem delivered_of_resolution (h : IsCommitted report false cutoff store committed latching persisted)
    {transition : ConditionTransition} (ht : transition ∈ committed.report.transitions)
    (hkind : transition.kind = .resolution) : (latchView store transition.conditionId).delivery = .delivered := by
  obtain ⟨evaluation, -, hlatched, hid⟩ := h.conditionId_mem_of_transition ht
  have hmove := latchMove_of_latchOutcome report false evaluation (priorState store evaluation)
  have hannounced : (latchOutcome report false evaluation (priorState store evaluation)).2.2.map (·.kind) =
      some .resolution := by
    show (latchedTransition report false store evaluation).map (·.kind) = _
    rw [hlatched, Option.map_some, hkind]
  rw [hannounced, view_priorState, ← hid] at hmove
  exact hmove.confirmed.2.1

theorem ledger_le (h : IsCommitted report suppress cutoff store committed latching persisted) :
    committed.store.ledger ≤ store.ledger +
      ↑(committed.announcements.map (Announcement.entry (if suppress then .suppressed else .pending))) := by
  have hpruned : committed.store.ledger ≤ persisted.ledger := by
    rw [h.pruned]
    exact (ledger_pruneRuns cutoff persisted).1
  refine hpruned.trans ?_
  rw [h.ledger_persisted]
  have hqueued : (↑(committed.report.transitions.map (queuedEntry persisted.conditionState suppress)) : Multiset Entry) =
      ↑(committed.announcements.map (Announcement.entry (if suppress then .suppressed else .pending))) := by
    refine Multiset.coe_eq_coe.mpr (List.Perm.symm ?_)
    refine (h.announcements_perm.map _).trans (List.Perm.of_eq ?_)
    rw [List.map_map, h.conditionState_persisted]
    rfl
  rw [hqueued]
  exact add_le_add_left (Multiset.filter_le _ _) _

end IsCommitted

/-- A commit is a step of the desk. -/
theorem deskStep_commit (h : IsCommitted report suppress cutoff store committed latching persisted) :
    DeskStep store.desk (.committed report.runId suppress committed.announcements) committed.store.desk :=
  .commit h.moves h.ledger_le

end Commit

/-! ### An attempt -/

section Attempt

variable {store store' : StateStore}

/-- A claim is a step of the desk. -/
theorem deskStep_claim {uuid messageId executingRunId : String} {startedAt : Timestamp}
    {attempt : NotificationAttempt} {row : OutboxRow} (found : store.notificationOutbox.find? messageId = some row)
    (h : store.beginNotificationAttempt uuid messageId startedAt executingRunId = .ok (store', attempt)) :
    DeskStep store.desk (.claimed row.announcements) store'.desk := by
  obtain ⟨row', attempts, runs, outbox, hfind, hunsent, -, hexchange, -, hs'⟩ :=
    StateStore.beginNotificationAttempt_eq_ok h
  rw [found, Option.some.injEq] at hfind
  subst hfind
  obtain ⟨rest, hold, hnew⟩ := hexchange.ledger
  have hne : row.status ≠ .cancelled := by
    intro hc
    simp [hc] at hunsent
  rw [live_eq_announcements hne] at hold
  rw [live_eq_announcements (by simp [StateStore.claimedRow])] at hnew
  refine .claim hunsent hold hnew ?_
  rw [hs']
  rfl

theorem latchView_settled {row : OutboxRow} {result : Option AlertDeliveryState}
    (states : ∀ conditionId, store'.conditionState.find? conditionId =
      (store.conditionState.find? conditionId).map (StateStore.settledLatch row.members result))
    (conditionId : String) :
    latchView store' conditionId = settledView conditionId row.announcements result (latchView store conditionId) := by
  unfold latchView
  rw [states]
  cases hfind : store.conditionState.find? conditionId with
  | none =>
    cases result with
    | none => rfl
    | some state => simp [settledView]
  | some latch =>
    have hid : latch.id = conditionId := (Table.find?_eq_some_iff.mp hfind).2
    have hiff : (∃ member ∈ row.members, member.conditionId = latch.id ∧ latch.episodeId = some member.episodeId) ↔
        ∃ a ∈ row.announcements, a.conditionId = conditionId ∧ latch.view.episode = some a.episodeId := by
      simp only [OutboxRow.members, mem_orderBy, OutboxRow.announcements, List.mem_map, exists_exists_and_eq_and, hid,
        ConditionState.view]
    cases result with
    | none => rfl
    | some state =>
      simp only [Option.map_some, StateStore.settledLatch, settledView, hiff]
      split <;> rfl

theorem status_outcome (outcome : NotificationAttemptOutcome) :
    outcome.status ∈ [.delivered, .retryable, .failed, .unknown] := by
  cases outcome <;> simp [NotificationAttemptOutcome.status]

/-- A recorded result is a step of the desk. -/
theorem deskStep_record {attempt : NotificationAttempt} {completedAt : Timestamp}
    {outcome : NotificationAttemptOutcome} {report : NotificationReport} {row : OutboxRow}
    (found : store.notificationOutbox.find? attempt.message.id = some row)
    (h : store.recordNotificationAttempt attempt completedAt outcome = .ok (store', report)) :
    DeskStep store.desk (.ended row.announcements outcome.status) store'.desk := by
  obtain ⟨row', next, outbox, runs, states, hfind, hstatus, -, -, -, hexchange, -, hstates, hs'⟩ :=
    StateStore.recordNotificationAttempt_eq_ok h
  rw [found, Option.some.injEq] at hfind
  subst hfind
  obtain ⟨rest, hold, hnew⟩ := hexchange.ledger
  have hnew_status : (StateStore.recordedRow row attempt.id completedAt outcome next).status ≠ .cancelled := by
    show outcome.status ≠ .cancelled
    have := status_outcome outcome
    intro hc
    simp [hc] at this
  rw [live_eq_announcements (by simp [hstatus]), hstatus] at hold
  rw [live_eq_announcements hnew_status] at hnew
  have hkinds : ∀ a ∈ row.announcements, a.kind = row.transition := fun a ha => (mem_announcements.mp ha).1.symm
  refine .settle hkinds (status_outcome outcome) hold hnew (latchView_settled fun conditionId => ?_)
  rw [hs']
  exact hstates conditionId

end Attempt

/-- **A history is a run of the desk.** -/
theorem deskRun_of_history {events : List Event} {store : StateStore} (h : History events store) :
    DeskRun events store.desk := by
  induction h with
  | start => exact .start
  | commit _ ok ih =>
    obtain ⟨latching, persisted, hcommitted⟩ := commitRun_eq_ok ok
    exact ih.step (deskStep_commit hcommitted)
  | claim _ found ok ih => exact ih.step (deskStep_claim found ok)
  | record _ found ok ih => exact ih.step (deskStep_record found ok)
  | recover _ found ok ih =>
    obtain ⟨attempt, report, hid, hrecord⟩ := StateStore.recoverAttempt_eq_ok ok
    exact ih.step (deskStep_record (hid ▸ found) hrecord)
  | refresh _ ok ih =>
    obtain ⟨⟨runs, rfl⟩, -⟩ := StateStore.refreshRunDelivery_eq_ok ok
    exact ih

end Sentinel
