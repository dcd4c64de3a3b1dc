/-
# What is selected can be claimed

Every row of the outbox says what its members say: its text is the lines of
their summaries in the order of their ids, within the length a notification
may have, whether it was batched from transitions or rebuilt for the members a
cancellation left. A message that may be retried has a time for it, and every
message is as old as its stored run. So a claim of a pending message is never
refused.

Key theorems: `sendable_of_history`, `hasRuns_of_history`, `pending_claimable`.
-/
import Sentinel.Delivery.Transmission
import Mathlib.Algebra.Order.BigOperators.Group.List

namespace Sentinel

open Collections

/-! ### Payloads -/

theorem length_intercalate : ∀ lines : List String,
    ("\n".intercalate lines).length = (lines.map fun line => line.length + 1).sum - 1
  | [] => rfl
  | [line] => by simp
  | line :: next :: lines => by
    have ih := length_intercalate (next :: lines)
    have hpos : 1 ≤ ((next :: lines).map fun line => line.length + 1).sum := by
      rw [List.map_cons, List.sum_cons]
      omega
    have hsum : ((line :: next :: lines).map fun line => line.length + 1).sum =
        line.length + 1 + ((next :: lines).map fun line => line.length + 1).sum := rfl
    have hsep : "\n".length = 1 := rfl
    rw [String.intercalate_cons_cons, String.length_append, String.length_append, ih, hsum, hsep]
    omega

/-- Fewer members, a shorter payload. -/
theorem notificationPayload_length_le {members members' : List NotificationCondition}
    (h : members.Sublist members') : (notificationPayload members).length ≤ (notificationPayload members').length := by
  unfold notificationPayload
  rw [length_intercalate, length_intercalate]
  have hsum := ((h.map fun member => notificationLine member.summary).map fun line => line.length + 1).sum_le_sum
    fun _ _ => Nat.zero_le _
  omega

/-- Members already in order are the members as they are read. -/
theorem members_eq {row : OutboxRow} (h : row.conditions.rows.Pairwise fun a b => a.conditionId ≤ b.conditionId) :
    row.members = row.conditions.rows :=
  orderBy_eq_self h

theorem pairwise_survivors (conditionId : String) (row : OutboxRow) :
    (StateStore.survivors conditionId row).Pairwise fun a b => a.conditionId ≤ b.conditionId :=
  (pairwise_orderBy _ _).filter _

/-! ### Rows that can be sent -/

/-- What a row says is what its members say. -/
structure Sendable (row : OutboxRow) : Prop where
  priority : -2 ≤ row.priority ∧ row.priority ≤ 2
  nonempty : row.members ≠ []
  episodes : ∀ member ∈ row.members, member.episodeId ≠ ""
  message : row.message = notificationPayload row.members
  length_le : row.message.length ≤ notificationLimit
  retry : row.status = .retryable → row.nextRetryAt ≠ none

theorem sendable_cancellable : Cancellable Sendable where
  cancelled _ h _ := ⟨h.priority, h.nonempty, h.episodes, h.message, h.length_le, fun hs => nomatch hs⟩
  replaced row conditionId uuid conditions h _ hne hc := by
    have hmembers : OutboxRow.members { StateStore.replacementRow row uuid
        (notificationPayload (StateStore.survivors conditionId row)) with conditions } =
        StateStore.survivors conditionId row := by
      rw [← hc]
      exact members_eq (hc ▸ pairwise_survivors conditionId row)
    have hsub : (StateStore.survivors conditionId row).Sublist row.members := List.filter_sublist
    refine ⟨h.priority, hmembers ▸ hne, ?_, ?_, ?_, h.retry⟩
    · rw [hmembers]
      exact fun member hm => h.episodes member (hsub.subset hm)
    · rw [hmembers]
      rfl
    · show (notificationPayload (StateStore.survivors conditionId row)).length ≤ notificationLimit
      refine (notificationPayload_length_le hsub).trans ?_
      rw [← h.message]
      exact h.length_le

theorem Sendable.claimed {row : OutboxRow} (h : Sendable row) (attempts : Table AttemptRow.id) (uuid : String) :
    Sendable (StateStore.claimedRow row attempts uuid) :=
  ⟨h.priority, h.nonempty, h.episodes, h.message, h.length_le, fun hs => nomatch hs⟩

theorem Sendable.recorded {row : OutboxRow} {completedAt : Timestamp} {outcome : NotificationAttemptOutcome}
    {next : Option Timestamp} (h : Sendable row) (id : String) (hnext : nextRetryAt outcome.status completedAt = .ok next) :
    Sendable (StateStore.recordedRow row id completedAt outcome next) := by
  refine ⟨h.priority, h.nonempty, h.episodes, h.message, h.length_le, fun hs => ?_⟩
  have hs : outcome.status = .retryable := hs
  unfold nextRetryAt at hnext
  rw [if_pos hs, Fallible.bind_eq_ok_iff] at hnext
  obtain ⟨retry, -, hnext⟩ := hnext
  obtain rfl := Except.ok.inj hnext
  exact Option.some_ne_none retry

/-! ### Queued rows -/

section Queued

variable {report : RunReport} {suppress : Bool} {cutoff : Timestamp} {store : StateStore}
  {committed : Committed} {latching : Latching} {persisted : StateStore}

/-- A run makes one transition of a condition. -/
theorem IsCommitted.find?_transition (h : IsCommitted report suppress cutoff store committed latching persisted)
    {transition : ConditionTransition} (ht : transition ∈ committed.report.transitions) :
    committed.report.transitions.find? (fun t => t.conditionId = transition.conditionId ∧ t.kind = transition.kind) =
      some transition := by
  obtain ⟨evaluation, hm, hlatched, hid⟩ := h.conditionId_mem_of_transition ht
  have hfilter := h.filter_transitions_of_mem hm
  rw [hlatched, ← hid] at hfilter
  have hboth : (committed.report.transitions.filter fun t =>
      t.conditionId = transition.conditionId ∧ t.kind = transition.kind) =
      (committed.report.transitions.filter fun t => t.conditionId = transition.conditionId).filter
        fun t => t.kind = transition.kind := by
    rw [List.filter_filter]
    refine List.filter_congr fun t _ => ?_
    rw [Bool.and_comm, Bool.decide_and]
  rw [← List.head?_filter, hboth, hfilter]
  simp

/-- The transitions of one kind are in the order of their conditions. -/
theorem IsCommitted.pairwise_transitions (h : IsCommitted report suppress cutoff store committed latching persisted)
    (kind : TransitionKind) : (committed.report.transitions.filter (·.kind = kind)).Pairwise
      fun a b => a.conditionId ≤ b.conditionId := by
  rw [h.transitions, List.pairwise_filter]
  refine (pairwise_orderBy _ _).imp fun {a b} hab ha hb => ?_
  have ha := of_decide_eq_true ha
  have hb := of_decide_eq_true hb
  rw [ha, hb, Prod.Lex.toLex_le_toLex] at hab
  rcases hab with hlt | ⟨-, hle⟩
  · exact absurd hlt (lt_irrefl _)
  · exact hle

/-- The members of a queued row are read back in the order they were inserted. -/
theorem IsCommitted.members_of_isQueued (h : IsCommitted report suppress cutoff store committed latching persisted)
    {message : OutboxMessage} (hm : message ∈ committed.outbox) {row : OutboxRow}
    (hrow : StateStore.IsQueued committed.store.conditionState committed.report.transitions
      committed.report.completedAt message row) : row.members = row.conditions.rows := by
  obtain ⟨built, kind, batch, hbatch, -, hsub⟩ := h.batch_of_mem hm
  have hmemberships : row.memberships = batch := memberships_of_isQueued hrow hbatch fun t ht => by
    obtain ⟨ht, hk⟩ := List.mem_filter.mp (hsub.subset ht)
    exact ⟨of_decide_eq_true hk, h.find?_transition ht⟩
  have hsorted : row.memberships.Pairwise fun a b => a.conditionId ≤ b.conditionId :=
    hmemberships ▸ (h.pairwise_transitions kind).sublist hsub
  rw [OutboxRow.memberships, List.pairwise_map] at hsorted
  exact members_eq hsorted

/-- **A queued row says what its members say.** -/
theorem IsCommitted.sendable (h : IsCommitted report suppress cutoff store committed latching persisted)
    (hepisodes : ∀ conditionId episode, (latchView committed.store conditionId).episode = some episode → episode ≠ "")
    {message : OutboxMessage} (hm : message ∈ committed.outbox) {row : OutboxRow}
    (hrow : StateStore.IsQueued committed.store.conditionState committed.report.transitions
      committed.report.completedAt message row) : Sendable row := by
  obtain ⟨built, kind, batch, hbatch, -, hsub⟩ := h.batch_of_mem hm
  obtain ⟨uuid, hmessage⟩ := hbatch.header
  have hlength := hbatch.length_le
  have hheader := hrow.header
  rw [hmessage] at hheader
  have hmemberships : row.memberships = batch := memberships_of_isQueued hrow hbatch fun t ht => by
    obtain ⟨ht, hk⟩ := List.mem_filter.mp (hsub.subset ht)
    exact ⟨of_decide_eq_true hk, h.find?_transition ht⟩
  have hlines : (batch.map fun t => notificationLine t.summary) =
      row.conditions.rows.map fun member => notificationLine member.summary := by
    rw [← hmemberships, OutboxRow.memberships, List.map_map]
    rfl
  have hread : row.members = row.conditions.rows := h.members_of_isQueued hm hrow
  have hpayload : row.message = notificationPayload row.members := by
    rw [hread, notificationPayload, ← hlines, hheader]
    rfl
  refine ⟨?_, ?_, ?_, hpayload, ?_, ?_⟩
  · rw [hheader]
    cases kind with
    | alert => exact ⟨show (-2 : ℤ) ≤ 0 by omega, show (0 : ℤ) ≤ 2 by omega⟩
    | resolution => exact ⟨show (-2 : ℤ) ≤ -1 by omega, show (-1 : ℤ) ≤ 2 by omega⟩
  · rw [hread]
    rintro hnil
    rw [OutboxRow.memberships, hnil] at hmemberships
    exact hbatch.nonempty hmemberships.symm
  · rw [hread]
    intro member hmem
    obtain ⟨conditionId, -, hok⟩ := Fallible.exists_of_forall₂_right hrow.members member hmem
    obtain ⟨⟨state, hstate, hepisode⟩, -⟩ := outboxMember_eq_ok hok
    refine hepisodes conditionId member.episodeId ?_
    rw [latchView, hstate]
    exact hepisode
  · rw [hmessage] at hlength
    rw [hheader]
    exact hlength
  · intro hs
    have hstatus := h.status_of_mem hm
    rw [hrow.header] at hs
    have hs : message.status = .retryable := hs
    rw [hs] at hstatus
    cases suppress <;> cases hstatus

end Queued

/-- **Every row says what its members say**, if no run id is empty. -/
theorem sendable_of_history {events : List Event} {store : StateStore} (h : History events store)
    (named : "" ∉ runIds events) : ∀ row ∈ store.notificationOutbox.rows, Sendable row := by
  induction h with
  | start =>
    intro row hrow
    cases hrow
  | commit h ok ih =>
    have hnamed := (List.not_mem_of_not_mem_cons named)
    obtain ⟨latching, persisted, hcommitted⟩ := commitRun_eq_ok ok
    refine hcommitted.forall_rows sendable_cancellable (ih hnamed) fun message hm row hrow => ?_
    refine hcommitted.sendable (fun conditionId episode he hempty => ?_) hm hrow
    have hmem := (deskRun_of_history (h.commit ok)).latched conditionId he
    exact named (hempty ▸ hmem)
  | claim _ _ ok ih => exact forall_rows_claim ok (ih named) fun row attempts hrow _ _ => hrow.claimed attempts _
  | record _ _ ok ih =>
    exact forall_rows_record ok (ih named) fun row next hrow _ _ _ hnext => hrow.recorded _ hnext
  | recover _ _ ok ih =>
    obtain ⟨attempt, report, -, hrecord⟩ := StateStore.recoverAttempt_eq_ok ok
    exact forall_rows_record hrecord (ih named) fun row next hrow _ _ _ hnext => hrow.recorded _ hnext
  | refresh _ ok ih =>
    obtain ⟨⟨runs, rfl⟩, -⟩ := StateStore.refreshRunDelivery_eq_ok ok
    exact ih named

/-! ### The runs of messages -/

/-- Every message is as old as its stored run, and runs have canonical times. -/
structure HasRuns (store : StateStore) : Prop where
  created : ∀ row ∈ store.notificationOutbox.rows, (row.runId, row.createdAt) ∈ store.completions
  canonical : ∀ completion ∈ store.completions, Timestamp.yearZero ≤ completion.2.nanoseconds

section Commit

variable {report : RunReport} {suppress : Bool} {cutoff : Timestamp} {store : StateStore}
  {committed : Committed} {latching : Latching} {persisted : StateStore}

namespace IsCommitted

theorem report_run (h : IsCommitted report suppress cutoff store committed latching persisted) :
    committed.report.runId = report.runId ∧ committed.report.completedAt = report.completedAt := by
  rw [h.report_latched]
  exact ⟨rfl, rfl⟩

theorem completions_persisted (h : IsCommitted report suppress cutoff store committed latching persisted) :
    persisted.completions = store.completions ++ [(report.runId, report.completedAt)] := by
  obtain ⟨run, hruns, ⟨base, hbase, hrun⟩, -, -, -⟩ := h.stored.run
  obtain ⟨hid, -, hcompleted, -⟩ := runRow_eq_ok hbase
  have hframe : latching.store.runs = store.runs := by
    rw [h.latched.frame]
  rw [StateStore.completions, hruns, List.map_append, hframe, List.map_singleton, hrun, ← h.report_run.1, ← hid,
    ← h.report_run.2, ← hcompleted]
  rfl

/-- **A commit keeps messages with their runs**: retention deletes both. -/
theorem hasRuns (h : IsCommitted report suppress cutoff store committed latching persisted) (hs : HasRuns store) :
    HasRuns committed.store := by
  have hcancellable : Cancellable fun row => (row.runId, row.createdAt) ∈ persisted.completions :=
    ⟨fun _ hrow _ => hrow, fun _ _ _ _ hrow _ _ _ => hrow⟩
  have hold : ∀ row ∈ store.notificationOutbox.rows, (row.runId, row.createdAt) ∈ persisted.completions := by
    intro row hrow
    rw [h.completions_persisted]
    exact List.mem_append_left _ (hs.created row hrow)
  have hall := h.forall_rows hcancellable hold fun message hm row hrow => by
    obtain ⟨built, kind, batch, hbatch, hid, -⟩ := h.batch_of_mem hm
    obtain ⟨uuid, hmessage⟩ := hbatch.header
    have hpair : (row.runId, row.createdAt) = (report.runId, report.completedAt) := by
      rw [hrow.header, hmessage, ← hid, ← h.report_run.2]
      rfl
    rw [hpair, h.completions_persisted]
    exact List.mem_append_right _ (List.mem_singleton.mpr rfl)
  constructor
  · intro row hrow
    obtain ⟨run, hrun, hpair⟩ := List.mem_map.mp (hall row hrow)
    refine List.mem_map.mpr ⟨run, ?_, hpair⟩
    rw [h.pruned] at hrow ⊢
    have hkept := (List.mem_filter.mp hrow).2
    simp only [Bool.not_eq_true', List.any_eq_false, decide_eq_true_eq] at hkept
    refine List.mem_filter.mpr ⟨hrun, ?_⟩
    rw [Bool.not_eq_true', ← Bool.not_eq_true]
    intro hreleased
    exact hkept run (List.mem_filter.mpr ⟨hrun, hreleased⟩) (Prod.mk.inj hpair).1
  · intro completion hm
    have hmem : completion ∈ persisted.completions := by
      rw [h.pruned] at hm
      exact (List.filter_sublist.map _).subset hm
    rw [h.completions_persisted, List.mem_append] at hmem
    rcases hmem with hmem | hmem
    · exact hs.canonical completion hmem
    · rw [List.mem_singleton.mp hmem]
      exact h.canonical

end IsCommitted

end Commit

theorem HasRuns.sameRuns {store store' : StateStore} (h : HasRuns store) (hruns : SameRuns store store')
    (hrows : ∀ row ∈ store'.notificationOutbox.rows, (row.runId, row.createdAt) ∈ store.completions) :
    HasRuns store' := by
  have hsame : store'.completions = store.completions := hruns
  exact ⟨fun row hrow => hsame ▸ hrows row hrow, hsame ▸ h.canonical⟩

theorem HasRuns.record {store store' : StateStore} {attempt : NotificationAttempt} {completedAt : Timestamp}
    {outcome : NotificationAttemptOutcome} {report : NotificationReport} (h : HasRuns store)
    (ok : store.recordNotificationAttempt attempt completedAt outcome = .ok (store', report)) : HasRuns store' := by
  obtain ⟨_, _, _, _, _, -, -, -, -, -, -, hruns, -, -⟩ := StateStore.recordNotificationAttempt_eq_ok ok
  exact h.sameRuns hruns.sameRuns (forall_rows_record ok h.created fun row next hrow _ _ _ _ => hrow)

/-- **Every message has its run**, in every history. -/
theorem hasRuns_of_history {events : List Event} {store : StateStore} (h : History events store) : HasRuns store := by
  induction h with
  | start => exact ⟨fun _ hm => (nomatch hm), fun _ hm => (nomatch hm)⟩
  | commit _ ok ih =>
    obtain ⟨latching, persisted, hcommitted⟩ := commitRun_eq_ok ok
    exact hcommitted.hasRuns ih
  | claim _ _ ok ih =>
    obtain ⟨_, _, _, _, -, -, -, -, hruns, -⟩ := StateStore.beginNotificationAttempt_eq_ok ok
    exact ih.sameRuns hruns.sameRuns (forall_rows_claim ok ih.created fun row attempts hrow _ _ => hrow)
  | record _ _ ok ih => exact ih.record ok
  | recover _ _ ok ih =>
    obtain ⟨attempt, report, -, hrecord⟩ := StateStore.recoverAttempt_eq_ok ok
    exact ih.record hrecord
  | refresh _ ok ih =>
    obtain ⟨⟨runs, rfl⟩, hruns⟩ := StateStore.refreshRunDelivery_eq_ok ok
    exact ih.sameRuns hruns.sameRuns ih.created

/-! ### Claiming -/

section Claim

variable {store : StateStore} {row : OutboxRow} {messageId : String} {startedAt : Timestamp}

theorem toMessage_ok (hp : -2 ≤ row.priority ∧ row.priority ≤ 2) :
    ∃ message, row.toMessage = .ok message ∧ message.id = row.id ∧ message.status = row.status := by
  have hpriority : i8FromI64 row.priority "priority out of range" = .ok row.priority := by
    unfold i8FromI64
    rw [if_pos (by omega)]
  simp only [OutboxRow.toMessage, Fallible.bind_eq_ok_iff]
  exact ⟨_, ⟨row.priority, hpriority, rfl⟩, rfl, rfl⟩

theorem loadOutboxMessage_ok (hfind : store.notificationOutbox.find? messageId = some row)
    (hp : -2 ≤ row.priority ∧ row.priority ≤ 2) : ∃ message, store.loadOutboxMessage messageId = .ok message ∧
      message.id = row.id ∧ message.status = row.status := by
  obtain ⟨message, hmessage, hmatch⟩ := toMessage_ok hp
  refine ⟨message, ?_, hmatch⟩
  simp only [StateStore.loadOutboxMessage, hfind, Fallible.bind_eq_ok_iff, constraint_eq_ok_iff]
  exact ⟨row, rfl, hmessage⟩

theorem admitAttempt_ok (hrow : row ∈ store.notificationOutbox.rows) (hs : Sendable row) (hu : row.Unsent)
    (hr : HasRuns store) (latest : ∀ run ∈ store.runs.rows, run.completedAt ≤ startedAt)
    (due : ∀ retry ∈ row.nextRetryAt, retry ≤ startedAt) :
    StateStore.admitAttempt row startedAt store.latestCompletedAt = .ok () := by
  obtain ⟨run, hrun, hpair⟩ := List.mem_map.mp (hr.created row hrow)
  have hcreated : run.completedAt = row.createdAt := (Prod.mk.inj hpair).2
  obtain ⟨last, hlast, -⟩ := StateStore.le_latestCompletedAt hrun
  obtain ⟨⟨lastRun, hlastRun, hcompleted⟩, -⟩ := StateStore.latestCompletedAt_eq_some_iff.mp hlast
  have hcanonical : ∀ run ∈ store.runs.rows, canonicalTimestamp run.completedAt = .ok run.completedAt :=
    fun run hrun => canonicalTimestamp_of_le (hr.canonical _ (List.mem_map.mpr ⟨run, hrun, rfl⟩))
  have hlatest : store.latestCompletedAt.mapM canonicalTimestamp = .ok (some last) := by
    rw [hlast, Option.mapM_some, ← hcompleted, hcanonical lastRun hlastRun]
    rfl
  have hne : row.members ≠ [] ∧ ∀ member ∈ row.members, member.episodeId ≠ "" := ⟨hs.nonempty, hs.episodes⟩
  have hpayload : notificationPayload row.members = row.message ∧
      (notificationPayload row.members).length ≤ notificationLimit := ⟨hs.message.symm, hs.message ▸ hs.length_le⟩
  have hretry : ¬(row.status = .retryable ∧ row.nextRetryAt = none) := fun h => hs.retry h.1 h.2
  have hclock : row.createdAt ≤ startedAt ∧ ∀ latest ∈ some last, latest ≤ startedAt := by
    refine ⟨hcreated ▸ latest run hrun, fun t ht => ?_⟩
    rw [← Option.some.inj ht, ← hcompleted]
    exact latest lastRun hlastRun
  simp only [StateStore.admitAttempt, Fallible.bind_eq_ok_iff, Fallible.ensure_eq_ok_iff, decide_eq_true_eq]
  exact ⟨row.createdAt, hcreated ▸ hcanonical run hrun, some last, hlatest, (), hclock, (), ⟨hu, due, hretry⟩, (), hne,
    hpayload⟩

theorem insertAttempt_ok (hfind : store.notificationOutbox.find? messageId = some row) {attempt : AttemptRow}
    (fresh : ∀ row ∈ store.notificationOutbox.rows, ∀ old ∈ row.attempts.rows, old.id ≠ attempt.id) :
    ∃ store', store.insertAttempt messageId attempt = .ok store' ∧ store'.runs = store.runs := by
  have hrow := (Table.find?_eq_some_iff.mp hfind).1
  obtain ⟨attempts, hattempts⟩ : ∃ attempts, row.attempts.insert? attempt = some attempts := by
    unfold Table.insert?
    rw [dif_neg]
    · exact ⟨_, rfl⟩
    · intro hmem
      obtain ⟨old, hold, hid⟩ := List.mem_map.mp hmem
      exact fresh row hrow old hold hid
  have hall : store.notificationOutbox.rows.all (fun row => row.attempts.rows.all (·.id ≠ attempt.id)) := by
    simpa using fresh
  refine ⟨store.updateMessage messageId (fun row => { row with attempts }) fun _ => rfl, ?_, rfl⟩
  simp only [StateStore.insertAttempt, Fallible.bind_eq_ok_iff, columnCheck_eq_ok_iff, constraint_eq_ok_iff]
  exact ⟨(), hall, row, hfind, attempts, hattempts, rfl⟩

theorem recordDeliveryActivity_ok {runId : String} {run : RunRow} (h : store.runs.find? runId = some run)
    (activity : DeliveryActivity) : ∃ store', store.recordDeliveryActivity runId activity = .ok store' := by
  simp only [StateStore.recordDeliveryActivity, Fallible.bind_eq_ok_iff, constraint_eq_ok_iff]
  exact ⟨_, run, h, rfl⟩

/-- **A sendable message that is due can be claimed.** -/
theorem beginNotificationAttempt_ok (hfind : store.notificationOutbox.find? messageId = some row) (hs : Sendable row)
    (hu : row.Unsent) (hr : HasRuns store) (latest : ∀ run ∈ store.runs.rows, run.completedAt ≤ startedAt)
    (due : ∀ retry ∈ row.nextRetryAt, retry ≤ startedAt) {uuid executingRunId : String}
    (fresh : ∀ row ∈ store.notificationOutbox.rows, ∀ old ∈ row.attempts.rows, old.id ≠ uuid)
    (stored : (store.runs.find? executingRunId).isSome) :
    ∃ store' attempt, store.beginNotificationAttempt uuid messageId startedAt executingRunId = .ok (store', attempt) := by
  have hrow := (Table.find?_eq_some_iff.mp hfind).1
  have hstarted : canonicalTimestamp startedAt = .ok startedAt := by
    obtain ⟨run, hrun, -⟩ := List.mem_map.mp (hr.created row hrow)
    have hcanonical := hr.canonical _ (List.mem_map.mpr ⟨run, hrun, rfl⟩)
    exact canonicalTimestamp_of_le (hcanonical.trans (Timestamp.le_iff.mp (latest run hrun)))
  obtain ⟨message, hmessage, -⟩ := loadOutboxMessage_ok hfind hs.priority
  have hnew : ∀ row ∈ store.notificationOutbox.rows, ∀ old ∈ row.attempts.rows,
      old.id ≠ (StateStore.attemptRow uuid executingRunId startedAt).id := fresh
  obtain ⟨inserted, hinsert, hruns⟩ := insertAttempt_ok hfind hnew
  obtain ⟨run, hrun⟩ := Option.isSome_iff_exists.mp stored
  let claimed := inserted.updateMessage messageId
    (fun row => { row with status := .inFlight, attemptId := some uuid }) fun _ => rfl
  have hexecuting : claimed.runs.find? executingRunId = some run := hruns ▸ hrun
  obtain ⟨store', hactivity⟩ :=
    recordDeliveryActivity_ok hexecuting (StateStore.activityOf uuid message .inFlight none none)
  refine ⟨store', ⟨{ message with status := .inFlight }, uuid, startedAt, executingRunId⟩, ?_⟩
  simp only [StateStore.beginNotificationAttempt, Fallible.bind_eq_ok_iff, constraint_eq_ok_iff]
  exact ⟨startedAt, hstarted, message, hmessage, row, hfind, (), admitAttempt_ok hrow hs hu hr latest due, inserted,
    hinsert, store', hactivity, rfl⟩

/-- What is selected is a due message of the outbox. -/
theorem mem_pendingOutbox {now : Timestamp} {messages : List OutboxMessage}
    (h : store.pendingOutbox now = .ok messages) {message : OutboxMessage} (hm : message ∈ messages) :
    ∃ row, store.notificationOutbox.find? message.id = some row ∧ row.Unsent ∧ ∀ retry ∈ row.nextRetryAt, retry ≤ now := by
  simp only [StateStore.pendingOutbox, Fallible.bind_eq_ok_iff] at h
  obtain ⟨now', hnow, h⟩ := h
  obtain rfl := canonicalTimestamp_eq_ok hnow
  obtain ⟨row, hrow, hmessage⟩ := Fallible.exists_of_forall₂_right (Fallible.mapM_eq_ok_iff.mp h) message hm
  obtain ⟨hrow, hpending⟩ := List.mem_filter.mp (mem_orderBy.mp hrow)
  obtain ⟨hu, hdue⟩ := of_decide_eq_true hpending
  simp only [OutboxRow.toMessage, Fallible.bind_eq_ok_iff] at hmessage
  obtain ⟨priority, -, hmessage⟩ := hmessage
  have hid : message.id = row.id := by rw [← Except.ok.inj hmessage]
  exact ⟨row, hid ▸ Table.find?_key hrow, hu, hdue⟩

theorem pendingOutbox_ok {now : Timestamp} (hs : ∀ row ∈ store.notificationOutbox.rows, Sendable row)
    (canonical : Timestamp.yearZero ≤ now.nanoseconds) : ∃ messages, store.pendingOutbox now = .ok messages := by
  obtain ⟨messages, hmessages⟩ : ∃ messages, (orderBy
      (fun row : OutboxRow => toLex (row.createdAt, transitionOrder row.transition))
      (store.notificationOutbox.rows.filter fun row =>
        row.status ∈ [.pending, .retryable] ∧ ∀ retry ∈ row.nextRetryAt, retry ≤ now)).mapM (·.toMessage) =
      .ok messages :=
    Fallible.exists_mapM_eq_ok fun row hrow => by
      have hsendable := hs row (List.mem_of_mem_filter (mem_orderBy.mp hrow))
      obtain ⟨message, hmessage, -⟩ := toMessage_ok hsendable.priority
      exact ⟨message, hmessage⟩
  refine ⟨messages, ?_⟩
  simp only [StateStore.pendingOutbox, Fallible.bind_eq_ok_iff]
  exact ⟨now, canonicalTimestamp_of_le canonical, hmessages⟩

end Claim

/-- **Everything selected for delivery can be claimed.** In every history
whose run ids are not empty, a message selected no earlier than the latest run
can be claimed at any later instant, under a new id and for a stored run;
every message that waits is well formed, and no younger than the latest run. -/
theorem pending_claimable {events : List Event} {store : StateStore} (h : History events store)
    (named : "" ∉ runIds events) {now startedAt : Timestamp}
    (latest : ∀ run ∈ store.runs.rows, run.completedAt ≤ now) (later : now ≤ startedAt) :
    (Timestamp.yearZero ≤ now.nanoseconds → ∃ messages, store.pendingOutbox now = .ok messages) ∧
    (∀ messages, store.pendingOutbox now = .ok messages → ∀ message ∈ messages, ∀ uuid executingRunId,
      (∀ row ∈ store.notificationOutbox.rows, ∀ old ∈ row.attempts.rows, old.id ≠ uuid) →
      (store.runs.find? executingRunId).isSome → ∃ store' attempt,
        store.beginNotificationAttempt uuid message.id startedAt executingRunId = .ok (store', attempt)) ∧
    ∀ row ∈ store.notificationOutbox.rows, row.status ∈ [.pending, .retryable] →
      row.members ≠ [] ∧ (∀ member ∈ row.members, member.episodeId ≠ "") ∧
      row.message = "\n".intercalate (row.members.map fun member => notificationLine member.summary) ∧
      row.message.length ≤ 1024 ∧ (row.status = .retryable → row.nextRetryAt ≠ none) ∧
      ∃ run ∈ store.runs.rows, row.createdAt ≤ run.completedAt := by
  have hsendable := sendable_of_history h named
  have hruns := hasRuns_of_history h
  refine ⟨pendingOutbox_ok hsendable, fun messages hmessages message hm uuid executingRunId fresh stored => ?_,
    fun row hrow _ => ?_⟩
  · obtain ⟨row, hfind, hu, hdue⟩ := mem_pendingOutbox hmessages hm
    have hs := hsendable row (Table.find?_eq_some_iff.mp hfind).1
    exact beginNotificationAttempt_ok hfind hs hu hruns (fun run hrun => (latest run hrun).trans later)
      (fun retry hr => (hdue retry hr).trans later) fresh stored
  · have hs := hsendable row hrow
    obtain ⟨run, hrun, hpair⟩ := List.mem_map.mp (hruns.created row hrow)
    exact ⟨hs.nonempty, hs.episodes, hs.message, hs.length_le, hs.retry, run, hrun, (Prod.mk.inj hpair).2.ge⟩

/-- An alert the network lost is selected and claimed again. -/
theorem pending_claimable_retried : ∃ events store store' attempt, History events store ∧
    store.beginNotificationAttempt "again" "message" (second 10) "first" = .ok (store', attempt) := by
  have hany : (apiAlert (.retryable none "network")).toOption.any (fun alert =>
      decide (alert.Announces ∧ (alert.recorded.runs.rows.all fun run => run.completedAt ≤ second 9) ∧
        (alert.recorded.notificationOutbox.rows.all fun row => row.attempts.rows.all fun old => old.id ≠ "again") ∧
        (alert.recorded.runs.find? "first").isSome ∧
        (alert.recorded.pendingOutbox (second 9)).toOption.any fun messages =>
          messages.any (·.id = "message"))) = true := by decide +kernel
  obtain ⟨alert, h, hrun⟩ := Fallible.ok_of_any hany
  obtain ⟨hannounces, hlatest, hfresh, hstored, hpending⟩ := of_decide_eq_true hrun
  obtain ⟨queued, hhistory⟩ := history_apiAlert h hannounces
  have hnamed : "" ∉ runIds [.ended [apiAnnouncement .alert] .retryable, .claimed [apiAnnouncement .alert],
      .committed "first" false queued] := by
    show "" ∉ ["first"]
    decide
  obtain ⟨messages, hok, hmessages⟩ := Fallible.ok_of_any hpending
  obtain ⟨message, hm, hid⟩ := List.any_eq_true.mp hmessages
  have hlatest : ∀ run ∈ alert.recorded.runs.rows, run.completedAt ≤ second 9 := by simpa using hlatest
  have hfresh : ∀ row ∈ alert.recorded.notificationOutbox.rows, ∀ old ∈ row.attempts.rows, old.id ≠ "again" := by
    simpa using hfresh
  obtain ⟨-, hclaim, -⟩ := pending_claimable hhistory hnamed hlatest (show second 9 ≤ second 10 by decide)
  obtain ⟨store', attempt, hbegin⟩ := hclaim messages hok message hm "again" "first" hfresh hstored
  exact ⟨_, alert.recorded, store', attempt, hhistory, of_decide_eq_true hid ▸ hbegin⟩

end Sentinel
