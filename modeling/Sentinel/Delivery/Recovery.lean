/-
# Recovery never wedges

A message in flight has an attempt without a result, and the run that executes
the attempt is stored: a run is committed, and runs are pruned, only when
nothing is in flight. So whenever a check died, recovery can record every
interrupted attempt. It leaves the interrupted messages unknown, with the
latches that are still in their episodes, and every other message as it was.

Key theorems: `kept_resumable`, `recovers`, `recovery_succeeds`.
-/
import Sentinel.Delivery.Eligible

namespace Sentinel

open Collections CrashTxn

/-! ### What recovery relies on -/

/-- A message in flight has its attempt, not ended, by a stored run. -/
def Resumable (store : StateStore) (row : OutboxRow) : Prop :=
  row.status = .inFlight → ∃ attempt completedAt, row.attemptId = some attempt.id ∧
    row.attempts.find? attempt.id = some attempt ∧ row.attempts.rows.countP (isUnfinished attempt.id) = 1 ∧
    (attempt.executingRunId, completedAt) ∈ store.completions

/-- Every message can be read and, if it is in flight, recovered. -/
structure AllResumable (store : StateStore) : Prop where
  priority : ∀ row ∈ store.notificationOutbox.rows, -2 ≤ row.priority ∧ row.priority ≤ 2
  resumable : ∀ row ∈ store.notificationOutbox.rows, Resumable store row

theorem find?_of_mem_completions {store : StateStore} {runId : String} {completedAt : Timestamp}
    (h : (runId, completedAt) ∈ store.completions) : ∃ run, store.runs.find? runId = some run := by
  obtain ⟨run, hrun, hpair⟩ := List.mem_map.mp h
  obtain ⟨rfl, -⟩ := Prod.mk.inj hpair
  exact ⟨run, Table.find?_key hrun⟩

theorem SameRuns.mem_completions {store store' : StateStore} (h : SameRuns store store') {run : String × Timestamp} :
    run ∈ store'.completions ↔ run ∈ store.completions := by
  have hsame : store'.completions = store.completions := h
  rw [hsame]

theorem mem_completions_of_find? {store : StateStore} {runId : String} {run : RunRow}
    (h : store.runs.find? runId = some run) : (runId, run.completedAt) ∈ store.completions := by
  obtain ⟨hrun, rfl⟩ := Table.find?_eq_some_iff.mp h
  exact List.mem_map.mpr ⟨run, hrun, rfl⟩

/-- The priorities a commit leaves are those the outbox admits. -/
theorem priority_cancellable : Cancellable fun row => -2 ≤ row.priority ∧ row.priority ≤ 2 where
  cancelled _ h _ := h
  replaced _ _ _ _ h _ _ _ := h

/-- A commit with nothing in flight leaves nothing in flight. -/
theorem noneInFlight_cancellable : Cancellable fun row => row.status ≠ .inFlight where
  cancelled _ _ _ := fun h => nomatch h
  replaced _ _ _ _ h _ _ _ := h

section Commit

variable {report : RunReport} {suppress : Bool} {cutoff : Timestamp} {store : StateStore}
  {committed : Committed} {latching : Latching} {persisted : StateStore}

theorem IsCommitted.noneInFlight (h : IsCommitted report suppress cutoff store committed latching persisted)
    (hquiet : NoneInFlight store) : NoneInFlight committed.store := by
  refine h.forall_rows noneInFlight_cancellable hquiet fun message hm row hrow => ?_
  have hstatus : row.status = message.status := by
    rw [hrow.header]
    rfl
  rw [hstatus, h.status_of_mem hm]
  cases suppress <;> decide

theorem IsCommitted.priority (h : IsCommitted report suppress cutoff store committed latching persisted)
    (hs : ∀ row ∈ store.notificationOutbox.rows, -2 ≤ row.priority ∧ row.priority ≤ 2) :
    ∀ row ∈ committed.store.notificationOutbox.rows, -2 ≤ row.priority ∧ row.priority ≤ 2 := by
  refine h.forall_rows priority_cancellable hs fun message hm row hrow => ?_
  obtain ⟨built, kind, batch, hbatch, -, -⟩ := h.batch_of_mem hm
  obtain ⟨uuid, hmessage⟩ := hbatch.header
  rw [hrow.header, hmessage]
  cases kind with
  | alert => exact ⟨show (-2 : ℤ) ≤ 0 by omega, show (0 : ℤ) ≤ 2 by omega⟩
  | resolution => exact ⟨show (-2 : ℤ) ≤ -1 by omega, show (-1 : ℤ) ≤ 2 by omega⟩

end Commit

section Attempt

variable {store store' : StateStore}

/-- What a claimed message needs to be recovered is there. -/
theorem resumable_claimed {row : OutboxRow} {attempts : Table AttemptRow.id} {uuid executingRunId : String}
    {startedAt completedAt : Timestamp}
    (ha : attempts.rows = row.attempts.rows ++ [StateStore.attemptRow uuid executingRunId startedAt])
    (hrun : (executingRunId, completedAt) ∈ store'.completions) :
    Resumable store' (StateStore.claimedRow row attempts uuid) := by
  intro _
  refine ⟨StateStore.attemptRow uuid executingRunId startedAt, completedAt, rfl, ?_, ?_, hrun⟩
  · exact Table.find?_eq_some_iff.mpr ⟨ha ▸ List.mem_append_right _ List.mem_cons_self, rfl⟩
  · have hsplit : attempts.rows = row.attempts.rows ++ StateStore.attemptRow uuid executingRunId startedAt :: [] := ha
    have hother : row.attempts.rows.countP (isUnfinished uuid) = 0 := by
      rw [List.countP_eq_zero]
      intro old hold hun
      have hne := Table.key_ne_of_split hsplit old (List.mem_append_left _ hold)
      simp only [isUnfinished, Bool.and_eq_true, decide_eq_true_eq] at hun
      exact hne hun.1.1
    have hnew : [StateStore.attemptRow uuid executingRunId startedAt].countP (isUnfinished uuid) = 1 := by
      simp [isUnfinished, StateStore.attemptRow]
    show attempts.rows.countP (isUnfinished uuid) = 1
    rw [ha, List.countP_append, hother, hnew]

/-- The executing run of a claim is stored. -/
theorem executing_of_begin {uuid messageId executingRunId : String} {startedAt : Timestamp}
    {attempt : NotificationAttempt}
    (h : store.beginNotificationAttempt uuid messageId startedAt executingRunId = .ok (store', attempt)) :
    ∃ completedAt, (executingRunId, completedAt) ∈ store.completions := by
  simp only [StateStore.beginNotificationAttempt, Fallible.bind_eq_ok_iff] at h
  obtain ⟨_, -, _, -, _, -, _, -, inserted, hinsert, recorded, hactivity, -⟩ := h
  simp only [StateStore.insertAttempt, Fallible.bind_eq_ok_iff] at hinsert
  obtain ⟨_, -, _, -, _, -, hinsert⟩ := hinsert
  obtain rfl := Except.ok.inj hinsert
  simp only [StateStore.recordDeliveryActivity, Fallible.bind_eq_ok_iff, constraint_eq_ok_iff] at hactivity
  obtain ⟨run, hrun, -⟩ := hactivity
  exact ⟨run.completedAt, mem_completions_of_find? hrun⟩

theorem Resumable.sameRuns (hruns : SameRuns store store') {row : OutboxRow} (h : Resumable store row) :
    Resumable store' row := by
  unfold Resumable at h ⊢
  simpa only [hruns.mem_completions] using h

end Attempt

/-- **Every transaction keeps interrupted attempts recoverable.** -/
theorem kept_resumable : Kept AllResumable where
  commit hs hquiet ok := by
    obtain ⟨latching, persisted, hcommitted⟩ := commitRun_eq_ok ok
    have hquiet' := hcommitted.noneInFlight hquiet
    exact ⟨hcommitted.priority hs.priority, fun row hrow hflight => absurd hflight (hquiet' row hrow)⟩
  claim hs ok := by
    obtain ⟨row, attempts, runs, outbox, -, hunsent, hattempts, hexchange, hruns, -⟩ :=
      StateStore.beginNotificationAttempt_eq_ok ok
    obtain ⟨completedAt, hexecuting⟩ := executing_of_begin ok
    refine ⟨forall_rows_claim ok hs.priority fun row attempts hrow _ _ => hrow, fun other hother => ?_⟩
    rcases hexchange.mem_iff hother with rfl | ⟨hold, -⟩
    · exact resumable_claimed hattempts (hruns.sameRuns.mem_completions.mpr hexecuting)
    · exact (hs.resumable other hold).sameRuns hruns.sameRuns
  record hs ok := by
    obtain ⟨row, next, outbox, runs, states, -, -, -, -, -, hexchange, hruns, -, -⟩ :=
      StateStore.recordNotificationAttempt_eq_ok ok
    refine ⟨forall_rows_record ok hs.priority fun row next hrow _ _ _ _ => hrow, fun other hother => ?_⟩
    rcases hexchange.mem_iff hother with rfl | ⟨hold, -⟩
    · intro hflight
      exact absurd hflight (NotificationAttemptOutcome.status_ne_inFlight _)
    · exact (hs.resumable other hold).sameRuns hruns.sameRuns
  refresh hs ok := by
    obtain ⟨⟨runs, rfl⟩, hruns⟩ := StateStore.refreshRunDelivery_eq_ok ok
    exact ⟨hs.priority, fun row hrow => (hs.resumable row hrow).sameRuns hruns.sameRuns⟩

theorem allResumable_empty : AllResumable .empty :=
  ⟨fun _ hrow => (nomatch hrow), fun _ hrow => (nomatch hrow)⟩

/-! ### One interrupted message -/

/-- The row of a message in flight after its recovery. -/
def StateStore.recoveredRow (recoveredAt : Timestamp) (row : OutboxRow) : OutboxRow :=
  match row.attemptId.bind row.attempts.find? with
  | some attempt => recordedRow row attempt.id (max recoveredAt attempt.startedAt) interruptedOutcome none
  | none => row

theorem recoveredRow_id (recoveredAt : Timestamp) (row : OutboxRow) :
    (StateStore.recoveredRow recoveredAt row).id = row.id := by
  unfold StateStore.recoveredRow
  split <;> rfl

/-- A recovered message is unknown. -/
theorem recoveredRow_status {store : StateStore} {row : OutboxRow} (recoveredAt : Timestamp)
    (h : Resumable store row) (hflight : row.status = .inFlight) :
    (StateStore.recoveredRow recoveredAt row).status = .unknown := by
  obtain ⟨attempt, _, hid, hfind, -, -⟩ := h hflight
  unfold StateStore.recoveredRow
  rw [hid, Option.bind_some, hfind]
  rfl

section Record

variable {store : StateStore}

/-- **A result can be recorded** for a message in flight, by a stored run,
unless the clock has run backwards. -/
theorem recordNotificationAttempt_ok {attempt : NotificationAttempt} {completedAt executed : Timestamp}
    {outcome : NotificationAttemptOutcome} {row : OutboxRow} {next : Option Timestamp}
    (hfind : store.notificationOutbox.find? attempt.message.id = some row)
    (hpriority : -2 ≤ row.priority ∧ row.priority ≤ 2) (hflight : row.status = .inFlight)
    (hid : row.attemptId = some attempt.id) (hcount : row.attempts.rows.countP (isUnfinished attempt.id) = 1)
    (hrun : (attempt.executingRunId, executed) ∈ store.completions)
    (canonical : Timestamp.yearZero ≤ completedAt.nanoseconds) (clock : attempt.startedAt ≤ completedAt)
    (hnext : nextRetryAt outcome.status completedAt = .ok next) :
    ∃ store' report, store.recordNotificationAttempt attempt completedAt outcome = .ok (store', report) := by
  obtain ⟨message, hmessage, hmessageId, hmessageStatus⟩ := loadOutboxMessage_ok hfind hpriority
  have hrowId : row.id = attempt.message.id := (Table.find?_eq_some_iff.mp hfind).2
  have hrow : store.notificationOutbox.find? message.id = some row := by rw [hmessageId, hrowId, hfind]
  -- settling the members keeps the runs, so the executing run takes the activity
  let settled := store.updateMessage message.id
    (fun row => StateStore.recordedRow row attempt.id completedAt outcome next) fun _ => rfl
  obtain ⟨runs, states, hsettled, hruns, -⟩ := StateStore.settleResult_eq message.runId row.members
    (deliveredState outcome.status message.transition) settled
  have hrun : (attempt.executingRunId, executed) ∈ settled.completions := hrun
  obtain ⟨run, hstored⟩ := find?_of_mem_completions (hruns.sameRuns.mem_completions.mpr hrun)
  obtain ⟨recorded, hactivity⟩ := recordDeliveryActivity_ok hstored (StateStore.activityOf attempt.id message
    outcome.status outcome.remoteRequestId outcome.errorClass)
  simp only [StateStore.recordNotificationAttempt, Fallible.bind_eq_ok_iff, constraint_eq_ok_iff,
    Fallible.ensure_eq_ok_iff, decide_eq_true_eq]
  exact ⟨_, _, completedAt, canonicalTimestamp_of_le canonical, (), clock, message, hmessage, row, hrow, (),
    ⟨hmessageStatus.trans hflight, hid⟩, (), hcount, next, hnext, recorded, hactivity, rfl⟩

/-- **An interrupted message is recovered**: its row is exchanged, and the
latches still in its episodes become unknown. -/
theorem recoverAttempt_ok {recoveredAt : Timestamp} (canonical : Timestamp.yearZero ≤ recoveredAt.nanoseconds)
    (hs : AllResumable store) {row : OutboxRow} (hrow : row ∈ store.notificationOutbox.rows)
    (hflight : row.status = .inFlight) :
    ∃ store' activity, StateStore.recoverAttempt recoveredAt row store = .ok (store', activity) ∧
      AllResumable store' ∧ Exchanges store store' row (StateStore.recoveredRow recoveredAt row) ∧
      ∀ conditionId, store'.conditionState.find? conditionId = (store.conditionState.find? conditionId).map
        (StateStore.settledLatch row.members (some .unknown)) := by
  obtain ⟨attempt, executed, hid, hattempt, hcount, hexecuted⟩ := hs.resumable row hrow hflight
  have hfind : store.notificationOutbox.find? row.id = some row := Table.find?_key hrow
  obtain ⟨message, hmessage, hmessageId, -⟩ := loadOutboxMessage_ok hfind (hs.priority row hrow)
  let interrupted : NotificationAttempt := ⟨message, attempt.id, attempt.startedAt, attempt.executingRunId⟩
  have hinterrupted : StateStore.interruptedAttempt row store = .ok interrupted := by
    simp only [StateStore.interruptedAttempt, Fallible.bind_eq_ok_iff, Fallible.demand_eq_ok_iff]
    exact ⟨attempt.id, hid, attempt, hattempt, message, hmessage, rfl⟩
  have hcanonical : Timestamp.yearZero ≤ (max recoveredAt attempt.startedAt).nanoseconds :=
    canonical.trans (Timestamp.le_iff.mp (le_max_left _ _))
  have hnext : nextRetryAt StateStore.interruptedOutcome.status (max recoveredAt attempt.startedAt) = .ok none := rfl
  have hfind' : store.notificationOutbox.find? interrupted.message.id = some row := by rw [hmessageId, hfind]
  obtain ⟨store', report, hrecord⟩ := recordNotificationAttempt_ok hfind' (hs.priority row hrow) hflight hid hcount
    hexecuted hcanonical (le_max_right _ _) hnext
  obtain ⟨row', next, _, _, _, hrow', -, -, -, hnext', hexchange, -, hstates, hstore'⟩ :=
    StateStore.recordNotificationAttempt_eq_ok hrecord
  obtain rfl := Option.some.inj (hfind'.symm.trans hrow')
  obtain rfl := Except.ok.inj (hnext.symm.trans hnext')
  have hrecovered : StateStore.recoveredRow recoveredAt row = StateStore.recordedRow row interrupted.id
      (max recoveredAt attempt.startedAt) StateStore.interruptedOutcome none := by
    unfold StateStore.recoveredRow
    rw [hid, Option.bind_some, hattempt]
  refine ⟨store', ⟨interrupted.id, interrupted.message.runId, .recovered, report⟩, ?_, kept_resumable.record hs hrecord,
    hrecovered ▸ hexchange, fun conditionId => ?_⟩
  · simp only [StateStore.recoverAttempt, Fallible.bind_eq_ok_iff]
    exact ⟨interrupted, hinterrupted, (store', report), hrecord, rfl⟩
  · rw [hstore']
    exact hstates conditionId

end Record

/-! ### The recovery loop -/

/-- One row after another keeps its id; the others are as they were. -/
theorem Exchanges.rows_eq {store store' : StateStore} {row row' : OutboxRow} (h : Exchanges store store' row row') :
    store'.notificationOutbox.rows =
      store.notificationOutbox.rows.map fun other => if other.id = row.id then row' else other := by
  obtain ⟨before, after, hs, hs'⟩ := h
  have hne := Table.key_ne_of_split hs
  rw [hs, hs', List.map_append, List.map_cons, if_pos rfl,
    Table.map_of_key_ne (f := fun _ => row') fun other ho => hne other (List.mem_append_left _ ho),
    Table.map_of_key_ne (f := fun _ => row') fun other ho => hne other (List.mem_append_right _ ho)]

/-- Members one after the other settle a latch like all of them at once. -/
theorem settledLatch_append (members members' : List NotificationCondition) (state : AlertDeliveryState)
    (latch : ConditionState) : StateStore.settledLatch members' (some state)
      (StateStore.settledLatch members (some state) latch) =
        StateStore.settledLatch (members ++ members') (some state) latch := by
  have hsettled : ∀ (members : List NotificationCondition) (latch : ConditionState),
      (∃ member ∈ members, member.conditionId = latch.id ∧ latch.episodeId = some member.episodeId) →
      StateStore.settledLatch members (some state) latch = { latch with alertDeliveryState := state } :=
    fun members latch h => if_pos h
  have hkept : ∀ (members : List NotificationCondition) (latch : ConditionState),
      (¬∃ member ∈ members, member.conditionId = latch.id ∧ latch.episodeId = some member.episodeId) →
      StateStore.settledLatch members (some state) latch = latch :=
    fun members latch h => if_neg h
  by_cases h : ∃ member ∈ members, member.conditionId = latch.id ∧ latch.episodeId = some member.episodeId
  · obtain ⟨member, hm, hmatch⟩ := h
    rw [hsettled members latch ⟨member, hm, hmatch⟩,
      hsettled (members ++ members') latch ⟨member, List.mem_append_left _ hm, hmatch⟩]
    by_cases h' : ∃ member ∈ members', member.conditionId = latch.id ∧ latch.episodeId = some member.episodeId
    · exact hsettled members' _ h'
    · exact hkept members' _ h'
  · rw [hkept members latch h]
    by_cases h' : ∃ member ∈ members', member.conditionId = latch.id ∧ latch.episodeId = some member.episodeId
    · obtain ⟨member, hm, hmatch⟩ := h'
      rw [hsettled members' latch ⟨member, hm, hmatch⟩,
        hsettled (members ++ members') latch ⟨member, List.mem_append_right _ hm, hmatch⟩]
    · rw [hkept members' latch h', hkept]
      rintro ⟨member, hm, hmatch⟩
      rcases List.mem_append.mp hm with hm | hm
      · exact h ⟨member, hm, hmatch⟩
      · exact h' ⟨member, hm, hmatch⟩

/-- How far the loop is: these messages are recovered, those are left. -/
structure Recovering (recoveredAt : Timestamp) (store : StateStore) (recovered left : List OutboxRow)
    (now : StateStore) : Prop where
  resumable : AllResumable now
  interrupted : recovered ++ left = store.interruptedMessages
  rows : now.notificationOutbox.rows = store.notificationOutbox.rows.map fun row =>
    if row.id ∈ recovered.map (·.id) then StateStore.recoveredRow recoveredAt row else row
  latches : ∀ conditionId, now.conditionState.find? conditionId = (store.conditionState.find? conditionId).map
    (StateStore.settledLatch (recovered.flatMap (·.members)) (some .unknown))

theorem mem_interruptedMessages {store : StateStore} {row : OutboxRow} :
    row ∈ store.interruptedMessages ↔ row ∈ store.notificationOutbox.rows ∧ row.status = .inFlight := by
  simp only [StateStore.interruptedMessages, mem_orderBy, List.mem_filter, decide_eq_true_eq]

theorem nodup_interruptedMessages (store : StateStore) : (store.interruptedMessages.map (·.id)).Nodup := by
  have hfilter : ((store.notificationOutbox.rows.filter (·.status = .inFlight)).map (·.id)).Nodup :=
    store.notificationOutbox.distinct.sublist (List.filter_sublist.map _)
  exact ((perm_orderBy _ _).map _).nodup_iff.mpr hfilter

theorem recovering_start (recoveredAt : Timestamp) {store : StateStore} (hs : AllResumable store) :
    Recovering recoveredAt store [] store.interruptedMessages store := by
  refine ⟨hs, rfl, ?_, fun conditionId => ?_⟩
  · simp
  · have hnone : StateStore.settledLatch [] (some .unknown) = id := by
      funext latch
      simp [StateStore.settledLatch]
    rw [List.flatMap_nil, hnone, Option.map_id, id]

/-- **One step of the loop** recovers the next message. -/
theorem Recovering.step {recoveredAt : Timestamp} (canonical : Timestamp.yearZero ≤ recoveredAt.nanoseconds)
    {store now : StateStore} {recovered left : List OutboxRow} {row : OutboxRow}
    (h : Recovering recoveredAt store recovered (row :: left) now) :
    ∃ now' activity, StateStore.recoverAttempt recoveredAt row now = .ok (now', activity) ∧
      Recovering recoveredAt store (recovered ++ [row]) left now' := by
  have hinterrupted : row ∈ store.interruptedMessages :=
    h.interrupted ▸ List.mem_append_right _ List.mem_cons_self
  obtain ⟨hmem, hflight⟩ := mem_interruptedMessages.mp hinterrupted
  -- the row is not among those recovered, so it is as it was
  have hnew : row.id ∉ recovered.map (·.id) := by
    have hdistinct := nodup_interruptedMessages store
    rw [← h.interrupted, List.map_append, List.map_cons] at hdistinct
    intro hold
    exact (List.nodup_append.mp hdistinct).2.2 _ hold _ List.mem_cons_self rfl
  have hnow : row ∈ now.notificationOutbox.rows := by
    rw [h.rows]
    exact List.mem_map.mpr ⟨row, hmem, if_neg hnew⟩
  obtain ⟨now', activity, hok, hresumable, hexchange, hlatches⟩ :=
    recoverAttempt_ok canonical h.resumable hnow hflight
  refine ⟨now', activity, hok, hresumable, ?_, ?_, fun conditionId => ?_⟩
  · rw [List.append_assoc, List.singleton_append, h.interrupted]
  · rw [hexchange.rows_eq, h.rows, List.map_map]
    refine List.map_congr_left fun other hother => ?_
    have hmore : other.id ∈ (recovered ++ [row]).map (·.id) ↔ other.id ∈ recovered.map (·.id) ∨ other.id = row.id := by
      rw [List.map_append, List.mem_append, List.map_singleton, List.mem_singleton]
    rw [Function.comp]
    by_cases hold : other.id ∈ recovered.map (·.id)
    · have hne : (StateStore.recoveredRow recoveredAt other).id ≠ row.id := by
        rw [recoveredRow_id]
        intro hid
        exact hnew (hid ▸ hold)
      rw [if_pos hold, if_neg hne, if_pos (hmore.mpr (.inl hold))]
    · rw [if_neg hold]
      by_cases hid : other.id = row.id
      · obtain rfl := store.notificationOutbox.eq_of_key_eq hother hmem hid
        rw [if_pos rfl, if_pos (hmore.mpr (.inr rfl))]
      · rw [if_neg hid, if_neg fun hor => (hmore.mp hor).elim hold hid]
  · rw [hlatches, h.latches, Option.map_map, List.flatMap_append, List.flatMap_singleton]
    refine Option.map_congr fun latch _ => ?_
    exact settledLatch_append _ _ _ latch

/-- Recovery is its loop, from year zero on. -/
theorem recovers_of_each {recoveredAt : Timestamp} (canonical : Timestamp.yearZero ≤ recoveredAt.nanoseconds)
    {store store' : StateStore} {activities : List DeliveryActivity}
    (h : Returns (CrashTxn.each (fun row => CrashTxn.commit (StateStore.recoverAttempt recoveredAt row))
      store.interruptedMessages) store activities store') :
    Returns (StateStore.recoverInterruptedAttempts recoveredAt) store activities store' := by
  have hcanonical : Returns (CrashTxn.read fun _ => canonicalTimestamp recoveredAt) store recoveredAt store :=
    .read (canonicalTimestamp_of_le canonical)
  have hread : Returns (CrashTxn.read fun store => Except.ok (ε := StoreError) store.interruptedMessages) store
      store.interruptedMessages store := .read rfl
  unfold StateStore.recoverInterruptedAttempts
  exact hcanonical.bind (hread.bind h)

/-- **Recovery returns**, with every interrupted message recovered. -/
theorem recovers {recoveredAt : Timestamp} (canonical : Timestamp.yearZero ≤ recoveredAt.nanoseconds)
    {store : StateStore} (hs : AllResumable store) :
    ∃ activities store', Returns (StateStore.recoverInterruptedAttempts recoveredAt) store activities store' ∧
      Recovering recoveredAt store store.interruptedMessages [] store' := by
  let L : List OutboxRow → StateStore → Prop := fun left now => ∃ recovered, Recovering recoveredAt store recovered left now
  have hstep : ∀ row left now, L (row :: left) now → ∃ activity now',
      Returns (CrashTxn.commit (StateStore.recoverAttempt recoveredAt row)) now activity now' ∧ L left now' := by
    rintro row left now ⟨recovered, hnow⟩
    obtain ⟨now', activity, hok, hnow'⟩ := hnow.step canonical
    exact ⟨activity, now', .commit hok, _, hnow'⟩
  obtain ⟨activities, store', hreturns, recovered, hend⟩ :=
    Returns.each hstep store.interruptedMessages store ⟨[], recovering_start recoveredAt hs⟩
  have hall : recovered = store.interruptedMessages := by rw [← hend.interrupted, List.append_nil]
  exact ⟨activities, store', recovers_of_each canonical hreturns, hall ▸ hend⟩

/-- When nothing is in flight recovery changes nothing. -/
theorem recovers_nil {recoveredAt : Timestamp} (canonical : Timestamp.yearZero ≤ recoveredAt.nanoseconds)
    {store : StateStore} (hquiet : NoneInFlight store) :
    Returns (StateStore.recoverInterruptedAttempts recoveredAt) store [] store := by
  have hnone : store.interruptedMessages = [] := by
    rw [List.eq_nil_iff_forall_not_mem]
    intro row hrow
    obtain ⟨hmem, hflight⟩ := mem_interruptedMessages.mp hrow
    exact hquiet row hmem hflight
  refine recovers_of_each canonical ?_
  rw [hnone]
  exact Returns.pure [] store

/-! ### Any state a check may leave -/

/-- **Recovery never wedges.** Wherever checks died, every message in flight
has its unfinished attempt, by a stored run, and recovery from year zero on
succeeds: the messages that were in flight are unknown, with the latches in
their episodes, every other message is as it was, and recovering again finds
nothing. -/
theorem recovery_succeeds {store : StateStore} (h : CheckReachable store) {recoveredAt : Timestamp}
    (canonical : Timestamp.yearZero ≤ recoveredAt.nanoseconds) :
    (∀ row ∈ store.notificationOutbox.rows, row.status = .inFlight → ∃ attempt run,
      row.attemptId = some attempt.id ∧ row.attempts.find? attempt.id = some attempt ∧
      row.attempts.rows.countP (isUnfinished attempt.id) = 1 ∧
      store.runs.find? attempt.executingRunId = some run) ∧
    ∃ activities store', Returns (StateStore.recoverInterruptedAttempts recoveredAt) store activities store' ∧
      NoneInFlight store' ∧
      store'.notificationOutbox.rows = store.notificationOutbox.rows.map (fun row =>
        if row.status = .inFlight then StateStore.recoveredRow recoveredAt row else row) ∧
      (∀ row ∈ store.notificationOutbox.rows, row.status = .inFlight →
        (StateStore.recoveredRow recoveredAt row).status = .unknown) ∧
      (∀ conditionId, store'.conditionState.find? conditionId = (store.conditionState.find? conditionId).map
        (StateStore.settledLatch (store.interruptedMessages.flatMap (·.members)) (some .unknown))) ∧
      ∀ again : Timestamp, Timestamp.yearZero ≤ again.nanoseconds →
        Returns (StateStore.recoverInterruptedAttempts again) store' [] store' := by
  have hs : AllResumable store := h.kept kept_resumable allResumable_empty
  have hunknown : ∀ row ∈ store.notificationOutbox.rows, row.status = .inFlight →
      (StateStore.recoveredRow recoveredAt row).status = .unknown :=
    fun row hrow hflight => recoveredRow_status recoveredAt (hs.resumable row hrow) hflight
  obtain ⟨activities, store', hreturns, hend⟩ := recovers canonical hs
  have hrows : store'.notificationOutbox.rows = store.notificationOutbox.rows.map fun row =>
      if row.status = .inFlight then StateStore.recoveredRow recoveredAt row else row := by
    rw [hend.rows]
    refine List.map_congr_left fun row hrow => ?_
    have hmem : row.id ∈ store.interruptedMessages.map (·.id) ↔ row.status = .inFlight := by
      constructor
      · intro hid
        obtain ⟨other, hother, hid⟩ := List.mem_map.mp hid
        obtain ⟨hother, hflight⟩ := mem_interruptedMessages.mp hother
        obtain rfl := store.notificationOutbox.eq_of_key_eq hother hrow hid
        exact hflight
      · intro hflight
        exact List.mem_map.mpr ⟨row, mem_interruptedMessages.mpr ⟨hrow, hflight⟩, rfl⟩
    by_cases hflight : row.status = .inFlight
    · rw [if_pos hflight, if_pos (hmem.mpr hflight)]
    · rw [if_neg hflight, if_neg fun hid => hflight (hmem.mp hid)]
  have hquiet : NoneInFlight store' := by
    intro row' hrow' hflight'
    rw [hrows, List.mem_map] at hrow'
    obtain ⟨row, hrow, rfl⟩ := hrow'
    by_cases hflight : row.status = .inFlight
    · rw [if_pos hflight, hunknown row hrow hflight] at hflight'
      cases hflight'
    · rw [if_neg hflight] at hflight'
      exact hflight hflight'
  refine ⟨fun row hrow hflight => ?_, activities, store', hreturns, hquiet, hrows, hunknown, hend.latches,
    fun again hagain => recovers_nil hagain hquiet⟩
  obtain ⟨attempt, executed, hid, hattempt, hcount, hexecuted⟩ := hs.resumable row hrow hflight
  obtain ⟨run, hrun⟩ := find?_of_mem_completions hexecuted
  exact ⟨attempt, run, hid, hattempt, hcount, hrun⟩

/-- A first check dies with its alert in flight; the next recovery leaves the
alert unknown. -/
theorem recovery_succeeds_first : ∃ store activities store', CheckReachable store ∧
    (∃ row ∈ store.notificationOutbox.rows, row.status = .inFlight) ∧
    Returns (StateStore.recoverInterruptedAttempts (second 2)) store activities store' ∧
    (∃ row ∈ store'.notificationOutbox.rows, row.status = .unknown) ∧ NoneInFlight store' := by
  have hany : (checkWithSink (apiCheck "first" .active 1) .empty).1.any (fun store =>
      store.notificationOutbox.rows.any (·.status = .inFlight)) := by decide +kernel
  obtain ⟨store, hleft, hflight⟩ := List.any_eq_true.mp hany
  obtain ⟨row, hrow, hflight⟩ := List.any_eq_true.mp hflight
  have hflight : row.status = .inFlight := of_decide_eq_true hflight
  have hreach : CheckReachable store := .check _ .empty (List.mem_cons_of_mem _ hleft)
  obtain ⟨-, activities, store', hreturns, hquiet, hrows, hunknown, -, -⟩ :=
    recovery_succeeds hreach (show Timestamp.yearZero ≤ (second 2).nanoseconds by decide)
  refine ⟨store, activities, store', hreach, ⟨row, hrow, hflight⟩, hreturns, ?_, hquiet⟩
  refine ⟨StateStore.recoveredRow (second 2) row, ?_, hunknown row hrow hflight⟩
  rw [hrows]
  exact List.mem_map.mpr ⟨row, hrow, if_pos hflight⟩

/-- A second before year zero. -/
def beforeYearZero : Timestamp :=
  ⟨-62167219201 * nanosecondsPerSecond, by unfold nanosecondsPerSecond; omega, by unfold nanosecondsPerSecond; omega⟩

/-- Recovery does not take an instant before year zero, even with nothing to
recover. -/
theorem recovery_refuses_before_year_zero : CheckReachable .empty ∧ ∀ activities store',
    ¬Returns (StateStore.recoverInterruptedAttempts beforeYearZero) .empty activities store' := by
  refine ⟨.empty, fun activities store' h => ?_⟩
  have herror : (StateStore.recoverInterruptedAttempts beforeYearZero .empty).2 =
      .error (.invalidData "timestamps before year zero are unsupported") := rfl
  rw [Returns, herror] at h
  cases h

end Sentinel
