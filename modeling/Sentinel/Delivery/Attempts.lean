/-
# What an attempt does

A claim and a recorded result exchange one message's row for another with the
same id; a result also moves the latches that are still in the message's
episodes. Neither adds or removes a run.

Key theorems: `beginNotificationAttempt_eq_ok`, `recordNotificationAttempt_eq_ok`.
-/
import Sentinel.Delivery.Ledger
import Sentinel.Store.Attempt

namespace Sentinel

open Collections

/-- One row of the outbox is exchanged. -/
def Exchanges (store store' : StateStore) (row row' : OutboxRow) : Prop :=
  ∃ before after, store.notificationOutbox.rows = before ++ row :: after ∧
    store'.notificationOutbox.rows = before ++ row' :: after

theorem Exchanges.mem {store store' : StateStore} {row row' : OutboxRow} (h : Exchanges store store' row row') :
    row ∈ store.notificationOutbox.rows ∧ row' ∈ store'.notificationOutbox.rows := by
  obtain ⟨before, after, hs, hs'⟩ := h
  rw [hs, hs']
  exact ⟨by simp, by simp⟩

/-- Every other row is as it was. -/
theorem Exchanges.mem_iff {store store' : StateStore} {row row' : OutboxRow} (h : Exchanges store store' row row')
    {other : OutboxRow} (hm : other ∈ store'.notificationOutbox.rows) :
    other = row' ∨ other ∈ store.notificationOutbox.rows ∧ other.id ≠ row.id := by
  obtain ⟨before, after, hs, hs'⟩ := h
  have hne := Table.key_ne_of_split hs
  rw [hs', List.mem_append, List.mem_cons] at hm
  rw [hs]
  rcases hm with hb | rfl | ha
  · exact .inr ⟨by simp [hb], hne other (List.mem_append_left _ hb)⟩
  · exact .inl rfl
  · exact .inr ⟨by simp [ha], hne other (List.mem_append_right _ ha)⟩

theorem Exchanges.ledger {store store' : StateStore} {row row' : OutboxRow} (h : Exchanges store store' row row') :
    ∃ rest, store.ledger = rest + row.live ∧ store'.ledger = rest + row'.live := by
  obtain ⟨before, after, hs, hs'⟩ := h
  refine ⟨liveEntries before + liveEntries after, ?_, ?_⟩
  · rw [StateStore.ledger, hs, liveEntries_append, liveEntries_cons]
    abel
  · rw [StateStore.ledger, hs', liveEntries_append, liveEntries_cons]
    abel

theorem exchanges_update (f : OutboxRow → OutboxRow) (hf : ∀ row, (f row).id = row.id) {store : StateStore}
    {row : OutboxRow} {id : String} (h : store.notificationOutbox.find? id = some row) :
    Exchanges store (store.updateMessage id f hf) row (f row) := by
  obtain ⟨hm, hid⟩ := Table.find?_eq_some_iff.mp h
  obtain ⟨before, after, hs⟩ := List.append_of_mem hm
  refine ⟨before, after, hs, ?_⟩
  show (store.notificationOutbox.update id f hf).rows = before ++ f row :: after
  exact Table.rows_update_of_split hs hid

/-- The runs, by id, with the instants they completed. -/
def StateStore.completions (store : StateStore) : List (String × Timestamp) :=
  store.runs.rows.map fun run => (run.id, run.completedAt)

/-- The runs are the same runs, completed at the same instants. -/
def SameRuns (store store' : StateStore) : Prop :=
  store'.runs.rows.map (fun run => (run.id, run.completedAt)) =
    store.runs.rows.map fun run => (run.id, run.completedAt)

theorem SameRuns.trans {store store' store'' : StateStore} (h : SameRuns store store')
    (h' : SameRuns store' store'') : SameRuns store store'' :=
  Eq.trans h' h

/-! ### What delivery changes of a stored run -/

def ConditionEvaluation.withoutDelivery (evaluation : ConditionEvaluation) : ConditionEvaluation :=
  { evaluation with notificationState := .never }

def EvaluationRow.withoutDelivery (row : EvaluationRow) : EvaluationRow :=
  { row with evidence := row.evidence.withoutDelivery }

theorem EvaluationRow.withoutDelivery_id (row : EvaluationRow) : row.withoutDelivery.conditionId = row.conditionId :=
  rfl

/-- A stored run without what delivery may change: its exit code, its activity
and the delivery states of its evaluations. -/
def RunRow.withoutDelivery (run : RunRow) : RunRow :=
  { run with
    exitCode := 0
    deliveryActivity := []
    evaluations := run.evaluations.modify EvaluationRow.withoutDelivery EvaluationRow.withoutDelivery_id }

/-- Delivery has changed nothing else of the run. -/
def RunRow.Delivered (run run' : RunRow) : Prop :=
  run'.withoutDelivery = run.withoutDelivery ∧ (run'.exitCode = run.exitCode ∨ run'.exitCode = 4)

theorem RunRow.Delivered.refl (run : RunRow) : run.Delivered run := ⟨rfl, .inl rfl⟩

theorem RunRow.Delivered.trans {run run' run'' : RunRow} (h : run.Delivered run') (h' : run'.Delivered run'') :
    run.Delivered run'' := by
  refine ⟨h'.1.trans h.1, ?_⟩
  rcases h'.2 with hsame | hfour
  · rw [hsame]
    exact h.2
  · exact .inr hfour

/-- Delivery leaves what was observed, and when. -/
theorem RunRow.Delivered.observed {run run' : RunRow} (h : run.Delivered run') :
    run'.id = run.id ∧ run'.completedAt = run.completedAt ∧ run'.targets = run.targets := by
  have hsame := congrArg (fun run : RunRow => (run.id, run.completedAt, run.targets)) h.1
  obtain ⟨hid, hrest⟩ := Prod.mk.inj hsame
  exact ⟨hid, Prod.mk.inj hrest⟩

/-- Delivery has changed nothing else of any run. -/
def SameHistory (store store' : StateStore) : Prop := List.Forall₂ RunRow.Delivered store.runs.rows store'.runs.rows

theorem SameHistory.refl (store : StateStore) : SameHistory store store :=
  List.forall₂_same.mpr fun run _ => .refl run

theorem SameHistory.trans {store store' store'' : StateStore} (h : SameHistory store store')
    (h' : SameHistory store' store'') : SameHistory store store'' :=
  Fallible.forall₂_trans .trans h h'

theorem SameHistory.sameRuns {store store' : StateStore} (h : SameHistory store store') : SameRuns store store' := by
  refine (Fallible.map_eq_map_of_forall₂ (h.imp fun run run' hrun => ?_)).symm
  obtain ⟨hid, hcompleted, -⟩ := hrun.observed
  rw [hid, hcompleted]

namespace StateStore

variable {store store' : StateStore}

theorem sameHistory_updateRun {runId : String} {f : RunRow → RunRow} {hf : ∀ run, (f run).id = run.id}
    (hc : ∀ run ∈ store.runs.rows, run.id = runId → run.Delivered (f run)) :
    SameHistory store (store.updateRun runId f hf) := by
  unfold SameHistory updateRun Table.update
  rw [Table.rows_modify, List.forall₂_map_right_iff, List.forall₂_same]
  intro run hrun
  split
  case isTrue hid => exact hc run hrun hid
  case isFalse => exact .refl run

theorem recordDeliveryActivity_eq_ok {runId : String} {activity : DeliveryActivity}
    (h : store.recordDeliveryActivity runId activity = .ok store') :
    (∃ runs, store' = { store with runs }) ∧ SameHistory store store' := by
  simp only [recordDeliveryActivity, Fallible.bind_eq_ok_iff] at h
  obtain ⟨run, -, h⟩ := h
  obtain rfl := Except.ok.inj h
  exact ⟨⟨_, rfl⟩, sameHistory_updateRun fun _ _ _ => ⟨rfl, .inl rfl⟩⟩

/-! ### Claiming -/

/-- The row of a claimed message. -/
def claimedRow (row : OutboxRow) (attempts : Table AttemptRow.id) (uuid : String) : OutboxRow :=
  { row with attempts, status := .inFlight, attemptId := some uuid }

/-- **What a claim does.** -/
theorem beginNotificationAttempt_eq_ok {uuid messageId executingRunId : String} {startedAt : Timestamp}
    {attempt : NotificationAttempt}
    (h : store.beginNotificationAttempt uuid messageId startedAt executingRunId = .ok (store', attempt)) :
    ∃ row attempts runs outbox, store.notificationOutbox.find? messageId = some row ∧
      row.status ∈ [.pending, .retryable] ∧
      attempts.rows = row.attempts.rows ++ [attemptRow uuid executingRunId startedAt] ∧
      Exchanges store store' row (claimedRow row attempts uuid) ∧ SameHistory store store' ∧
      store' = { store with notificationOutbox := outbox, runs } := by
  simp only [beginNotificationAttempt, Fallible.bind_eq_ok_iff, constraint_eq_ok_iff] at h
  obtain ⟨startedAt', hstarted, stored, -, row, hrow, _, hadmit, store₁, hinsert, store₂, hactivity, h⟩ := h
  obtain rfl := canonicalTimestamp_eq_ok hstarted
  obtain ⟨rfl, -⟩ := Prod.mk.inj (Except.ok.inj h)
  simp only [insertAttempt, Fallible.bind_eq_ok_iff, constraint_eq_ok_iff, hrow, Option.some.injEq] at hinsert
  obtain ⟨_, -, _, rfl, attempts, hattempts, hinsert⟩ := hinsert
  obtain rfl := Except.ok.inj hinsert
  have hstatus : row.status ∈ [.pending, .retryable] := by
    simp only [admitAttempt, Fallible.bind_eq_ok_iff, Fallible.ensure_eq_ok_iff, decide_eq_true_eq] at hadmit
    obtain ⟨_, -, _, -, _, -, _, heligible, -⟩ := hadmit
    exact heligible.1
  obtain ⟨⟨runs, rfl⟩, hruns⟩ := recordDeliveryActivity_eq_ok hactivity
  refine ⟨row, attempts, runs, _, hrow, hstatus, (Table.insert?_eq_some_iff.mp hattempts).2, ?_, hruns, rfl⟩
  simp only [updateMessage, Table.update_update]
  exact exchanges_update (fun row => claimedRow row attempts uuid) (fun _ => rfl) hrow

/-! ### Recording -/

/-- The row of a message with a recorded result. -/
def recordedRow (row : OutboxRow) (attemptId : String) (completedAt : Timestamp)
    (outcome : NotificationAttemptOutcome) (nextRetryAt : Option Timestamp) : OutboxRow :=
  { row with
    attempts := row.attempts.modify (completeAttempt attemptId completedAt outcome) (completeAttempt_id _ _ _)
    status := outcome.status
    deliveredAt := if outcome.status = .delivered then some completedAt else none
    remoteRequestId := outcome.remoteRequestId
    errorClass := outcome.errorClass
    nextRetryAt }

/-- A latch after a result for these members. -/
def settledLatch (members : List NotificationCondition) (result : Option AlertDeliveryState)
    (latch : ConditionState) : ConditionState :=
  match result with
  | some state =>
    if ∃ member ∈ members, member.conditionId = latch.id ∧ latch.episodeId = some member.episodeId then
      { latch with alertDeliveryState := state }
    else latch
  | none => latch

theorem refreshEvaluation_eq (store : StateStore) (runId conditionId episode : String)
    (state : AlertDeliveryState) :
    (∃ runs, store.refreshEvaluation runId conditionId episode state = { store with runs }) ∧
      SameHistory store (store.refreshEvaluation runId conditionId episode state) := by
  unfold refreshEvaluation
  split
  case h_1 => exact ⟨⟨_, rfl⟩, .refl _⟩
  case h_2 row hfound =>
    split
    case isTrue =>
      refine ⟨⟨_, rfl⟩, sameHistory_updateRun fun run hrun hid => ?_⟩
      -- the evaluation found is the one that is updated
      have hstored : store.runs.find? runId = some run := Table.find?_eq_some_iff.mpr ⟨hrun, hid⟩
      rw [hstored, Option.bind_some] at hfound
      have hrow := Table.find?_eq_some_iff.mp hfound
      have hsame : ∀ other ∈ run.evaluations.rows, other.conditionId = conditionId →
          EvaluationRow.withoutDelivery { other with evidence := { row.evidence with notificationState := state } } =
            other.withoutDelivery := by
        intro other hother hid
        obtain rfl := run.evaluations.eq_of_key_eq hother hrow.1 (hid.trans hrow.2.symm)
        rfl
      have htable : (run.evaluations.update conditionId
          (fun other => { other with evidence := { row.evidence with notificationState := state } }) fun _ => rfl).modify
            EvaluationRow.withoutDelivery EvaluationRow.withoutDelivery_id =
          run.evaluations.modify EvaluationRow.withoutDelivery EvaluationRow.withoutDelivery_id :=
        Table.ext (Table.map_rows_update hsame)
      exact ⟨congrArg (fun evaluations => { run with exitCode := 0, deliveryActivity := [], evaluations }) htable, .inl rfl⟩
    case isFalse => exact ⟨⟨_, rfl⟩, .refl _⟩

/-- **What a result does to the latches**: those still in an episode of the
message take the result. -/
theorem settleMembers_eq (runId : String) (state : AlertDeliveryState) :
    ∀ (members : List NotificationCondition) (store : StateStore),
    ∃ runs states, store.settleMembers runId members state = { store with runs, conditionState := states } ∧
      SameHistory store (store.settleMembers runId members state) ∧
      ∀ conditionId, states.find? conditionId =
        (store.conditionState.find? conditionId).map (settledLatch members (some state))
  | [], store => by
    refine ⟨store.runs, store.conditionState, rfl, .refl _, fun conditionId => ?_⟩
    have : settledLatch [] (some state) = id := by
      funext latch
      simp [settledLatch]
    rw [this, Option.map_id, id]
  | member :: members, store => by
    obtain ⟨⟨runs₁, h₁⟩, hr₁⟩ := refreshEvaluation_eq
      (store.setDeliveryState member.conditionId member.episodeId state) runId member.conditionId
      member.episodeId state
    have hstep : settleMembers runId (member :: members) state store = settleMembers runId members state
        ((store.setDeliveryState member.conditionId member.episodeId state).refreshEvaluation runId
          member.conditionId member.episodeId state) := rfl
    obtain ⟨runs, states, h, hr, hstates⟩ := settleMembers_eq runId state members
      ((store.setDeliveryState member.conditionId member.episodeId state).refreshEvaluation runId
        member.conditionId member.episodeId state)
    refine ⟨runs, states, ?_, ?_, fun conditionId => ?_⟩
    · rw [hstep, h, h₁]
      rfl
    · rw [hstep]
      exact SameHistory.trans hr₁ hr
    · rw [hstates, h₁]
      simp only [setDeliveryState, Table.find?_update, Option.map_map]
      refine Option.map_congr fun latch hlatch => ?_
      obtain rfl := (Table.find?_eq_some_iff.mp hlatch).2
      rw [Function.comp]
      by_cases hm : member.conditionId = latch.id ∧ latch.episodeId = some member.episodeId
      · simp only [hm.1, hm.2, if_true, settledLatch, List.mem_cons, exists_eq_or_imp, true_and, true_or]
        split <;> rfl
      · have hkeep : (if latch.id = member.conditionId then
            (if latch.episodeId = some member.episodeId then { latch with alertDeliveryState := state } else latch)
            else latch) = latch := by
          by_cases hc : member.conditionId = latch.id
          · rw [if_pos hc.symm, if_neg fun he => hm ⟨hc, he⟩]
          · rw [if_neg fun he => hc he.symm]
        rw [hkeep]
        simp only [settledLatch, List.mem_cons, exists_eq_or_imp, hm, false_or]

theorem settleResult_eq (runId : String) (members : List NotificationCondition)
    (result : Option AlertDeliveryState) (store : StateStore) :
    ∃ runs states, (match result with
        | some state => store.settleMembers runId members state
        | none => store) = { store with runs, conditionState := states } ∧
      SameHistory store (match result with
        | some state => store.settleMembers runId members state
        | none => store) ∧
      ∀ conditionId, states.find? conditionId =
        (store.conditionState.find? conditionId).map (settledLatch members result) := by
  cases result with
  | some state => exact settleMembers_eq runId state members store
  | none =>
    refine ⟨store.runs, store.conditionState, rfl, .refl _, fun conditionId => ?_⟩
    have : settledLatch members none = id := rfl
    rw [this, Option.map_id, id]

/-- **What a recorded result does.** -/
theorem recordNotificationAttempt_eq_ok {attempt : NotificationAttempt} {completedAt : Timestamp}
    {outcome : NotificationAttemptOutcome} {report : NotificationReport}
    (h : store.recordNotificationAttempt attempt completedAt outcome = .ok (store', report)) :
    ∃ row next outbox runs states, store.notificationOutbox.find? attempt.message.id = some row ∧
      row.status = .inFlight ∧ row.attemptId = some attempt.id ∧
      row.attempts.rows.countP (isUnfinished attempt.id) = 1 ∧
      nextRetryAt outcome.status completedAt = .ok next ∧
      Exchanges store store' row (recordedRow row attempt.id completedAt outcome next) ∧
      SameHistory store store' ∧
      (∀ conditionId, states.find? conditionId = (store.conditionState.find? conditionId).map
        (settledLatch row.members (deliveredState outcome.status row.transition))) ∧
      store' = { store with notificationOutbox := outbox, runs, conditionState := states } := by
  simp only [recordNotificationAttempt, Fallible.bind_eq_ok_iff, constraint_eq_ok_iff,
    Fallible.ensure_eq_ok_iff, decide_eq_true_eq] at h
  obtain ⟨completed, hcompleted, _, -, message, hmessage, row, hrow, _, ⟨hstatus, hid⟩, _, hcount, next, hnext,
    recorded, hactivity, h⟩ := h
  obtain rfl := canonicalTimestamp_eq_ok hcompleted
  simp only [loadOutboxMessage, Fallible.bind_eq_ok_iff, constraint_eq_ok_iff, OutboxRow.toMessage] at hmessage
  obtain ⟨row', hrow', priority, -, hmessage⟩ := hmessage
  obtain rfl := Except.ok.inj hmessage
  have hrowid : row'.id = attempt.message.id := (Table.find?_eq_some_iff.mp hrow').2
  dsimp only at hrow hstatus hactivity
  rw [hrowid, hrow'] at hrow
  obtain rfl := Option.some.inj hrow
  obtain ⟨rfl, -⟩ := Prod.mk.inj (Except.ok.inj h)
  -- the message's row, then the latches, then the executing run
  obtain ⟨runs₁, states, hsettled, hr₁, hstates⟩ := settleResult_eq row'.runId row'.members
    (deliveredState outcome.status row'.transition)
    (store.updateMessage row'.id (fun row => recordedRow row attempt.id completed outcome next) fun _ => rfl)
  have hfind : store.notificationOutbox.find? row'.id = some row' := hrowid ▸ hrow'
  have hexchange :=
    exchanges_update (fun row => recordedRow row attempt.id completed outcome next) (fun _ => rfl) hfind
  obtain ⟨⟨runs₂, h₂⟩, hr₂⟩ := recordDeliveryActivity_eq_ok hactivity
  have hrecorded : recorded = { store.updateMessage row'.id
      (fun row => recordedRow row attempt.id completed outcome next) fun _ => rfl with
        runs := runs₂, conditionState := states } :=
    h₂.trans (congrArg (fun s => { s with runs := runs₂ }) hsettled)
  have hruns : SameHistory store recorded := SameHistory.trans hr₁ hr₂
  refine ⟨row', next, (store.updateMessage row'.id
    (fun row => recordedRow row attempt.id completed outcome next) fun _ => rfl).notificationOutbox, ?_⟩
  by_cases hd : outcome.status = .delivered
  · rw [if_neg (not_not.mpr hd)]
    refine ⟨runs₂, states, hrow', hstatus, hid, hcount, hnext, ?_, hruns, hstates, hrecorded⟩
    rw [hrecorded]
    exact hexchange
  · rw [if_pos hd]
    refine ⟨(recorded.updateRun attempt.executingRunId (fun run => { run with exitCode := 4 }) fun _ => rfl).runs,
      states, hrow', hstatus, hid, hcount, hnext, ?_, ?_, hstates, ?_⟩
    · rw [hrecorded]
      exact hexchange
    · exact hruns.trans (sameHistory_updateRun fun _ _ _ => ⟨rfl, .inr rfl⟩)
    · rw [hrecorded]
      rfl

end StateStore

end Sentinel
