/-
# The account of a run

A run's row holds its exit code and what it did for deliveries. A claim adds an
entry to the account of the run that executes it; the result replaces the
entry and, unless the message was delivered, the exit code; nothing else of a
check touches an account. An attempt has an id of its own among all messages
that are kept, and recovery keeps the messages it quarantines, so no entry
takes another's place.

Key theorems: `account_of_claim`, `account_of_record`, `recovered_quarantined`, `returns_deliverPending`.
-/
import Sentinel.Delivery.Survivors

namespace Sentinel

open Collections CrashTxn

namespace StateStore

/-- The exit code of a run, and its delivery activity. -/
def accountOf (runId : String) (store : StateStore) : Option (ℤ × List DeliveryActivity) :=
  (store.runs.find? runId).map fun run => (run.exitCode, run.deliveryActivity)

/-- The ids of the attempts on all messages. -/
def attemptIds (store : StateStore) : List String :=
  store.notificationOutbox.rows.flatMap fun row => row.attempts.rows.map (·.id)

variable {store store' : StateStore} {runId : String}

/-! ### What touches an account -/

/-- An update that leaves the exit code and the activity. -/
theorem accountOf_updateRun {other : String} {f : RunRow → RunRow} {hf : ∀ run, (f run).id = run.id}
    (h : ∀ run, ((f run).exitCode, (f run).deliveryActivity) = (run.exitCode, run.deliveryActivity)) :
    (store.updateRun other f hf).accountOf runId = store.accountOf runId := by
  rw [accountOf, updateRun, Table.find?_update, Option.map_map]
  refine Option.map_congr fun run _ => ?_
  rw [Function.comp]
  split
  case isTrue => exact h run
  case isFalse => rfl

theorem accountOf_refreshEvaluation (other conditionId episode : String) (state : AlertDeliveryState) :
    (store.refreshEvaluation other conditionId episode state).accountOf runId = store.accountOf runId := by
  unfold refreshEvaluation
  split
  case h_1 => rfl
  case h_2 =>
    split
    case isTrue => exact accountOf_updateRun fun _ => rfl
    case isFalse => rfl

theorem accountOf_settleMembers (other : String) (state : AlertDeliveryState) :
    ∀ (members : List NotificationCondition) (store : StateStore),
      (store.settleMembers other members state).accountOf runId = store.accountOf runId
  | [], _ => rfl
  | member :: members, store => by
    rw [settleMembers, List.foldl_cons]
    refine (accountOf_settleMembers other state members _).trans ?_
    exact accountOf_refreshEvaluation ..

/-- **Refreshing a run leaves every account.** -/
theorem accountOf_refreshRunDelivery {other : String} (h : store.refreshRunDelivery other = .ok store') :
    store'.accountOf runId = store.accountOf runId := by
  obtain rfl := Except.ok.inj h
  refine List.foldlRecOn (motive := fun s : StateStore => s.accountOf runId = store.accountOf runId) _ _ rfl ?_
  rintro s hs ⟨conditionId, episode, state⟩ -
  exact (accountOf_refreshEvaluation ..).trans hs

/-- **An activity is recorded** in the account of its run. -/
theorem accountOf_recordDeliveryActivity {activity : DeliveryActivity}
    (h : store.recordDeliveryActivity runId activity = .ok store') : ∃ code activities,
      store.accountOf runId = some (code, activities) ∧
      store'.accountOf runId = some (code, replaceActivity activity activities) := by
  simp only [recordDeliveryActivity, Fallible.bind_eq_ok_iff, constraint_eq_ok_iff] at h
  obtain ⟨run, hrun, h⟩ := h
  obtain rfl := Except.ok.inj h
  refine ⟨run.exitCode, run.deliveryActivity, by rw [accountOf, hrun]; rfl, ?_⟩
  rw [accountOf, updateRun, Table.find?_update, hrun, Option.map_some, if_pos rfl]
  rfl

end StateStore

/-- An activity of another attempt is added. -/
theorem replaceActivity_of_not_mem {activity : DeliveryActivity} : ∀ {activities : List DeliveryActivity},
    activity.attemptId ∉ activities.map (·.attemptId) → replaceActivity activity activities = activities ++ [activity]
  | [], _ => rfl
  | existing :: activities, h => by
    rw [List.map_cons, List.mem_cons, not_or] at h
    rw [replaceActivity, if_neg (Ne.symm h.1), replaceActivity_of_not_mem h.2, List.cons_append]

/-- The last activity is replaced by one of the same attempt. -/
theorem replaceActivity_concat {activity last : DeliveryActivity} (hlast : last.attemptId = activity.attemptId) :
    ∀ {activities : List DeliveryActivity}, activity.attemptId ∉ activities.map (·.attemptId) →
      replaceActivity activity (activities ++ [last]) = activities ++ [activity]
  | [], _ => if_pos hlast
  | existing :: activities, h => by
    rw [List.map_cons, List.mem_cons, not_or] at h
    rw [List.cons_append, replaceActivity, if_neg (Ne.symm h.1), replaceActivity_concat hlast h.2, List.cons_append]

/-! ### What an attempt does to the account -/

/-- An exchanged message adds the attempts that are new to it. -/
theorem Exchanges.attemptIds {store store' : StateStore} {row row' : OutboxRow} {added : List String}
    (h : Exchanges store store' row row')
    (hadded : row'.attempts.rows.map (·.id) = row.attempts.rows.map (·.id) ++ added) :
    store'.attemptIds.Perm (store.attemptIds ++ added) := by
  obtain ⟨before, after, hs, hs'⟩ := h
  simp only [StateStore.attemptIds, hs, hs', List.flatMap_append, List.flatMap_cons, hadded, List.append_assoc]
  refine .append_left _ (.append_left _ ?_)
  exact List.perm_append_comm

/-- The ids of a message's attempts stay when one of them is completed. -/
theorem attempts_recordedRow (row : OutboxRow) (attemptId : String) (completedAt : Timestamp)
    (outcome : NotificationAttemptOutcome) (next : Option Timestamp) :
    (StateStore.recordedRow row attemptId completedAt outcome next).attempts.rows.map (·.id) =
      row.attempts.rows.map (·.id) := by
  show (row.attempts.rows.map _).map _ = _
  rw [List.map_map]
  exact List.map_congr_left fun attempt _ => StateStore.completeAttempt_id ..

section Attempt

variable {store store' : StateStore}

theorem id_of_loadOutboxMessage {id : String} {message : OutboxMessage} (h : store.loadOutboxMessage id = .ok message) :
    message.id = id := by
  simp only [StateStore.loadOutboxMessage, OutboxRow.toMessage, Fallible.bind_eq_ok_iff, constraint_eq_ok_iff] at h
  obtain ⟨row, hrow, _, -, h⟩ := h
  obtain rfl := Except.ok.inj h
  exact (Table.find?_eq_some_iff.mp hrow).2

/-- **A claim** draws an id no attempt has, and adds an entry for it. -/
theorem account_of_claim {uuid messageId runId : String} {startedAt : Timestamp} {attempt : NotificationAttempt}
    (h : store.beginNotificationAttempt uuid messageId startedAt runId = .ok (store', attempt)) :
    (attempt.id = uuid ∧ attempt.message.id = messageId ∧ attempt.executingRunId = runId) ∧
      uuid ∉ store.attemptIds ∧ store'.attemptIds.Perm (store.attemptIds ++ [uuid]) ∧
      ∃ code activities entry, entry.attemptId = uuid ∧ store.accountOf runId = some (code, activities) ∧
        store'.accountOf runId = some (code, replaceActivity entry activities) := by
  obtain ⟨row, attempts, _, _, -, -, hattempts, hexchange, -, -⟩ := StateStore.beginNotificationAttempt_eq_ok h
  simp only [StateStore.beginNotificationAttempt, Fallible.bind_eq_ok_iff] at h
  obtain ⟨_, -, stored, hstored, _, -, _, -, inserted, hinsert, recorded, hactivity, h⟩ := h
  obtain ⟨rfl, rfl⟩ := Prod.mk.inj (Except.ok.inj h)
  simp only [StateStore.insertAttempt, Fallible.bind_eq_ok_iff] at hinsert
  obtain ⟨_, hnew, _, -, _, -, hinsert⟩ := hinsert
  obtain rfl := Except.ok.inj hinsert
  have hfresh : uuid ∉ store.attemptIds := by
    rw [columnCheck_eq_ok_iff, List.all_eq_true] at hnew
    rw [StateStore.attemptIds, List.mem_flatMap]
    rintro ⟨other, hother, hmem⟩
    obtain ⟨old, hold, hsame⟩ := List.mem_map.mp hmem
    exact of_decide_eq_true (List.all_eq_true.mp (hnew other hother) old hold) hsame
  have hclaimed : attempts.rows.map (·.id) = row.attempts.rows.map (·.id) ++ [uuid] := by
    rw [hattempts, List.map_append]
    rfl
  have hid : stored.id = messageId := id_of_loadOutboxMessage hstored
  obtain ⟨code, activities, hbefore, hafter⟩ := StateStore.accountOf_recordDeliveryActivity hactivity
  exact ⟨⟨rfl, hid, rfl⟩, hfresh, hexchange.attemptIds hclaimed, code, activities, _, rfl, hbefore, hafter⟩

/-- **A result** replaces the entry of its attempt, and the code unless the
message was delivered. -/
theorem account_of_record {attempt : NotificationAttempt} {completedAt : Timestamp} {outcome : NotificationAttemptOutcome}
    {report : NotificationReport}
    (h : store.recordNotificationAttempt attempt completedAt outcome = .ok (store', report)) :
    store'.attemptIds.Perm store.attemptIds ∧
      (report.id = attempt.message.id ∧ report.status = outcome.status ∧
        report.remoteRequestId = outcome.remoteRequestId ∧ report.errorClass = outcome.errorClass) ∧
      ∃ code activities origin, store.accountOf attempt.executingRunId = some (code, activities) ∧
        store'.accountOf attempt.executingRunId = some (if outcome.status = .delivered then code else 4,
          replaceActivity ⟨attempt.id, origin, .attempt, report⟩ activities) := by
  obtain ⟨row, next, _, _, _, -, -, -, -, -, hexchange, -, -, -⟩ := StateStore.recordNotificationAttempt_eq_ok h
  have hkept : store'.attemptIds.Perm store.attemptIds := by
    rw [← List.append_nil store.attemptIds]
    refine hexchange.attemptIds ?_
    rw [attempts_recordedRow, List.append_nil]
  refine ⟨hkept, ?_⟩
  simp only [StateStore.recordNotificationAttempt, Fallible.bind_eq_ok_iff] at h
  obtain ⟨_, -, _, -, message, hmessage, row, -, _, -, _, -, next, -, recorded, hactivity, h⟩ := h
  obtain ⟨rfl, rfl⟩ := Prod.mk.inj (Except.ok.inj h)
  refine ⟨⟨id_of_loadOutboxMessage hmessage, rfl, rfl, rfl⟩, ?_⟩
  obtain ⟨code, activities, hbefore, hafter⟩ := StateStore.accountOf_recordDeliveryActivity hactivity
  refine ⟨code, activities, message.runId, ?_, ?_⟩
  · rw [← hbefore]
    cases deliveredState outcome.status message.transition with
    | some state =>
      rw [StateStore.accountOf_settleMembers]
      rfl
    | none => rfl
  · by_cases hdelivered : outcome.status = .delivered
    · rw [if_neg (not_not.mpr hdelivered), if_pos hdelivered]
      exact hafter
    · rw [if_pos hdelivered, if_neg hdelivered]
      rw [StateStore.accountOf, Option.map_eq_some_iff] at hafter
      obtain ⟨run, hrun, hafter⟩ := hafter
      obtain ⟨rfl, hactivities⟩ := Prod.mk.inj hafter
      rw [StateStore.accountOf, StateStore.updateRun, Table.find?_update, hrun, Option.map_some, if_pos rfl, Option.map_some,
        hactivities]
      rfl

end Attempt

/-! ### What recovery leaves -/

/-- The activity of a message that was in flight. -/
structure IsRecovered (row : OutboxRow) (activity : DeliveryActivity) : Prop where
  attemptId : row.attemptId = some activity.attemptId
  action : activity.action = .recovered
  notification : activity.notification.id = row.id
  status : activity.notification.status = .unknown

/-- A message of unknown outcome holds the attempt. -/
def Quarantines (store : StateStore) (attemptId : String) : Prop :=
  ∃ row ∈ store.notificationOutbox.rows, row.status = .unknown ∧ attemptId ∈ row.attempts.rows.map (·.id)

theorem Quarantines.mem_attemptIds {store : StateStore} {attemptId : String} (h : Quarantines store attemptId) :
    attemptId ∈ store.attemptIds := by
  obtain ⟨row, hrow, -, hid⟩ := h
  exact List.mem_flatMap.mpr ⟨row, hrow, hid⟩

section Recovery

variable {store store' : StateStore}

theorem Quarantines.exchanged {attemptId : String} {row row' : OutboxRow} (h : Quarantines store attemptId)
    (hexchange : Exchanges store store' row row') (hknown : row.status ≠ .unknown) : Quarantines store' attemptId := by
  obtain ⟨other, hother, hstatus, hid⟩ := h
  refine ⟨other, ?_, hstatus, hid⟩
  have hne : other ≠ row := fun hsame => hknown (hsame ▸ hstatus)
  obtain ⟨before, after, hs, hs'⟩ := hexchange
  rw [hs, List.mem_append, List.mem_cons] at hother
  rw [hs', List.mem_append, List.mem_cons]
  exact hother.imp_right fun hrest => .inr (hrest.resolve_left hne)

/-- **A recovered message is quarantined**, and the others stay so. -/
theorem recoverAttempt_quarantines {recoveredAt : Timestamp} {row : OutboxRow} {activity : DeliveryActivity}
    (h : StateStore.recoverAttempt recoveredAt row store = .ok (store', activity)) :
    IsRecovered row activity ∧ Quarantines store' activity.attemptId ∧
      ∀ attemptId, Quarantines store attemptId → Quarantines store' attemptId := by
  simp only [StateStore.recoverAttempt, StateStore.interruptedAttempt, Fallible.bind_eq_ok_iff,
    Fallible.demand_eq_ok_iff] at h
  obtain ⟨attempt, ⟨id, hid, started, -, message, hmessage, ha⟩, ⟨settled, report⟩, hrecord, h⟩ := h
  obtain rfl := Except.ok.inj ha
  obtain ⟨rfl, rfl⟩ := Prod.mk.inj (Except.ok.inj h)
  obtain ⟨-, ⟨hreport, hstatus, -⟩, -⟩ := account_of_record hrecord
  obtain ⟨current, next, _, _, _, -, hflight, -, hcount, -, hexchange, -, -, -⟩ :=
    StateStore.recordNotificationAttempt_eq_ok hrecord
  refine ⟨⟨hid, rfl, hreport.trans (id_of_loadOutboxMessage hmessage), hstatus⟩, ?_, fun attemptId hold => ?_⟩
  · refine ⟨_, hexchange.mem.2, rfl, ?_⟩
    rw [attempts_recordedRow]
    obtain ⟨unfinished, hmem, hun⟩ := List.countP_pos_iff.mp (hcount ▸ Nat.one_pos)
    simp only [isUnfinished, Bool.and_eq_true, decide_eq_true_eq] at hun
    exact List.mem_map.mpr ⟨unfinished, hmem, hun.1.1⟩
  · refine hold.exchanged hexchange ?_
    rw [hflight]
    decide

/-- **Recovery returns one activity for each message in flight**, and
quarantines them all. -/
theorem recovered_quarantined {recoveredAt : Timestamp} {recovered : List DeliveryActivity}
    (h : Returns (StateStore.recoverInterruptedAttempts recoveredAt) store recovered store') :
    List.Forall₂ IsRecovered store.interruptedMessages recovered ∧
      ∀ activity ∈ recovered, Quarantines store' activity.attemptId := by
  simp only [StateStore.recoverInterruptedAttempts, Returns.bind_iff, Returns.read_iff] at h
  obtain ⟨recoveredAt, _, ⟨-, rfl⟩, rows, _, ⟨hrows, rfl⟩, h⟩ := h
  obtain rfl := Except.ok.inj hrows
  refine Returns.of_each (I := fun done now => ∀ activity ∈ done, Quarantines now activity.attemptId)
    (fun row done activity now now' hdone hstep => ?_) [] (fun _ hmem => absurd hmem List.not_mem_nil) h
  obtain ⟨hrecovered, hnew, hkept⟩ := recoverAttempt_quarantines (Returns.commit_iff.mp hstep)
  refine ⟨hrecovered, fun other hother => ?_⟩
  rcases List.mem_append.mp hother with hold | hlast
  · exact hkept _ (hdone other hold)
  · rwa [List.mem_singleton.mp hlast]

end Recovery

/-- **A commit keeps what is quarantined.** -/
theorem IsCommitted.quarantines {report : RunReport} {suppress : Bool} {cutoff : Timestamp} {store : StateStore}
    {committed : Committed} {latching : Latching} {persisted : StateStore}
    (h : IsCommitted report suppress cutoff store committed latching persisted) {attemptId : String}
    (hquarantined : Quarantines store attemptId) : Quarantines committed.store attemptId := by
  obtain ⟨row, hrow, hstatus, hid⟩ := hquarantined
  refine ⟨row, ?_, hstatus, hid⟩
  have hlatched : row ∈ latching.store.notificationOutbox.rows := by
    refine (original_of_cancels h.latched.cancels hrow).resolve_right fun hcancelled => ?_
    rw [OutboxRow.Unsent, hstatus] at hcancelled
    exact absurd hcancelled.1 (by decide)
  rw [h.pruned]
  refine pruneRuns_keeps (h.mem_persisted hlatched) ?_
  rw [StateStore.isUnsettled, hstatus]
  decide

/-! ### What delivery does to the account of its run -/

/-- The messages that are sent: up to the first that is not delivered. -/
def attempted (send : OutboxMessage → Sending) : List OutboxMessage → List OutboxMessage
  | [] => []
  | message :: pending =>
    if (send message).outcome.status = .delivered then message :: attempted send pending else [message]

/-- The activity of an attempt, with the result it ended with. -/
structure IsAttempt (send : OutboxMessage → Sending) (message : OutboxMessage) (activity : DeliveryActivity) : Prop where
  attemptId : activity.attemptId = (send message).uuid
  action : activity.action = .attempt
  notification : activity.notification.id = message.id
  status : activity.notification.status = (send message).outcome.status
  remoteRequestId : activity.notification.remoteRequestId = (send message).outcome.remoteRequestId
  errorClass : activity.notification.errorClass = (send message).outcome.errorClass

/-- Every activity of the account is of an attempt on a message that is kept. -/
def Accounted (store : StateStore) (activities : List DeliveryActivity) : Prop :=
  ∀ activity ∈ activities, activity.attemptId ∈ store.attemptIds

/-- The account keeps pace with the attempts. -/
theorem Accounted.adds {store store' : StateStore} {activities : List DeliveryActivity} {activity : DeliveryActivity}
    (h : Accounted store activities) (hadds : store'.attemptIds.Perm (store.attemptIds ++ [activity.attemptId])) :
    Accounted store' (activities ++ [activity]) := by
  intro made hmade
  rw [hadds.mem_iff]
  rcases List.mem_append.mp hmade with hold | hlast
  · exact List.mem_append_left _ (h made hold)
  · rw [List.mem_singleton.mp hlast]
    exact List.mem_concat_self

section Deliver

variable {send : OutboxMessage → Sending} {runId : String}

/-- **One attempt** adds its activity, with its result, to the account of its run. -/
theorem account_of_attempt {store claimed recorded : StateStore} {message : OutboxMessage} {attempt : NotificationAttempt}
    {report : NotificationReport} {code : ℤ} {activities : List DeliveryActivity}
    (hclaim : store.beginNotificationAttempt (send message).uuid message.id (send message).startedAt runId =
      .ok (claimed, attempt))
    (hrecord : claimed.recordNotificationAttempt attempt (send message).completedAt (send message).outcome =
      .ok (recorded, report))
    (haccount : store.accountOf runId = some (code, activities)) (haccounted : Accounted store activities) :
    ∃ activity, IsAttempt send message activity ∧ recorded.attemptIds.Perm (store.attemptIds ++ [activity.attemptId]) ∧
      recorded.accountOf runId = some (if (send message).outcome.status = .delivered then code else 4,
        activities ++ [activity]) := by
  obtain ⟨⟨hid, hmessage, hexecuting⟩, hfresh, hadds, code', activities', entry, hentry, hbefore, hclaimed⟩ :=
    account_of_claim hclaim
  obtain ⟨hkept', ⟨hreport, hstatus, hremote, herror⟩, code'', activities'', origin, hbefore', hafter⟩ :=
    account_of_record hrecord
  obtain ⟨rfl, rfl⟩ := Prod.mk.inj (Option.some.inj (hbefore.symm.trans haccount))
  rw [hexecuting] at hbefore' hafter
  obtain ⟨rfl, rfl⟩ := Prod.mk.inj (Option.some.inj (hbefore'.symm.trans hclaimed))
  -- no activity of the account is of the attempt that was drawn
  have hnew : (send message).uuid ∉ activities'.map (·.attemptId) := by
    intro hold
    obtain ⟨activity, hactivity, hsame⟩ := List.mem_map.mp hold
    exact hfresh (hsame ▸ haccounted activity hactivity)
  have hadded : replaceActivity ⟨attempt.id, origin, .attempt, report⟩ (replaceActivity entry activities') =
      activities' ++ [⟨attempt.id, origin, .attempt, report⟩] := by
    have hentry' : entry.attemptId ∉ activities'.map (·.attemptId) := by rwa [hentry]
    have hattempt : attempt.id ∉ activities'.map (·.attemptId) := by rwa [hid]
    rw [replaceActivity_of_not_mem hentry']
    exact replaceActivity_concat (hentry.trans hid.symm) hattempt
  rw [hadded] at hafter
  refine ⟨_, ⟨hid, rfl, hreport.trans hmessage, hstatus, hremote, herror⟩, hkept'.trans ?_, hafter⟩
  show claimed.attemptIds.Perm (store.attemptIds ++ [attempt.id])
  rwa [hid]

/-- **The account of a run that delivers**: an activity for each message it
sent, and the code of a failure if one was not delivered. -/
theorem returns_deliverPending : ∀ {pending : List OutboxMessage} {store left : StateStore} {failed : Bool} {code : ℤ}
    {activities : List DeliveryActivity}, Returns (deliverPending send runId pending) store failed left →
    store.accountOf runId = some (code, activities) → Accounted store activities →
    (failed ↔ ∃ message ∈ attempted send pending, (send message).outcome.status ≠ .delivered) ∧
      ∃ made, List.Forall₂ (IsAttempt send) (attempted send pending) made ∧
        left.attemptIds.Perm (store.attemptIds ++ made.map (·.attemptId)) ∧
        left.accountOf runId = some (if failed then 4 else code, activities ++ made)
  | [], store, left, failed, code, activities, h, haccount, _ => by
    obtain ⟨rfl, rfl⟩ := Returns.pure_iff.mp h
    refine ⟨by simp [attempted], [], .nil, by simp, ?_⟩
    rw [haccount, List.append_nil]
    rfl
  | message :: pending, store, left, failed, code, activities, h, haccount, haccounted => by
    unfold deliverPending at h
    simp only [StateStore.commitFor, Returns.bind_iff, Returns.mapError_iff, Returns.commit_iff] at h
    obtain ⟨attempt, claimed, hclaim, report, recorded, hrecord, h⟩ := h
    obtain ⟨activity, hattempt, hadds, haccount'⟩ := account_of_attempt hclaim hrecord haccount haccounted
    have haccounted' := haccounted.adds hadds
    unfold attempted
    by_cases hdelivered : (send message).outcome.status = .delivered
    · rw [if_pos hdelivered] at h haccount' ⊢
      obtain ⟨hfailed, made, hmade, hmore, hleft⟩ := returns_deliverPending h haccount' haccounted'
      refine ⟨?_, activity :: made, .cons hattempt hmade, hmore.trans ?_, ?_⟩
      · rw [hfailed]
        simp [hdelivered]
      · rw [List.map_cons, List.append_cons]
        exact hadds.append_right _
      · rw [hleft, List.append_assoc]
        rfl
    · rw [if_neg hdelivered] at h haccount' ⊢
      obtain ⟨rfl, rfl⟩ := Returns.pure_iff.mp h
      exact ⟨by simp [hdelivered], [activity], .cons hattempt .nil, hadds, haccount'⟩

end Deliver

end Sentinel
