/-
# What a check that sends leaves undone

A check sends every message that was due when it selected them, oldest first,
and stops at the first that is not delivered: its code is then the code of a
failed delivery. So a check that returns with another code has sent them all.
Nothing is left in flight, what still waits is to be retried later than the
selection, the latches whose delivery is pending are those of such messages,
and everything the run announced is delivered.

Key theorems: `returns_deliverPending_rows`, `mem_of_pendingOutbox`, `kept_queues`, `settled_of_check`.
-/
import Sentinel.Cli.ExitCode
import Sentinel.Delivery.Recount

namespace Sentinel

open Collections CrashTxn Fallible

/-! ### The messages that were selected -/

section Deliver

variable {send : OutboxMessage → Sending} {runId : String}

/-- The row of a message whose attempt is delivered: the others stay. -/
theorem rows_of_attempt {store claimed recorded : StateStore} {message : OutboxMessage} {attempt : NotificationAttempt}
    {report : NotificationReport} {uuid : String} {startedAt completedAt : Timestamp} {outcome : NotificationAttemptOutcome}
    (hclaim : store.beginNotificationAttempt uuid message.id startedAt runId = .ok (claimed, attempt))
    (hrecord : claimed.recordNotificationAttempt attempt completedAt outcome = .ok (recorded, report)) {row : OutboxRow}
    (hrow : row ∈ recorded.notificationOutbox.rows) :
    row.id = message.id ∧ row.status = outcome.status ∨ row ∈ store.notificationOutbox.rows ∧ row.id ≠ message.id := by
  obtain ⟨⟨-, hmessage, -⟩, -⟩ := account_of_claim hclaim
  obtain ⟨claims, _, _, _, hfound, -, -, hclaimed, -⟩ := StateStore.beginNotificationAttempt_eq_ok hclaim
  obtain ⟨records, _, _, _, _, hflight, -, -, -, -, hrecorded, -⟩ := StateStore.recordNotificationAttempt_eq_ok hrecord
  have hclaims : claims.id = message.id := (Table.find?_eq_some_iff.mp hfound).2
  have hrecords : records.id = message.id := (Table.find?_eq_some_iff.mp hflight).2.trans hmessage
  rcases hrecorded.mem_iff hrow with rfl | ⟨hrow, hother⟩
  · exact .inl ⟨hrecords, rfl⟩
  rw [hrecords] at hother
  rcases hclaimed.mem_iff hrow with rfl | ⟨hrow, -⟩
  · exact absurd hclaims hother
  · exact .inr ⟨hrow, hother⟩

/-- **A delivery that does not fail delivers every message it was given**, and
leaves the others. -/
theorem returns_deliverPending_rows : ∀ {pending : List OutboxMessage} {store left : StateStore},
    Returns (deliverPending send runId pending) store false left → ∀ row ∈ left.notificationOutbox.rows,
      row.status = .delivered ∨ row ∈ store.notificationOutbox.rows ∧ ∀ message ∈ pending, row.id ≠ message.id
  | [], store, left, h, row, hrow => by
    obtain ⟨-, rfl⟩ := Returns.pure_iff.mp h
    exact .inr ⟨hrow, fun _ hm => nomatch hm⟩
  | message :: pending, store, left, h, row, hrow => by
    unfold deliverPending at h
    simp only [StateStore.commitFor, Returns.bind_iff, Returns.mapError_iff, Returns.commit_iff] at h
    obtain ⟨attempt, claimed, hclaim, report, recorded, hrecord, h⟩ := h
    by_cases hdelivered : (send message).outcome.status = .delivered
    · rw [if_pos hdelivered] at h
      rcases returns_deliverPending_rows h row hrow with hsent | ⟨hkept, hothers⟩
      · exact .inl hsent
      rcases rows_of_attempt hclaim hrecord hkept with ⟨-, hstatus⟩ | ⟨hold, hother⟩
      · exact .inl (hstatus.trans hdelivered)
      · exact .inr ⟨hold, List.forall_mem_cons.mpr ⟨hother, hothers⟩⟩
    · rw [if_neg hdelivered] at h
      obtain ⟨hfailed, -⟩ := Returns.pure_iff.mp h
      cases hfailed

end Deliver

/-- **Everything that is due is selected.** -/
theorem mem_of_pendingOutbox {store : StateStore} {now : Timestamp} {messages : List OutboxMessage}
    (h : store.pendingOutbox now = .ok messages) {row : OutboxRow} (hrow : row ∈ store.notificationOutbox.rows)
    (hu : row.Unsent) (hdue : ∀ retry ∈ row.nextRetryAt, retry ≤ now) : ∃ message ∈ messages, row.id = message.id := by
  simp only [StateStore.pendingOutbox, bind_eq_ok_iff] at h
  obtain ⟨now', hnow, h⟩ := h
  obtain rfl := canonicalTimestamp_eq_ok hnow
  obtain ⟨message, hmessage, hloads⟩ := exists_of_forall₂_left (mapM_eq_ok_iff.mp h) row
    (mem_orderBy.mpr (List.mem_filter.mpr ⟨hrow, decide_eq_true ⟨hu, hdue⟩⟩))
  simp only [OutboxRow.toMessage, bind_eq_ok_iff] at hloads
  obtain ⟨_, -, hloads⟩ := hloads
  exact ⟨message, hmessage, by rw [← Except.ok.inj hloads]⟩

/-! ### The rows that are left -/

/-- The message waits for a retry, later than the instant. -/
def OutboxRow.RetriesAfter (now : Timestamp) (row : OutboxRow) : Prop := ∃ retry ∈ row.nextRetryAt, now < retry

section Finish

variable {inputs : CheckInputs} {recovered : List DeliveryActivity} {report : RunReport} {store left : StateStore}
  {code : UInt8}

/-- The rows after a check that sent its messages: one is delivered, or it was
not due. -/
theorem rows_of_finish (hsends : inputs.suppressNotifications = false)
    (h : Returns (finishCheck inputs recovered report) store code left) (hcode : code ≠ 4) :
    ∀ row ∈ left.notificationOutbox.rows, row.status = .delivered ∨
      row ∈ store.notificationOutbox.rows ∧ (row.Unsent → row.RetriesAfter inputs.selectedAt) := by
  unfold finishCheck at h
  simp only [StateStore.readFor, StateStore.commitFor, Returns.bind_iff, Returns.mapError_iff, Returns.read_iff,
    Returns.commit_iff, Returns.pure_iff, bind_eq_ok_iff] at h
  obtain ⟨failed, delivered, hdeliver, _, refreshed, ⟨_, hrefresh, hpair⟩, _, _, ⟨-, rfl⟩, hexit, rfl⟩ := h
  obtain ⟨rfl, -⟩ := Prod.mk.inj (Except.ok.inj hpair)
  obtain ⟨⟨runs, rfl⟩, -⟩ := StateStore.refreshRunDelivery_eq_ok hrefresh
  -- another code is only returned when no delivery failed
  obtain rfl : failed = false := by
    rw [Bool.eq_false_iff]
    intro hfailed
    rw [hfailed] at hexit
    exact hcode hexit.symm
  unfold deliver at hdeliver
  rw [hsends] at hdeliver
  simp only [Bool.false_eq_true, if_false, StateStore.readFor, Returns.bind_iff, Returns.mapError_iff,
    Returns.read_iff] at hdeliver
  obtain ⟨pending, _, ⟨hpending, rfl⟩, _, _, ⟨-, rfl⟩, hdeliver⟩ := hdeliver
  intro row hrow
  rcases returns_deliverPending_rows hdeliver row hrow with hsent | ⟨hold, hothers⟩
  · exact .inl hsent
  refine .inr ⟨hold, fun hu => ?_⟩
  by_contra hdue
  obtain ⟨message, hmessage, hid⟩ := mem_of_pendingOutbox hpending hold hu fun retry hretry =>
    not_lt.mp fun hlater => hdue ⟨retry, hretry, hlater⟩
  exact hothers message hmessage hid

/-- The reports are read again before a check returns. -/
theorem reports_of_finish (h : Returns (finishCheck inputs recovered report) store code left) :
    ∃ reports, left.loadReports 1 none = .ok reports := by
  unfold finishCheck at h
  simp only [StateStore.readFor, Returns.bind_iff, Returns.mapError_iff, Returns.read_iff, Returns.pure_iff] at h
  obtain ⟨_, _, -, _, _, -, reports, _, ⟨hload, rfl⟩, -, rfl⟩ := h
  exact ⟨reports, hload⟩

end Finish

/-- No delivery changes what the messages are about. -/
theorem keptByDelivery_keepsMessages (store : StateStore) :
    KeptByDelivery fun now => KeepsMessages store.notificationOutbox.rows now.notificationOutbox.rows where
  claim hs ok := hs.trans (keeps_of_claim ok).2
  record hs ok := hs.trans (keeps_of_record ok).2
  refresh hs ok := hs.trans (keeps_of_refresh ok).2

/-! ### What the run announced -/

section Commit

variable {report : RunReport} {cutoff : Timestamp} {store left : StateStore} {committed : Committed} {latching : Latching}
  {persisted : StateStore}

/-- A message of the run that was committed is due at once, until it is delivered. -/
theorem IsCommitted.delivered_of_rows (h : IsCommitted report false cutoff store committed latching persisted)
    (hcutoff : cutoff ≤ report.completedAt) (hruns : HasRuns store) {now : Timestamp}
    (hrows : ∀ row ∈ left.notificationOutbox.rows, row.status = .delivered ∨
      row ∈ committed.store.notificationOutbox.rows ∧ (row.Unsent → row.RetriesAfter now)) :
    ∀ row ∈ left.runMessages report.runId, row.status = .delivered := by
  intro row hrow
  obtain ⟨hrow, hrun⟩ := List.mem_filter.mp hrow
  rcases hrows row hrow with hdelivered | ⟨hold, hwaits⟩
  · exact hdelivered
  have hqueued := h.runMessages_eq hcutoff hruns.references
  obtain ⟨message, hmessage, hq⟩ := exists_of_forall₂_right hqueued row (List.mem_filter.mpr ⟨hold, hrun⟩)
  have hstatus : row.status = .pending := by
    rw [hq.header]
    exact h.status_of_mem hmessage
  have hretry : row.nextRetryAt = none := by rw [hq.header]; rfl
  obtain ⟨retry, hsome, -⟩ := hwaits (by simp [OutboxRow.Unsent, hstatus])
  rw [hretry] at hsome
  cases hsome

/-- The transitions of a run are read back once its messages are delivered. -/
theorem IsCommitted.loadTransitions_left (h : IsCommitted report false cutoff store committed latching persisted)
    (hcutoff : cutoff ≤ report.completedAt) (hruns : HasRuns store) (hrecorded : Recorded committed.store)
    (hkept : KeepsMessages committed.store.notificationOutbox.rows left.notificationOutbox.rows) :
    left.loadTransitions report.runId = committed.report.transitions :=
  calc left.loadTransitions report.runId = committed.store.loadTransitions report.runId :=
        (loadTransitions_keeps hrecorded (hkept.ofRun report.runId)).1
    _ = committed.report.transitions := h.loadTransitions_eq hcutoff hruns.references

end Commit

/-- A report is read under its own id. -/
theorem runId_of_loadReport {store : StateStore} {runId : String} {report : RunReport}
    (h : store.loadReport runId = .ok report) : report.runId = runId := by
  simp only [StateStore.loadReport, bind_eq_ok_iff] at h
  obtain ⟨_, -, _, -, _, -, _, -, _, -, _, -, _, -, h⟩ := h
  obtain rfl := Except.ok.inj h
  rfl

/-- Each transition of a run is that of one of its messages. -/
theorem exists_notification {store : StateStore} {runId : String} {transition : ConditionTransition}
    (h : transition ∈ store.loadTransitions runId) : ∃ notification ∈ store.loadNotificationReports runId,
      notification.transition = transition.kind ∧ transition.conditionId ∈ notification.conditionIds := by
  obtain ⟨row, hrow, hstands⟩ := List.mem_flatMap.mp (List.mem_dedup.mp (mem_orderBy.mp h))
  obtain ⟨member, hmember, rfl⟩ := List.mem_map.mp hstands
  refine ⟨row.report, List.mem_map.mpr ⟨row, mem_orderBy.mpr hrow, rfl⟩, rfl, ?_⟩
  exact List.mem_map.mpr ⟨member, mem_orderBy.mpr hmember, rfl⟩

/-! ### Pending deliveries -/

/-- A pending delivery is that of an episode that was announced. -/
def LatchView.Queues (view : LatchView) : Prop :=
  view.delivery = .pending → view.lifecycle ≠ .pending ∧ view.episode.isSome

theorem LatchMove.queues {runId : String} {suppress : Bool} {view view' : LatchView} {kind : Option TransitionKind}
    {withdrawal : Withdrawal} (h : LatchMove runId suppress view view' kind withdrawal) (hepisode : view.InEpisode)
    (hqueues : view.Queues) : view'.Queues := by
  cases h with
  | idle => exact hqueues
  | begins => simp [LatchView.Queues]
  | beginsFiring => simp [LatchView.Queues]
  | fires delivery episode | resolves delivery episode =>
    have hsome := hepisode (by simp)
    exact fun _ => ⟨by simp, hsome⟩
  | recovers lifecycle delivery episode =>
    intro hpending
    by_cases hp : delivery = .pending <;> simp [withdrawnState, hp] at hpending

/-- **Every transaction keeps pending deliveries announced.** -/
theorem kept_queues : Kept fun store => Coherent store ∧ ∀ conditionId, (latchView store conditionId).Queues where
  commit hs hquiet ok := by
    refine ⟨kept_coherent.commit hs.1 hquiet ok, fun conditionId => ?_⟩
    obtain ⟨latching, persisted, hcommitted⟩ := commitRun_eq_ok ok
    obtain ⟨kind, withdrawal, hmove, -⟩ := hcommitted.moves conditionId
    exact hmove.queues (hs.1.inEpisode conditionId) (hs.2 conditionId)
  claim hs ok := by
    refine ⟨kept_coherent.claim hs.1 ok, ?_⟩
    obtain ⟨_, _, _, _, -, -, -, -, -, rfl⟩ := StateStore.beginNotificationAttempt_eq_ok ok
    exact hs.2
  record {_ _ outcome _ _ _} hs ok := by
    refine ⟨kept_coherent.record hs.1 ok, fun conditionId => ?_⟩
    obtain ⟨row, _, _, _, states, -, -, -, -, -, -, -, hstates, rfl⟩ := StateStore.recordNotificationAttempt_eq_ok ok
    rw [latchView_settled hstates conditionId]
    rcases settledView_cases conditionId row.announcements (deliveredState outcome.status row.transition)
      (latchView _ conditionId) with hsame | ⟨state, hstate, hsettled, -⟩
    · rw [hsame]
      exact hs.2 conditionId
    · rw [hsettled]
      intro hpending
      obtain rfl : state = .pending := hpending
      cases outcome <;> cases htransition : row.transition <;>
        simp [deliveredState, NotificationAttemptOutcome.status, htransition] at hstate
  refresh hs ok := by
    refine ⟨kept_coherent.refresh hs.1 ok, ?_⟩
    obtain ⟨⟨runs, rfl⟩, -⟩ := StateStore.refreshRunDelivery_eq_ok ok
    exact hs.2

/-- A latch whose delivery is pending is that of a message that is still active. -/
theorem exists_active_of_pending {store : StateStore} (hcoherent : Coherent store)
    (hqueues : ∀ conditionId, (latchView store conditionId).Queues) {conditionId : String} {latch : ConditionState}
    (hlatch : store.conditionState.find? conditionId = some latch) (hpending : latch.alertDeliveryState = .pending) :
    ∃ episode, latch.episodeId = some episode ∧ ∃ row ∈ store.notificationOutbox.rows,
      row.Holds conditionId episode ∧ isActive row.status := by
  have hview : latchView store conditionId = latch.view := by
    rw [latchView, hlatch]
  have hannounced := hqueues conditionId
  rw [hview] at hannounced
  obtain ⟨hannounced, hsome⟩ := hannounced hpending
  obtain ⟨episode, hepisode⟩ := Option.isSome_iff_exists.mp hsome
  have hepisode : latch.episodeId = some episode := hepisode
  have howed : ∃ kind, (episode, kind) ∈ (latchView store conditionId).owed := by
    simp only [hview, LatchView.mem_owed, ConditionState.view]
    cases hlifecycle : latch.lifecycle with
    | firing => exact ⟨.alert, hpending, hepisode, rfl⟩
    | clear => exact ⟨.resolution, hpending, hepisode, rfl⟩
    | pending => exact absurd hlifecycle hannounced
  obtain ⟨kind, howed⟩ := howed
  obtain ⟨row, hone⟩ := List.length_eq_one_iff.mp ((hcoherent.length_messagesOf conditionId episode kind).mpr howed)
  have hmem : row ∈ messagesOf conditionId episode kind isActive store := hone ▸ List.mem_singleton_self row
  obtain ⟨hrow, hactive⟩ := List.mem_filter.mp hmem
  simp only [Bool.and_eq_true, decide_eq_true_eq] at hactive
  exact ⟨episode, hepisode, row, hrow, hactive.2, hactive.1.1⟩

/-- **A check that sends leaves nothing undone that was due**, unless its code
is that of a failed delivery: nothing is in flight, and what waits is to be
retried after the selection; a latch whose delivery is pending is that of such
a message; and all that the run announced is delivered, in the report that is
printed as well. -/
theorem settled_of_check {c : Circumstances} {store left : StateStore} {code : UInt8} (hstore : CheckReachable store)
    (hsends : c.suppressNotifications = false) (h : Returns (checkWithSink c.inputs) store code left) (hcode : code ≠ 4) :
    (∀ row ∈ left.notificationOutbox.rows, row.status ≠ .inFlight ∧
      (row.status ∈ [.pending, .retryable] → row.RetriesAfter c.selectedAt)) ∧
    (∀ conditionId latch, left.conditionState.find? conditionId = some latch → latch.alertDeliveryState = .pending →
      ∃ episode, latch.episodeId = some episode ∧ ∃ row ∈ left.notificationOutbox.rows,
        row.Holds conditionId episode ∧ row.status ∈ [.pending, .retryable] ∧ row.RetriesAfter c.selectedAt) ∧
    ∃ recovered now report committed, Committing c.inputs store recovered now report committed ∧
      ∃ printed, left.loadReports 1 none = .ok [printed] ∧ printed.runId = c.runId ∧
        printed.transitions = committed.report.transitions ∧
        (∀ notification ∈ printed.notifications, notification.status = .delivered) ∧
        ∀ transition ∈ printed.transitions, ∃ notification ∈ printed.notifications,
          notification.transition = transition.kind ∧ transition.conditionId ∈ notification.conditionIds := by
  have hempty : Coherent .empty ∧ ∀ conditionId, (latchView .empty conditionId).Queues :=
    ⟨coherent_empty, fun _ hpending => by cases hpending⟩
  obtain ⟨hcoherent, hqueues⟩ := h.of_spec (spec_check kept_queues c.inputs) (hstore.kept kept_queues hempty)
  obtain ⟨recovered, now, report, committed, hcommits, hfinish⟩ := returns_check_iff.mp h
  obtain ⟨⟨events, hnow⟩, hquiet⟩ :=
    hcommits.recovers.of_spec (spec_recover kept_hasHistory.record _) (hstore.kept kept_hasHistory ⟨[], .start⟩)
  have hruns := (recorded_of_history hnow).hasRuns
  have hrecorded := recorded_of_history (hnow.commit hcommits.commits)
  obtain ⟨latching, persisted, hcommitted⟩ := commitRun_eq_ok hcommits.commits
  have hsent : c.inputs.suppressNotifications = false := hsends
  rw [hsent] at hcommitted
  obtain ⟨evaluated, -, -, rfl⟩ := Circumstances.observation_eq_ok hcommits.observes
  have hcutoff := c.retentionCutoff_le
  have hrows := rows_of_finish hsends hfinish hcode
  have hwaits : ∀ row ∈ left.notificationOutbox.rows, row.status ≠ .inFlight ∧
      (row.Unsent → row.RetriesAfter c.selectedAt) := by
    intro row hrow
    rcases hrows row hrow with hdelivered | ⟨hold, hwaits⟩
    · exact ⟨by simp [hdelivered], fun hu => by simp [OutboxRow.Unsent, hdelivered] at hu⟩
    · exact ⟨hcommitted.noneInFlight hquiet row hold, hwaits⟩
  refine ⟨hwaits, fun conditionId latch hlatch hpending => ?_, recovered, now, _, committed, hcommits, ?_⟩
  · obtain ⟨episode, hepisode, row, hrow, hholds, hactive⟩ := exists_active_of_pending hcoherent hqueues hlatch hpending
    obtain ⟨hflight, hwaits⟩ := hwaits row hrow
    have hunsent : row.Unsent := by
      simp only [isActive, OutboxRow.Unsent, List.mem_cons, List.not_mem_nil, or_false, decide_eq_true_eq] at hactive ⊢
      tauto
    exact ⟨episode, hepisode, row, hrow, hholds, hunsent, hwaits hunsent⟩
  · have hkept : KeepsMessages committed.store.notificationOutbox.rows left.notificationOutbox.rows :=
      hfinish.of_spec (spec_finish (keptByDelivery_keepsMessages committed.store) c.inputs recovered committed.report)
        (.refl _)
    have hdelivered := hcommitted.delivered_of_rows hcutoff hruns hrows
    have htransitions := hcommitted.loadTransitions_left hcutoff hruns hrecorded hkept
    obtain ⟨reports, hreports⟩ := reports_of_finish hfinish
    have hnewest := loadReports_finish hcommitted hcutoff hfinish
    rw [hnewest] at hreports
    obtain ⟨printed, hprinted, -⟩ := map_eq_ok_iff.mp hreports
    obtain ⟨hprintedTransitions, hnotifications⟩ := loadReport_eq_ok hprinted
    refine ⟨printed, hnewest.trans (map_eq_ok_iff.mpr ⟨printed, hprinted, rfl⟩), ?_,
      hprintedTransitions.trans htransitions, fun notification hnotification => ?_, fun transition ht => ?_⟩
    · exact runId_of_loadReport hprinted
    · rw [hnotifications] at hnotification
      obtain ⟨row, hrow, rfl⟩ := List.mem_map.mp hnotification
      exact hdelivered row (mem_orderBy.mp hrow)
    · rw [hprintedTransitions] at ht
      rw [hnotifications]
      exact exists_notification ht

/-- The same check, when the provider takes the alert. -/
def takenCheck : Circumstances :=
  { lostCheck with send := fun _ => ⟨"attempt", second 0, second 0, .delivered 200 "taken"⟩ }

/-- The check fails for its incomplete target only: its alert is delivered. -/
theorem settled_of_check_taken : ∃ left printed, Returns (checkWithSink takenCheck.inputs) .empty 3 left ∧
    left.loadReports 1 none = .ok [printed] ∧ printed.transitions ≠ [] ∧
    ∀ notification ∈ printed.notifications, notification.status = .delivered := by
  have hany : (checkWithSink takenCheck.inputs .empty).2.toOption.any (fun result => decide (result.1 = 3) &&
      (result.2.loadReports 1 none).toOption.any fun reports =>
        reports.all fun printed => !printed.transitions.isEmpty) = true := by
    decide +kernel
  obtain ⟨⟨code, left⟩, hreturns, hall⟩ := ok_of_any hany
  rw [Bool.and_eq_true, decide_eq_true_eq] at hall
  obtain ⟨rfl, hreports⟩ := hall
  have hreturns : Returns (checkWithSink takenCheck.inputs) .empty 3 left := hreturns
  obtain ⟨-, -, _, _, _, _, -, printed, hprinted, -, -, hdelivered, -⟩ :=
    settled_of_check .empty rfl hreturns (by decide)
  obtain ⟨reports, hloaded, htransitions⟩ := ok_of_any hreports
  obtain rfl := Except.ok.inj (hloaded.symm.trans hprinted)
  have hmade := List.all_eq_true.mp htransitions printed (List.mem_singleton_self _)
  refine ⟨left, printed, hreturns, hprinted, ?_, hdelivered⟩
  intro hnone
  rw [hnone] at hmade
  cases hmade

end Sentinel
