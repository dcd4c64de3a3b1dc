/-
# At most once, and only what was confirmed

Two properties of every history. A message is sent at most once for every
condition, episode and kind, whatever messages it is batched in: there is one
message that is not cancelled, one attempt in flight, and no attempt after one
that was not to be retried. And a resolution is sent only for an episode whose
alert was recorded as delivered.

Key theorems: `at_most_once`, `resolution_confirmed`.
-/
import Sentinel.Delivery.Histories
import Sentinel.Delivery.Rows

namespace Sentinel

open Collections

/-! ### At most once -/

/-- A row has an attempt in flight just when it is in flight itself. -/
theorem attempted_of_history {events : List Event} {store : StateStore} (h : History events store) :
    ∀ row ∈ store.notificationOutbox.rows, Attempted row := by
  induction h with
  | start =>
    intro row hrow
    cases hrow
  | commit _ ok ih =>
    obtain ⟨latching, persisted, hcommitted⟩ := commitRun_eq_ok ok
    refine hcommitted.forall_rows attempted_cancellable ih fun message hm row hrow => attempted_queued hrow ?_
    rw [hcommitted.status_of_mem hm]
    split <;> decide
  | claim _ _ ok ih => exact forall_rows_claim ok ih fun row attempts hrow hu ha => hrow.claimed hu ha
  | record _ _ ok ih => exact forall_rows_record ok ih fun row next hrow hs _ hcount _ => hrow.recorded hs hcount
  | recover _ _ ok ih =>
    obtain ⟨attempt, report, -, hrecord⟩ := StateStore.recoverAttempt_eq_ok ok
    exact forall_rows_record hrecord ih fun row next hrow hs _ hcount _ => hrow.recorded hs hcount
  | refresh _ ok ih =>
    obtain ⟨⟨runs, rfl⟩, -⟩ := StateStore.refreshRunDelivery_eq_ok ok
    exact ih

/-- An announcement has at most one message that is not cancelled. -/
theorem Sound.length_messagesOf_le {events : List Event} {store : StateStore} (h : Sound events store.desk)
    (a : Announcement) :
    (messagesOf a.conditionId a.episodeId a.kind (fun status => status ≠ .cancelled) store).length ≤ 1 := by
  have hone := Multiset.nodup_iff_count_le_one.mp h.single a
  rw [Multiset.count_map] at hone
  rw [← countP_ledger a.conditionId a.episodeId a.kind (by decide), Multiset.countP_eq_card_filter]
  refine (Multiset.card_le_card (Multiset.monotone_filter_right _ fun entry hentry => ?_)).trans hone
  obtain ⟨⟨hc, he, hk⟩, -⟩ := hentry
  obtain ⟨conditionId, episodeId, kind⟩ := a
  simp only [Entry.announcement, Announcement.mk.injEq]
  exact ⟨hc.symm, he.symm, hk.symm⟩

theorem mem_ledger_of_announcements {store : StateStore} {row : OutboxRow}
    (hrow : row ∈ store.notificationOutbox.rows) (hne : row.status ≠ .cancelled) {a : Announcement}
    (ha : a ∈ row.announcements) : a.entry row.status ∈ store.ledger := by
  refine mem_liveEntries.mpr ⟨row, hrow, ?_⟩
  rw [live_eq_announcements hne]
  exact Multiset.mem_coe.mpr (List.mem_map_of_mem ha)

/-- **At most once.** Whatever the interleaving, a condition's episode has at
most one message of a kind that is not cancelled, at most one attempt on it in
flight, and once an attempt has ended otherwise than to be retried, no message
of that episode and kind can be claimed. -/
theorem at_most_once {events : List Event} {store : StateStore} (h : History events store)
    (distinct : (runIds events).Nodup) (a : Announcement) :
    let messages := messagesOf a.conditionId a.episodeId a.kind (fun status => status ≠ .cancelled) store
    messages.length ≤ 1 ∧
    (messages.flatMap fun row => row.attempts.rows.filter (·.isInFlight)).length ≤ 1 ∧
    ∀ announcements status, .ended announcements status ∈ events → status ≠ .retryable → a ∈ announcements →
      ∀ messageId row, store.notificationOutbox.find? messageId = some row → a ∈ row.announcements →
        ∀ uuid startedAt executingRunId, ∃ error,
          store.beginNotificationAttempt uuid messageId startedAt executingRunId = .error error := by
  intro messages
  have hsound := (deskRun_of_history h).sound distinct
  have hone : messages.length ≤ 1 := hsound.length_messagesOf_le a
  refine ⟨hone, ?_, ?_⟩
  · have hmem : ∀ row ∈ messages, (row.attempts.rows.filter (·.isInFlight)).length ≤ 1 := by
      intro row hrow
      have hattempted := attempted_of_history h row (List.mem_of_mem_filter hrow)
      rw [← List.countP_eq_length_filter, hattempted]
      split <;> decide
    cases hmessages : messages with
    | nil => exact Nat.zero_le _
    | cons row rest =>
      rw [hmessages, List.length_cons] at hone
      obtain rfl : rest = [] := List.eq_nil_of_length_eq_zero (by omega)
      rw [List.flatMap_singleton]
      exact hmem row (by rw [hmessages]; simp)
  · intro announcements status hended hne ha messageId row hfind hrow uuid startedAt executingRunId
    cases hbegin : store.beginNotificationAttempt uuid messageId startedAt executingRunId with
    | error error => exact ⟨error, rfl⟩
    | ok result =>
      obtain ⟨row', _, _, _, hfind', hunsent, -⟩ := StateStore.beginNotificationAttempt_eq_ok hbegin
      rw [hfind, Option.some.injEq] at hfind'
      subst hfind'
      have hne' : row.status ≠ .cancelled := fun hs => by simp [hs] at hunsent
      have hm := mem_ledger_of_announcements (Table.find?_eq_some_iff.mp hfind).1 hne' hrow
      have hactive : row.status ∈ [.pending, .retryable, .inFlight] := by
        simp only [List.mem_cons, List.not_mem_nil, or_false] at hunsent ⊢
        tauto
      exact absurd ha (hsound.not_ended hm hactive hended hne)

/-- The alert of the API condition through one attempt: the commit, the claim
and the result. -/
structure ApiAlert where
  committed : Committed
  claimed : StateStore
  recorded : StateStore

def apiAlert (outcome : NotificationAttemptOutcome) : Except StoreError ApiAlert := do
  let committed ← StateStore.empty.commitRun (fun _ => "message") (apiReport "first" .active 1) apiConfig 1
    (second 0) false
  let (claimed, attempt) ← committed.store.beginNotificationAttempt "attempt" "message" (second 2) "first"
  let (recorded, _) ← claimed.recordNotificationAttempt attempt (second 3) outcome
  return ⟨committed, claimed, recorded⟩

def apiAnnouncement (kind : TransitionKind) : Announcement := ⟨"target:one:api", "first", kind⟩

/-- One message announces the alert, before and after it is claimed. -/
def ApiAlert.Announces (alert : ApiAlert) : Prop :=
  alert.committed.store.notificationOutbox.rows.map (·.announcements) = [[apiAnnouncement .alert]] ∧
    alert.claimed.notificationOutbox.rows.map (·.announcements) = [[apiAnnouncement .alert]]

instance (alert : ApiAlert) : Decidable alert.Announces := by unfold ApiAlert.Announces; infer_instance

theorem apiAlert_eq_ok {outcome : NotificationAttemptOutcome} {alert : ApiAlert} (h : apiAlert outcome = .ok alert) :
    ∃ attempt report,
      StateStore.empty.commitRun (fun _ => "message") (apiReport "first" .active 1) apiConfig 1 (second 0) false =
        .ok alert.committed ∧
      alert.committed.store.beginNotificationAttempt "attempt" "message" (second 2) "first" =
        .ok (alert.claimed, attempt) ∧
      alert.claimed.recordNotificationAttempt attempt (second 3) outcome = .ok (alert.recorded, report) := by
  simp only [apiAlert, Fallible.bind_eq_ok_iff] at h
  obtain ⟨committed, hcommit, ⟨claimed, attempt⟩, hclaim, ⟨recorded, report⟩, hrecord, h⟩ := h
  obtain rfl := Except.ok.inj h
  exact ⟨attempt, report, hcommit, hclaim, hrecord⟩

theorem history_apiAlert {outcome : NotificationAttemptOutcome} {alert : ApiAlert} (h : apiAlert outcome = .ok alert)
    (hm : alert.Announces) :
    ∃ queued, History [.ended [apiAnnouncement .alert] outcome.status, .claimed [apiAnnouncement .alert],
      .committed "first" false queued] alert.recorded := by
  obtain ⟨attempt, report, hcommit, hclaim, hrecord⟩ := apiAlert_eq_ok h
  obtain ⟨row, _, _, _, hrow, -⟩ := StateStore.beginNotificationAttempt_eq_ok hclaim
  obtain ⟨attempted, _, _, _, _, hattempted, -⟩ := StateStore.recordNotificationAttempt_eq_ok hrecord
  have hclaimed : row.announcements = [apiAnnouncement .alert] := by
    have hmem := List.mem_map_of_mem (f := (·.announcements)) (Table.find?_eq_some_iff.mp hrow).1
    rw [hm.1] at hmem
    exact List.mem_singleton.mp hmem
  have hended : attempted.announcements = [apiAnnouncement .alert] := by
    have hmem := List.mem_map_of_mem (f := (·.announcements)) (Table.find?_eq_some_iff.mp hattempted).1
    rw [hm.2] at hmem
    exact List.mem_singleton.mp hmem
  have hhistory := ((History.start.commit hcommit).claim hrow hclaim).record hattempted hrecord
  rw [hclaimed, hended] at hhistory
  exact ⟨_, hhistory⟩

/-- An alert the provider rejected is not sent again. -/
theorem at_most_once_rejected : ∃ events store error, History events store ∧
    .ended [apiAnnouncement .alert] .failed ∈ events ∧
    (messagesOf "target:one:api" "first" .alert (fun status => status ≠ .cancelled) store).length ≤ 1 ∧
    store.beginNotificationAttempt "again" "message" (second 4) "first" = .error error := by
  have hany : (apiAlert (.failed (some 400) none "rejected")).toOption.any (fun alert =>
      decide (alert.Announces ∧ (alert.recorded.notificationOutbox.find? "message").map (·.announcements) =
        some [apiAnnouncement .alert])) = true := by decide +kernel
  obtain ⟨alert, h, hrun⟩ := Fallible.ok_of_any hany
  obtain ⟨hannounces, hmessage⟩ := of_decide_eq_true hrun
  obtain ⟨row, hrow, hannouncements⟩ := Option.map_eq_some_iff.mp hmessage
  obtain ⟨queued, hhistory⟩ := history_apiAlert h hannounces
  have hdistinct : (runIds [.ended [apiAnnouncement .alert] .failed, .claimed [apiAnnouncement .alert],
      .committed "first" false queued]).Nodup := List.nodup_singleton "first"
  obtain ⟨hone, -, hagain⟩ := at_most_once hhistory hdistinct (apiAnnouncement .alert)
  obtain ⟨error, herror⟩ := hagain [apiAnnouncement .alert] .failed List.mem_cons_self (by decide)
    List.mem_cons_self "message" row hrow (by rw [hannouncements]; exact List.mem_cons_self) "again" (second 4) "first"
  exact ⟨_, alert.recorded, error, hhistory, List.mem_cons_self, hone, herror⟩

/-! ### Only what was confirmed -/

/-- A resolution that is not suppressed is of confirmed alerts. -/
def OfConfirmed (events : List Event) (row : OutboxRow) : Prop :=
  row.transition = .resolution → row.status ≠ .suppressed →
    ∀ a ∈ row.announcements, Confirmed a.conditionId a.episodeId events

theorem OfConfirmed.cons {events : List Event} {row : OutboxRow} (h : OfConfirmed events row) (event : Event) :
    OfConfirmed (event :: events) row :=
  fun hr hs a ha => (h hr hs a ha).cons event

theorem OutboxRow.Unsent.ne_suppressed {row : OutboxRow} (h : row.Unsent) : row.status ≠ .suppressed :=
  fun hs => by simp [OutboxRow.Unsent, hs] at h

theorem ofConfirmed_cancellable (events : List Event) : Cancellable (OfConfirmed events) where
  cancelled _ h hu hr _ a ha := h hr hu.ne_suppressed a ha
  replaced row conditionId uuid conditions h hu _ hc hr _ a ha := by
    refine h hr hu.ne_suppressed a ?_
    obtain ⟨hkind, member, hm, hid⟩ := mem_announcements.mp ha
    refine mem_announcements.mpr ⟨hkind, member, ?_, hid⟩
    rw [hc] at hm
    exact mem_orderBy.mp (List.mem_of_mem_filter hm)

/-- What a queued row announces is what its commit announces. -/
theorem announcements_of_isQueued {committed : Committed} {message : OutboxMessage} (hm : message ∈ committed.outbox)
    {row : OutboxRow} (h : StateStore.IsQueued committed.store.conditionState committed.report.transitions
      committed.report.completedAt message row) {a : Announcement} (ha : a ∈ row.announcements) :
    a ∈ committed.announcements ∧ a.kind = message.transition := by
  obtain ⟨hkind, member, hmember, hid, he⟩ := mem_announcements.mp ha
  have hkind : message.transition = a.kind := by
    rw [← hkind, h.header]
    rfl
  obtain ⟨conditionId, hc, hok⟩ := Fallible.exists_of_forall₂_right h.members member hmember
  obtain ⟨-, -, hcid, hepisode⟩ := outboxMember_eq_ok hok
  refine ⟨List.mem_flatMap.mpr ⟨message, hm, List.mem_map.mpr ⟨conditionId, hc, ?_⟩⟩, hkind.symm⟩
  rw [← hepisode, ← hcid, hid, he, hkind]

/-- **A commit queues resolutions of confirmed alerts**, or suppressed ones. -/
theorem ofConfirmed_commit {events : List Event} {store : StateStore} {report : RunReport} {suppress : Bool}
    {cutoff : Timestamp} {committed : Committed} {latching : Latching} {persisted : StateStore}
    (hrun : DeskRun events store.desk)
    (h : IsCommitted report suppress cutoff store committed latching persisted)
    (hs : ∀ row ∈ store.notificationOutbox.rows, OfConfirmed events row) :
    ∀ row ∈ committed.store.notificationOutbox.rows, OfConfirmed events row := by
  refine h.forall_rows (ofConfirmed_cancellable events) hs fun message hm row hrow hr hsup a ha => ?_
  have hsuppress : suppress = false := by
    rw [hrow.header] at hsup
    have hsup : message.status ≠ .suppressed := hsup
    rw [h.status_of_mem hm] at hsup
    cases suppress with
    | false => rfl
    | true => exact absurd rfl hsup
  subst hsuppress
  obtain ⟨hann, -⟩ := announcements_of_isQueued hm hrow ha
  obtain ⟨conditionId, episodeId, k⟩ := a
  obtain ⟨kind, withdrawal, hmove, hqueued⟩ := h.moves conditionId
  obtain ⟨hk, he⟩ := (Sound.mem_queued_iff hqueued episodeId k).mp hann
  have hkind : k = .resolution := (mem_announcements.mp ha).1.symm.trans hr
  rw [hk, hkind] at hmove
  obtain ⟨hlatched, hdelivered, hsame⟩ := hmove.confirmed
  obtain ⟨episode, hepisode⟩ := Option.isSome_iff_exists.mp (hrun.inEpisode conditionId hlatched)
  have hcurrent : episodeId = episode := by
    rw [he, hsame]
    exact congrArg (Option.getD · "") hepisode
  rw [hcurrent]
  exact hrun.confirmed conditionId hdelivered hepisode

/-- **Every resolution that is not suppressed** is of confirmed alerts. -/
theorem ofConfirmed_of_history {events : List Event} {store : StateStore} (h : History events store) :
    ∀ row ∈ store.notificationOutbox.rows, OfConfirmed events row := by
  induction h with
  | start =>
    intro row hrow
    cases hrow
  | commit h ok ih =>
    obtain ⟨latching, persisted, hcommitted⟩ := commitRun_eq_ok ok
    intro row hrow
    exact (ofConfirmed_commit (deskRun_of_history h) hcommitted ih row hrow).cons _
  | claim _ _ ok ih =>
    refine forall_rows_claim ok (fun row hrow => (ih row hrow).cons _) fun row attempts hrow hu _ => ?_
    exact fun hr _ a ha => hrow hr hu.ne_suppressed a ha
  | record _ _ ok ih =>
    refine forall_rows_record ok (fun row hrow => (ih row hrow).cons _) fun row next hrow hs _ _ _ => ?_
    exact fun hr _ a ha => hrow hr (by simp [hs]) a ha
  | recover _ _ ok ih =>
    obtain ⟨attempt, report, -, hrecord⟩ := StateStore.recoverAttempt_eq_ok ok
    refine forall_rows_record hrecord (fun row hrow => (ih row hrow).cons _) fun row next hrow hs _ _ _ => ?_
    exact fun hr _ a ha => hrow hr (by simp [hs]) a ha
  | refresh _ ok ih =>
    obtain ⟨⟨runs, rfl⟩, -⟩ := StateStore.refreshRunDelivery_eq_ok ok
    exact ih

/-- A commit that does not suppress inserts no suppressed row. -/
theorem ne_suppressed_of_new {store : StateStore} {report : RunReport} {cutoff : Timestamp} {committed : Committed}
    {latching : Latching} {persisted : StateStore}
    (h : IsCommitted report false cutoff store committed latching persisted) {row : OutboxRow}
    (hrow : row ∈ committed.store.notificationOutbox.rows)
    (new : ∀ old ∈ store.notificationOutbox.rows, old.id ≠ row.id) : row.status ≠ .suppressed := by
  have hcancellable : Cancellable fun row =>
      row.status ≠ .suppressed ∨ ∃ old ∈ store.notificationOutbox.rows, old.id = row.id :=
    ⟨fun _ _ _ => .inl (by simp [StateStore.cancelledRow]), fun _ _ _ _ _ hu _ _ => .inl hu.ne_suppressed⟩
  have hall := h.forall_rows hcancellable (fun old hold => .inr ⟨old, hold, rfl⟩) fun message hm queued hq => by
    refine .inl ?_
    have hstatus := h.status_of_mem hm
    rw [hq.header]
    show message.status ≠ .suppressed
    rw [hstatus]
    decide
  rcases hall row hrow with hs | ⟨old, hold, hid⟩
  · exact hs
  · exact absurd hid (new old hold)

/-- Nothing but confirmation came of an alert: it was not suppressed, no
attempt on it failed or was left unknown, and no message still has to tell it. -/
structure Undisputed (events : List Event) (store : StateStore) (alert : Announcement) : Prop where
  unsuppressed : alert ∉ queuedBy true events
  results : ∀ announcements status, .ended announcements status ∈ events → alert ∈ announcements →
    status ∈ [.delivered, .retryable]
  sent : ∀ row ∈ store.notificationOutbox.rows, alert ∈ row.announcements → row.status ∈ [.delivered, .cancelled]

theorem Confirmed.undisputed {conditionId episodeId : String} {events : List Event} {store : StateStore}
    (h : Confirmed conditionId episodeId events) (hsound : Sound events store.desk) :
    Undisputed events store ⟨conditionId, episodeId, .alert⟩ := by
  obtain ⟨announcements, hended, ha⟩ := h
  refine ⟨?_, fun announcements' status hended' ha' => ?_, fun row hrow hmem => ?_⟩
  · exact not_mem_queuedBy_true hsound.once ((hsound.ended _ _ hended).2 _ ha)
  · by_cases hr : status = .retryable
    · simp [hr]
    · have := hsound.unique _ _ _ _ hended hended' (by decide) hr _ ha ha'
      simp [← this]
  · by_cases hc : row.status = .cancelled
    · simp [hc]
    · have hm := mem_ledger_of_announcements hrow hc hmem
      have hsettled : row.status = .delivered := hsound.settled _ _ hended (by decide) _ hm ha
      simp [hsettled]

/-- **A resolution needs a confirmed alert of its episode.** Every resolution
that a commit inserts without suppression, and every pending one, is of an
episode whose alert an attempt delivered earlier; with distinct run ids nothing
else came of that alert, and nothing is announced twice. -/
theorem resolution_confirmed {events : List Event} {store : StateStore} (h : History events store)
    {uuids : ℕ → String} {report : RunReport} {config : Config} {now : ℤ} {cutoff : Timestamp} {suppress : Bool}
    {committed : Committed} (ok : store.commitRun uuids report config now cutoff suppress = .ok committed) :
    (∀ row ∈ committed.store.notificationOutbox.rows, row.transition = .resolution →
      (suppress = false ∧ ∀ old ∈ store.notificationOutbox.rows, old.id ≠ row.id) ∨ row.status = .pending →
      ∀ member ∈ row.conditions.rows, Confirmed member.conditionId member.episodeId events ∧
        ((runIds events).Nodup → Undisputed events store ⟨member.conditionId, member.episodeId, .alert⟩)) ∧
    ((report.runId :: runIds events).Nodup →
      (created (.committed report.runId suppress committed.announcements :: events)).Nodup) := by
  obtain ⟨latching, persisted, hcommitted⟩ := commitRun_eq_ok ok
  have hrun := deskRun_of_history h
  refine ⟨fun row hrow hr hcase member hm => ?_, fun distinct => ?_⟩
  · have hne : row.status ≠ .suppressed := by
      rcases hcase with ⟨rfl, new⟩ | hpending
      · exact ne_suppressed_of_new hcommitted hrow new
      · rw [hpending]
        decide
    have hconfirmed : Confirmed member.conditionId member.episodeId events :=
      ofConfirmed_commit hrun hcommitted (ofConfirmed_of_history h) row hrow hr hne
        ⟨member.conditionId, member.episodeId, row.transition⟩ (List.mem_map.mpr ⟨member, hm, rfl⟩)
    exact ⟨hconfirmed, fun distinct => hconfirmed.undisputed (hrun.sound distinct)⟩
  · exact ((deskRun_of_history (h.commit ok)).sound distinct).once

/-- The API condition recovers after its alert was delivered. -/
def apiRecovery : Except StoreError (ApiAlert × Committed) := do
  let alert ← apiAlert (.delivered 200 "request")
  let committed ← alert.recorded.commitRun (fun _ => "resolution") (apiReport "second" .clear 4) apiConfig 4
    (second 0) false
  return (alert, committed)

/-- The resolution of the API condition is pending, and its alert was delivered. -/
theorem resolution_confirmed_delivered : ∃ (events : List Event) (store : StateStore) (committed : Committed)
    (row : OutboxRow), History events store ∧ row ∈ committed.store.notificationOutbox.rows ∧
    row.transition = .resolution ∧ row.status = .pending ∧ Confirmed "target:one:api" "first" events ∧
    Undisputed events store (apiAnnouncement .alert) := by
  have hrecovery : apiRecovery.toOption.any (fun recovery => decide recovery.1.Announces &&
      recovery.2.store.notificationOutbox.rows.any fun row => row.transition = .resolution ∧ row.status = .pending ∧
        row.conditions.rows.map (fun member => (member.conditionId, member.episodeId)) =
          [("target:one:api", "first")]) = true := by decide +kernel
  obtain ⟨⟨alert, committed⟩, h, hrun⟩ := Fallible.ok_of_any hrecovery
  obtain ⟨hannounces, hany⟩ := (Bool.and_eq_true ..).mp hrun
  obtain ⟨row, hrow, hmem⟩ := List.any_eq_true.mp hany
  obtain ⟨hkind, hpending, hmembers⟩ := of_decide_eq_true hmem
  simp only [apiRecovery, Fallible.bind_eq_ok_iff] at h
  obtain ⟨alert', halert, committed', hcommit, h⟩ := h
  obtain ⟨rfl, rfl⟩ := Prod.mk.inj (Except.ok.inj h)
  obtain ⟨queued, hhistory⟩ := history_apiAlert halert (of_decide_eq_true hannounces)
  obtain ⟨member, hmember, hpair⟩ : ∃ member ∈ row.conditions.rows,
      (member.conditionId, member.episodeId) = ("target:one:api", "first") := by
    refine List.mem_map.mp ?_
    rw [hmembers]
    exact List.mem_cons_self
  obtain ⟨hconfirmed, hundisputed⟩ :=
    (resolution_confirmed hhistory hcommit).1 row hrow hkind (.inr hpending) member hmember
  obtain ⟨hc, he⟩ := Prod.mk.inj hpair
  rw [hc, he] at hconfirmed hundisputed
  exact ⟨_, alert'.recorded, committed', row, hhistory, hrow, hkind, hpending, hconfirmed,
    hundisputed (List.nodup_singleton "first")⟩

end Sentinel
