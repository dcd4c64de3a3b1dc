/-
# What an attempt sends, and when

Every attempt posts the title and the priority of its kind and the lines of its
members, whatever the runs and the cancellations that made its message. After a
transmission that is to be retried, the announcements wait: their messages keep
the deadline through every replacement, and are not claimed before it.

Key theorems: `posted_form`, `retries_wait`.
-/
import Sentinel.Notify.Transmissions

namespace Sentinel

open Collections

/-! ### A claim -/

/-- A message that is claimed was admitted. -/
theorem admitted_of_claim {store store' : StateStore} {uuid messageId executingRunId : String} {startedAt : Timestamp}
    {attempt : NotificationAttempt} {row : OutboxRow} (found : store.notificationOutbox.find? messageId = some row)
    (ok : store.beginNotificationAttempt uuid messageId startedAt executingRunId = .ok (store', attempt)) :
    (row.Unsent ∧ ∀ retry ∈ row.nextRetryAt, retry ≤ startedAt) ∧ row.members ≠ [] ∧
      (row.message = notificationPayload row.members ∧ row.message.length ≤ notificationLimit) ∧
      attempt.message.title = row.title ∧ attempt.message.message = row.message ∧
      attempt.message.priority = row.priority := by
  simp only [StateStore.beginNotificationAttempt, StateStore.admitAttempt, StateStore.loadOutboxMessage,
    OutboxRow.toMessage, Fallible.bind_eq_ok_iff, constraint_eq_ok_iff, Fallible.ensure_eq_ok_iff, decide_eq_true_eq] at ok
  obtain ⟨started, hstarted, stored, ⟨row₁, hfound₁, priority, hpriority, hstored⟩, row₂, hfound₂, _, hadmit, inserted, -,
    recorded, -, h⟩ := ok
  obtain rfl := Option.some.inj (found.symm.trans hfound₁)
  obtain rfl := Option.some.inj (found.symm.trans hfound₂)
  obtain ⟨_, -, _, -, _, -, _, ⟨hunsent, hdue, -⟩, _, ⟨hmembers, -⟩, hpayload, hlength⟩ := hadmit
  obtain rfl := canonicalTimestamp_eq_ok hstarted
  obtain rfl := Except.ok.inj hstored
  obtain ⟨-, rfl⟩ := Prod.mk.inj (Except.ok.inj h)
  have hsame : priority = row.priority := by
    unfold i8FromI64 at hpriority
    split at hpriority
    · exact (Except.ok.inj hpriority).symm
    · cases hpriority
  exact ⟨⟨hunsent, hdue⟩, hmembers, ⟨hpayload.symm, hpayload ▸ hlength⟩, rfl, rfl, hsame⟩

/-! ### What is posted -/

def TransitionKind.title : TransitionKind → String
  | .alert => "AdGuard anomaly detected"
  | .resolution => "AdGuard anomaly resolved"

/-- The priority as it is posted. -/
def TransitionKind.priorityText : TransitionKind → String
  | .alert => "0"
  | .resolution => "-1"

/-- A message has the title and the priority of its kind. -/
structure Labelled (row : OutboxRow) : Prop where
  title : row.title = row.transition.title
  priority : row.priority = match row.transition with
    | .alert => 0
    | .resolution => -1

theorem labelled_cancellable : Cancellable Labelled where
  cancelled _ h _ := ⟨h.title, h.priority⟩
  replaced _ _ _ _ h _ _ _ := ⟨h.title, h.priority⟩

/-- **Every message has the title and the priority of its kind.** -/
theorem labelled_of_history {events : List Event} {store : StateStore} (h : History events store) :
    ∀ row ∈ store.notificationOutbox.rows, Labelled row := by
  induction h with
  | start =>
    intro row hrow
    cases hrow
  | commit _ ok ih =>
    obtain ⟨latching, persisted, hcommitted⟩ := commitRun_eq_ok ok
    refine hcommitted.forall_rows labelled_cancellable ih fun message hm row hrow => ?_
    obtain ⟨built, kind, batch, hbatch, -⟩ := hcommitted.batch_of_mem hm
    obtain ⟨uuid, rfl⟩ := hbatch.header
    rw [hrow.header]
    exact ⟨by cases kind <;> rfl, rfl⟩
  | claim _ _ ok ih => exact forall_rows_claim ok ih fun row attempts hrow _ _ => ⟨hrow.title, hrow.priority⟩
  | record _ _ ok ih => exact forall_rows_record ok ih fun row next hrow _ _ _ _ => ⟨hrow.title, hrow.priority⟩
  | recover _ _ ok ih =>
    obtain ⟨attempt, report, -, hrecord⟩ := StateStore.recoverAttempt_eq_ok ok
    exact forall_rows_record hrecord ih fun row next hrow _ _ _ _ => ⟨hrow.title, hrow.priority⟩
  | refresh _ ok ih =>
    obtain ⟨⟨runs, rfl⟩, -⟩ := StateStore.refreshRunDelivery_eq_ok ok
    exact ih

/-- **A post tells what its message announces and no more.** Every attempt of
every history posts five fields: the two secrets of the client, the title and
the priority of the message's kind, and the lines of its members, of which
there is one at least and which together stay within the limit. -/
theorem posted_form {events : List Event} {store store' : StateStore} (h : History events store)
    {uuid messageId executingRunId : String} {startedAt : Timestamp} {attempt : NotificationAttempt}
    (ok : store.beginNotificationAttempt uuid messageId startedAt executingRunId = .ok (store', attempt))
    (client : PushoverClient) :
    ∃ row, store.notificationOutbox.find? messageId = some row ∧ row.members ≠ [] ∧
      (notificationPayload row.members).length ≤ notificationLimit ∧
      (client.post attempt.message).form = [("token", client.applicationToken), ("user", client.userKey),
        ("title", row.transition.title), ("message", notificationPayload row.members),
        ("priority", row.transition.priorityText)] := by
  obtain ⟨row, _, _, _, found, -⟩ := StateStore.beginNotificationAttempt_eq_ok ok
  obtain ⟨-, hmembers, ⟨hmessage, hlength⟩, htitle, htext, hpriority⟩ := admitted_of_claim found ok
  have hlabelled := labelled_of_history h row (Table.find?_eq_some_iff.mp found).1
  refine ⟨row, found, hmembers, hmessage ▸ hlength, ?_⟩
  have hpriority : (if attempt.message.priority = -1 then "-1" else "0") = row.transition.priorityText := by
    rw [hpriority, hlabelled.priority]
    cases row.transition <;> rfl
  rw [PushoverClient.post, htitle, htext, hpriority, hlabelled.title, hmessage]

/-- The alert of the API condition, posted. -/
theorem posted_form_alert : ∃ (store : StateStore) (row : OutboxRow) (attempt : NotificationAttempt),
    row ∈ store.notificationOutbox.rows ∧
    (PushoverClient.post ⟨Pushover.endpoint, "application", "reader"⟩ attempt.message).form =
      [("token", "application"), ("user", "reader"), ("title", row.transition.title),
        ("message", notificationPayload row.members), ("priority", row.transition.priorityText)] := by
  have hany : (apiAlert (.delivered 200 "request")).toOption.any (fun alert => decide alert.Announces) = true := by
    decide +kernel
  obtain ⟨alert, h, -⟩ := Fallible.ok_of_any hany
  obtain ⟨attempt, report, hcommit, hclaim, -⟩ := apiAlert_eq_ok h
  obtain ⟨row, hrow, -, -, hform⟩ :=
    posted_form (History.start.commit hcommit) hclaim ⟨Pushover.endpoint, "application", "reader"⟩
  exact ⟨_, row, attempt, (Table.find?_eq_some_iff.mp hrow).1, hform⟩

/-! ### When it is retried -/

/-- Five seconds. -/
abbrev retryDelay : ℤ := 5 * nanosecondsPerSecond

/-- The deadline of a result that is to be retried. -/
theorem nextRetryAt_eq {completedAt : Timestamp} {next : Option Timestamp}
    (h : nextRetryAt .retryable completedAt = .ok next) :
    ∃ deadline, next = some deadline ∧ deadline.nanoseconds = completedAt.nanoseconds + retryDelay := by
  unfold nextRetryAt at h
  rw [if_pos rfl] at h
  simp only [Fallible.bind_eq_ok_iff, Fallible.demand_eq_ok_iff] at h
  obtain ⟨deadline, hdeadline, h⟩ := h
  refine ⟨deadline, (Except.ok.inj h).symm, ?_⟩
  dsimp only [Timestamp.new] at hdeadline
  split at hdeadline
  case isFalse => cases hdeadline
  obtain rfl := Option.some.inj hdeadline
  have hsplit := Int.mul_tdiv_add_tmod completedAt.nanoseconds nanosecondsPerSecond
  show (completedAt.asSecond + 5) * nanosecondsPerSecond + completedAt.subsecNanosecond =
    completedAt.nanoseconds + 5 * nanosecondsPerSecond
  unfold Timestamp.asSecond Timestamp.subsecNanosecond
  rw [add_mul, mul_comm (completedAt.nanoseconds.tdiv nanosecondsPerSecond)]
  omega

variable {decode : PushoverDecoder} {transmissions : List Transmission} {events : List Event} {store : StateStore}

/-- The last transmission that has ended of an announcement. -/
def lastOf (transmissions : List Transmission) (a : Announcement) : Option Transmission :=
  transmissions.find? fun transmission => a ∈ transmission.announcements

/-- A message that may be sent waits for what it announces. -/
def Waits (transmissions : List Transmission) (row : OutboxRow) : Prop :=
  row.Unsent → ∀ a ∈ row.announcements, ∀ transmission, lastOf transmissions a = some transmission →
    ∃ deadline, row.nextRetryAt = some deadline ∧
      transmission.completedAt.nanoseconds + retryDelay ≤ deadline.nanoseconds

theorem waits_cancellable (transmissions : List Transmission) : Cancellable (Waits transmissions) where
  cancelled _ _ _ hu := absurd hu (by simp [OutboxRow.Unsent, StateStore.cancelledRow])
  replaced row conditionId uuid conditions h hu _ hc _ a ha := by
    refine h hu a ?_
    obtain ⟨hkind, member, hm, hid⟩ := mem_announcements.mp ha
    refine mem_announcements.mpr ⟨hkind, member, ?_, hid⟩
    rw [hc] at hm
    exact mem_orderBy.mp (List.mem_of_mem_filter hm)

/-- Two messages that are not cancelled announce nothing in common. -/
theorem WireHistory.apart (h : WireHistory decode transmissions events store) (distinct : (runIds events).Nodup)
    {row other : OutboxRow} (hrow : row ∈ store.notificationOutbox.rows) (hother : other ∈ store.notificationOutbox.rows)
    (uncancelled : row.status ≠ .cancelled) (uncancelled' : other.status ≠ .cancelled) {a : Announcement}
    (ha : a ∈ row.announcements) (ha' : a ∈ other.announcements) : row = other := by
  have hone := ((deskRun_of_history h.history).sound distinct).length_messagesOf_le a
  have hmem : ∀ found ∈ store.notificationOutbox.rows, found.status ≠ .cancelled → a ∈ found.announcements →
      found ∈ messagesOf a.conditionId a.episodeId a.kind (fun status => status ≠ .cancelled) store := by
    intro found hfound hne hannounced
    obtain ⟨hkind, hholds⟩ := mem_announcements.mp hannounced
    exact List.mem_filter.mpr ⟨hfound, by simp [hne, hkind, hholds]⟩
  have hfirst := hmem row hrow uncancelled ha
  have hsecond := hmem other hother uncancelled' ha'
  obtain ⟨only, honly⟩ := List.length_eq_one_iff.mp (le_antisymm hone (List.length_pos_of_mem hfirst))
  rw [honly, List.mem_singleton] at hfirst hsecond
  rw [hfirst, hsecond]

/-- A result leaves every message waiting, when its transmission has the time
of a result that is to be retried. -/
theorem WireHistory.waits_settle (h : WireHistory decode transmissions events store) (distinct : (runIds events).Nodup)
    (waits : ∀ row ∈ store.notificationOutbox.rows, Waits transmissions row) {store' : StateStore}
    {attempt : NotificationAttempt} {completedAt : Timestamp} {outcome : NotificationAttemptOutcome}
    {report : NotificationReport} {row : OutboxRow} {transmission : Transmission}
    (found : store.notificationOutbox.find? attempt.message.id = some row)
    (ok : store.recordNotificationAttempt attempt completedAt outcome = .ok (store', report))
    (announces : transmission.announcements = row.announcements)
    (timed : outcome.status = .retryable → transmission.completedAt = completedAt) :
    ∀ row ∈ store'.notificationOutbox.rows, Waits (transmission :: transmissions) row := by
  obtain ⟨row', next, _, _, _, found', hstatus, -, -, hnext, hexchange, -⟩ :=
    StateStore.recordNotificationAttempt_eq_ok ok
  obtain rfl := Option.some.inj (found.symm.trans found')
  have hrow := (Table.find?_eq_some_iff.mp found).1
  intro other hother hu a ha last hlast
  rw [lastOf, List.find?_cons, announces] at hlast
  rcases hexchange.mem_iff hother with rfl | ⟨hold, hne⟩
  · -- the message itself is to be retried
    have hretry : outcome.status = .retryable := by
      have hunsent : outcome.status ∈ [NotificationStatus.pending, .retryable] := hu
      cases outcome <;> simp [NotificationAttemptOutcome.status] at hunsent ⊢
    have hmem : a ∈ row.announcements := ha
    simp only [hmem, decide_true] at hlast
    obtain rfl := Option.some.inj hlast
    rw [hretry] at hnext
    obtain ⟨deadline, rfl, hdeadline⟩ := nextRetryAt_eq hnext
    exact ⟨deadline, rfl, by rw [timed hretry, hdeadline]⟩
  · -- another message announces something else
    have hapart : a ∉ row.announcements := by
      intro hmem
      have hsent : other.status ≠ .cancelled := fun hcancelled => by simp [OutboxRow.Unsent, hcancelled] at hu
      exact hne (congrArg OutboxRow.id (h.apart distinct hold hrow hsent (by simp [hstatus]) ha hmem))
    simp only [hapart, decide_false] at hlast
    exact waits other hold hu a ha last hlast

/-- **What may be sent waits for what was transmitted.** -/
theorem WireHistory.waits (h : WireHistory decode transmissions events store) (distinct : (runIds events).Nodup) :
    ∀ row ∈ store.notificationOutbox.rows, Waits transmissions row := by
  induction h with
  | start =>
    intro row hrow
    cases hrow
  | @commit transmissions events store uuids report config now cutoff suppress committed h ok ih =>
    obtain ⟨latching, persisted, hcommitted⟩ := commitRun_eq_ok ok
    have hrest := (List.nodup_cons.mp distinct).2
    refine hcommitted.forall_rows (waits_cancellable _) (ih hrest) fun message hm row hrow _ a ha transmission hlast => ?_
    -- what is announced for the first time has not been transmitted
    have htransmitted := h.ended transmission (List.mem_of_find?_eq_some hlast)
    have hearlier : a ∈ created events := mem_created_of_mem_queuedBy
      ((((deskRun_of_history h.history).sound hrest).ended _ _ htransmitted).2 a
        (by simpa using List.find?_some hlast))
    have honce := ((deskRun_of_history (h.commit ok).history).sound distinct).once
    exact absurd rfl ((List.nodup_append.mp honce).2.2 a (announcements_of_isQueued hm hrow ha).1 a hearlier)
  | claim _ _ ok ih =>
    refine forall_rows_claim ok (ih distinct) fun row attempts _ _ _ hu => ?_
    exact absurd hu (by simp [OutboxRow.Unsent, StateStore.claimedRow])
  | record h found ok ih => exact h.waits_settle distinct (ih distinct) found ok rfl fun _ => rfl
  | recover h found ok ih =>
    obtain ⟨attempt, report, hid, hrecord⟩ := StateStore.recoverAttempt_eq_ok ok
    exact h.waits_settle distinct (ih distinct) (hid ▸ found) hrecord rfl fun hretry => absurd hretry (by decide)
  | refresh _ ok ih =>
    obtain ⟨⟨runs, rfl⟩, -⟩ := StateStore.refreshRunDelivery_eq_ok ok
    exact ih distinct

/-- **Retries wait.** In any history over the wire, a message that is claimed
and announces what was transmitted before is claimed five seconds at least
after the last transmission of it was recorded, whatever replaced its message
since; and that transmission certainly missed the provider. -/
theorem retries_wait (h : WireHistory decode transmissions events store) (distinct : (runIds events).Nodup)
    {store' : StateStore} {uuid messageId executingRunId : String} {startedAt : Timestamp} {attempt : NotificationAttempt}
    {row : OutboxRow} (found : store.notificationOutbox.find? messageId = some row)
    (ok : store.beginNotificationAttempt uuid messageId startedAt executingRunId = .ok (store', attempt)) :
    ∀ a ∈ row.announcements, ∀ transmission, lastOf transmissions a = some transmission →
      transmission.Missed ∧ transmission.completedAt.nanoseconds + retryDelay ≤ startedAt.nanoseconds := by
  intro a ha transmission hlast
  have hrow := (Table.find?_eq_some_iff.mp found).1
  obtain ⟨⟨hunsent, hdue⟩, -⟩ := admitted_of_claim found ok
  obtain ⟨deadline, hdeadline, hafter⟩ := h.waits distinct row hrow hunsent a ha transmission hlast
  refine ⟨?_, hafter.trans (hdue deadline hdeadline)⟩
  have hactive : row.status ∈ [.pending, .retryable, .inFlight] := by
    have hstatus : row.status ∈ [.pending, .retryable] := hunsent
    simp only [List.mem_cons, List.not_mem_nil, or_false] at hstatus ⊢
    tauto
  exact h.missed distinct hrow hactive (List.mem_of_find?_eq_some hlast) ha (by simpa using List.find?_some hlast)

/-- A message whose connection failed at second 3 is claimed at second 9. -/
theorem retries_wait_resent : ∃ (events : List Event) (store store' : StateStore) (attempt : NotificationAttempt),
    WireHistory takingDecoder [⟨[apiAnnouncement .alert], some unreached, second 3⟩] events store ∧
    store.beginNotificationAttempt "again" "message" (second 9) "first" = .ok (store', attempt) ∧
    (second 3).nanoseconds + retryDelay ≤ (second 9).nanoseconds := by
  have hany : apiResent.toOption.any (fun resent => decide resent.Announces) = true := by decide +kernel
  obtain ⟨resent, h, hannounces⟩ := Fallible.ok_of_any hany
  obtain ⟨hannounces, hrecorded, -⟩ := of_decide_eq_true hannounces
  obtain ⟨attempt, report, halert, hclaim, -⟩ := apiResent_eq_ok h
  obtain ⟨queued, hunreached⟩ := wireHistory_unreached halert hannounces
  obtain ⟨row, _, _, _, found, -⟩ := StateStore.beginNotificationAttempt_eq_ok hclaim
  have hmem : apiAnnouncement .alert ∈ row.announcements := by
    rw [announcements_of_found hrecorded found]
    exact List.mem_cons_self
  have hwait := retries_wait hunreached (List.nodup_singleton "first") found hclaim _ hmem
    ⟨[apiAnnouncement .alert], some unreached, second 3⟩ (List.find?_cons_of_pos (by simp))
  exact ⟨_, _, _, _, hunreached, hclaim, hwait.2⟩

end Sentinel
