/-
# Transmissions over the wire

A history in which every recorded outcome is read off an exchange with the
provider, with the transmissions that have ended: what each announced, and what
came back, or nothing when the process died. An announcement is transmitted
again only after an exchange that certainly missed the provider, so a provider
that takes messages in other exchanges only takes every announcement once.

Key theorems: `spec_wireHistory_check`, `WireHistory.resends`, `taken_once`.
-/
import Sentinel.Delivery.Transmission
import Sentinel.Notify.Pushover

namespace Sentinel

open Collections CrashTxn

/-- A transmission that has ended. -/
structure Transmission where
  announcements : List Announcement
  /-- What came back, unless the process died. -/
  exchange : Option (Except TransportError HttpResponse)
  /-- When it was recorded, or recovered. -/
  completedAt : Timestamp

/-- The provider was certainly not reached, or answered that it failed. -/
def Transmission.Missed (transmission : Transmission) : Prop :=
  ∃ exchange, transmission.exchange = some exchange ∧ Sentinel.Missed exchange

/-- The result that is stored of a transmission. -/
def Transmission.status (decode : PushoverDecoder) (transmission : Transmission) : NotificationStatus :=
  match transmission.exchange with
  | some exchange => (outcomeOf decode exchange).status
  | none => .unknown

/-- **A history over the wire**: the transmissions that have ended and what
happened, latest first, and the database it left. -/
inductive WireHistory (decode : PushoverDecoder) : List Transmission → List Event → StateStore → Prop
  | start : WireHistory decode [] [] .empty
  | commit {transmissions : List Transmission} {events : List Event} {store : StateStore} {uuids : ℕ → String}
      {report : RunReport} {config : Config} {now : ℤ} {cutoff : Timestamp} {suppress : Bool} {committed : Committed}
      (h : WireHistory decode transmissions events store)
      (ok : store.commitRun uuids report config now cutoff suppress = .ok committed) :
      WireHistory decode transmissions (.committed report.runId suppress committed.announcements :: events)
        committed.store
  | claim {transmissions : List Transmission} {events : List Event} {store store' : StateStore}
      {uuid messageId executingRunId : String} {startedAt : Timestamp} {attempt : NotificationAttempt} {row : OutboxRow}
      (h : WireHistory decode transmissions events store)
      (found : store.notificationOutbox.find? messageId = some row)
      (ok : store.beginNotificationAttempt uuid messageId startedAt executingRunId = .ok (store', attempt)) :
      WireHistory decode transmissions (.claimed row.announcements :: events) store'
  | record {transmissions : List Transmission} {events : List Event} {store store' : StateStore}
      {attempt : NotificationAttempt} {completedAt : Timestamp} {exchange : Except TransportError HttpResponse}
      {report : NotificationReport} {row : OutboxRow} (h : WireHistory decode transmissions events store)
      (found : store.notificationOutbox.find? attempt.message.id = some row)
      (ok : store.recordNotificationAttempt attempt completedAt (outcomeOf decode exchange) = .ok (store', report)) :
      WireHistory decode (⟨row.announcements, some exchange, completedAt⟩ :: transmissions)
        (.ended row.announcements (outcomeOf decode exchange).status :: events) store'
  | recover {transmissions : List Transmission} {events : List Event} {store store' : StateStore}
      {recoveredAt : Timestamp} {interrupted row : OutboxRow} {activity : DeliveryActivity}
      (h : WireHistory decode transmissions events store)
      (found : store.notificationOutbox.find? interrupted.id = some row)
      (ok : StateStore.recoverAttempt recoveredAt interrupted store = .ok (store', activity)) :
      WireHistory decode (⟨row.announcements, none, recoveredAt⟩ :: transmissions)
        (.ended row.announcements .unknown :: events) store'
  | refresh {transmissions : List Transmission} {events : List Event} {store store' : StateStore} {runId : String}
      (h : WireHistory decode transmissions events store) (ok : store.refreshRunDelivery runId = .ok store') :
      WireHistory decode transmissions events store'

/-- The database has a history over the wire. -/
def HasWireHistory (decode : PushoverDecoder) (store : StateStore) : Prop :=
  ∃ transmissions events, WireHistory decode transmissions events store

/-- What a message announces, it announces once. -/
theorem nodup_announcements (row : OutboxRow) : row.announcements.Nodup := by
  have hdistinct := row.conditions.distinct
  refine List.Nodup.of_map (·.conditionId) ?_
  rw [OutboxRow.announcements, List.map_map]
  exact hdistinct

variable {decode : PushoverDecoder} {transmissions : List Transmission} {events : List Event} {store : StateStore}

namespace WireHistory

theorem history (h : WireHistory decode transmissions events store) : History events store := by
  induction h with
  | start => exact .start
  | commit _ ok ih => exact ih.commit ok
  | claim _ found ok ih => exact ih.claim found ok
  | record _ found ok ih => exact ih.record found ok
  | recover _ found ok ih => exact ih.recover found ok
  | refresh _ ok ih => exact ih.refresh ok

/-- Every transmission has ended with its result. -/
theorem ended (h : WireHistory decode transmissions events store) :
    ∀ transmission ∈ transmissions, .ended transmission.announcements (transmission.status decode) ∈ events := by
  induction h with
  | start =>
    intro transmission hm
    cases hm
  | commit _ _ ih => exact fun transmission hm => List.mem_cons_of_mem _ (ih transmission hm)
  | claim _ _ _ ih => exact fun transmission hm => List.mem_cons_of_mem _ (ih transmission hm)
  | record _ _ _ ih | recover _ _ _ ih =>
    intro transmission hm
    rcases List.mem_cons.mp hm with rfl | hm
    · exact List.mem_cons_self
    · exact List.mem_cons_of_mem _ (ih transmission hm)
  | refresh _ _ ih => exact ih

/-- What a transmission announces, it announces once. -/
theorem nodup_announcements (h : WireHistory decode transmissions events store) :
    ∀ transmission ∈ transmissions, transmission.announcements.Nodup := by
  induction h with
  | start =>
    intro transmission hm
    cases hm
  | commit _ _ ih | claim _ _ _ ih | refresh _ _ ih => exact ih
  | record _ _ _ ih | recover _ _ _ ih =>
    intro transmission hm
    rcases List.mem_cons.mp hm with rfl | hm
    · exact Sentinel.nodup_announcements _
    · exact ih transmission hm

end WireHistory

/-! ### Checks over the wire -/

section Check

variable (decode)

/-- What a check sends, it posts to the provider. -/
def OverWire (inputs : CheckInputs) : Prop := ∀ message, ∃ exchange, (inputs.send message).outcome = outcomeOf decode exchange

theorem spec_wireHistory_recover (recoveredAt : Timestamp) :
    Spec (HasWireHistory decode) (HasWireHistory decode) (StateStore.recoverInterruptedAttempts recoveredAt)
      fun _ => HasWireHistory decode := by
  unfold StateStore.recoverInterruptedAttempts
  refine .bind .reads fun recoveredAt => .bind .reads fun rows => ?_
  refine Spec.each (L := fun _ => HasWireHistory decode) (fun row rows => .keeps fun store store' activity hs ok => ?_) rows
  obtain ⟨transmissions, events, hs⟩ := hs
  obtain ⟨attempt, report, hid, hrecord⟩ := StateStore.recoverAttempt_eq_ok ok
  obtain ⟨found, _, _, _, _, hfound, -⟩ := StateStore.recordNotificationAttempt_eq_ok hrecord
  exact ⟨_, _, hs.recover (hid ▸ hfound) ok⟩

theorem spec_wireHistory_deliverPending {send : OutboxMessage → Sending}
    (wired : ∀ message, ∃ exchange, (send message).outcome = outcomeOf decode exchange) (runId : String) :
    ∀ pending, Spec (HasWireHistory decode) (HasWireHistory decode) (deliverPending send runId pending)
      fun _ => HasWireHistory decode
  | [] => .pure fun _ hs => hs
  | message :: pending => by
    obtain ⟨exchange, hexchange⟩ := wired message
    unfold deliverPending
    simp only [hexchange]
    refine .bind (spec_commitFor fun store store' attempt hs ok => ?_) fun attempt => ?_
    · obtain ⟨transmissions, events, hs⟩ := hs
      obtain ⟨row, _, _, _, found, -⟩ := StateStore.beginNotificationAttempt_eq_ok ok
      exact ⟨_, _, hs.claim found ok⟩
    refine .bind (spec_commitFor fun store store' report hs ok => ?_) fun report => ?_
    · obtain ⟨transmissions, events, hs⟩ := hs
      obtain ⟨row, _, _, _, _, found, -⟩ := StateStore.recordNotificationAttempt_eq_ok ok
      exact ⟨_, _, hs.record found ok⟩
    split
    · exact spec_wireHistory_deliverPending wired runId pending
    · exact .pure fun _ hs => hs

/-- **A check over the wire extends a history over the wire**, wherever it dies. -/
theorem spec_wireHistory_check {inputs : CheckInputs} (wired : OverWire decode inputs) :
    Spec (HasWireHistory decode) (HasWireHistory decode) (checkWithSink inputs) fun _ => HasWireHistory decode := by
  have hdeliver : ∀ runId, Spec (HasWireHistory decode) (HasWireHistory decode) (deliver inputs runId)
      fun _ => HasWireHistory decode := by
    intro runId
    unfold deliver
    split
    · exact .pure fun _ hs => hs
    · exact .bind (spec_readFor _) fun pending => .bind .reads fun _ =>
        spec_wireHistory_deliverPending decode wired runId pending
  rw [checkWithSink_eq]
  refine .bind (spec_readFor _) fun _ => .bind .reads fun _ => ?_
  refine .bind (.mapError (spec_wireHistory_recover decode _)) fun recovered => .bind .reads fun report => ?_
  refine .bind (spec_commitFor fun store store' report hs ok => ?_) fun report => .bind (hdeliver _) fun failed => ?_
  · obtain ⟨transmissions, events, hs⟩ := hs
    rw [Fallible.bind_eq_ok_iff] at ok
    obtain ⟨committed, hcommit, ok⟩ := ok
    obtain ⟨rfl, -⟩ := Prod.mk.inj (Except.ok.inj ok)
    exact ⟨_, _, hs.commit hcommit⟩
  refine .bind (spec_commitFor fun store store' _ hs ok => ?_) fun _ => .bind (spec_readFor _) fun _ => ?_
  · obtain ⟨transmissions, events, hs⟩ := hs
    rw [Fallible.bind_eq_ok_iff] at ok
    obtain ⟨refreshed, hrefresh, ok⟩ := ok
    obtain ⟨rfl, -⟩ := Prod.mk.inj (Except.ok.inj ok)
    exact ⟨_, _, hs.refresh hrefresh⟩
  · exact .pure fun _ hs => hs

end Check

/-! ### What is transmitted again -/

theorem status_eq_retryable_iff {transmission : Transmission} :
    transmission.status decode = .retryable ↔ transmission.Missed := by
  unfold Transmission.status Transmission.Missed
  cases transmission.exchange with
  | none => simp
  | some exchange => simpa using (tells_outcomeOf exchange).retryable_iff

/-- **What is in flight, or may be sent, has certainly missed the provider**
whenever it was transmitted before. -/
theorem WireHistory.missed (h : WireHistory decode transmissions events store) (distinct : (runIds events).Nodup)
    {row : OutboxRow} (hrow : row ∈ store.notificationOutbox.rows) (active : row.status ∈ [.pending, .retryable, .inFlight])
    {transmission : Transmission} (hm : transmission ∈ transmissions) {a : Announcement} (ha : a ∈ row.announcements)
    (earlier : a ∈ transmission.announcements) : transmission.Missed := by
  have hsound := (deskRun_of_history h.history).sound distinct
  have hne : row.status ≠ .cancelled := fun hcancelled => by simp [hcancelled] at active
  rw [← @status_eq_retryable_iff decode]
  by_contra hresult
  exact hsound.not_ended (mem_ledger_of_announcements hrow hne ha) active (h.ended transmission hm) hresult earlier

/-- **An announcement is transmitted again only after an exchange that missed
the provider.** -/
theorem WireHistory.resends (h : WireHistory decode transmissions events store) (distinct : (runIds events).Nodup) :
    transmissions.Pairwise fun later earlier =>
      ∀ a ∈ later.announcements, a ∈ earlier.announcements → earlier.Missed := by
  induction h with
  | start => exact .nil
  | commit _ _ ih => exact ih (List.nodup_cons.mp distinct).2
  | claim _ _ _ ih => exact ih distinct
  | record h found ok ih =>
    obtain ⟨row, _, _, _, _, hfound, hstatus, -⟩ := StateStore.recordNotificationAttempt_eq_ok ok
    obtain rfl := Option.some.inj (found.symm.trans hfound)
    refine List.pairwise_cons.mpr ⟨fun earlier hm a ha => ?_, ih distinct⟩
    exact h.missed distinct (Table.find?_eq_some_iff.mp found).1 (by simp [hstatus]) hm ha
  | recover h found ok ih =>
    obtain ⟨attempt, report, hid, hrecord⟩ := StateStore.recoverAttempt_eq_ok ok
    obtain ⟨row, _, _, _, _, hfound, hstatus, -⟩ := StateStore.recordNotificationAttempt_eq_ok hrecord
    obtain rfl := Option.some.inj (found.symm.trans (hid ▸ hfound))
    refine List.pairwise_cons.mpr ⟨fun earlier hm a ha => ?_, ih distinct⟩
    exact h.missed distinct (Table.find?_eq_some_iff.mp found).1 (by simp [hstatus]) hm ha
  | refresh _ _ ih => exact ih distinct

/-- **The provider takes every announcement once.** In any history over the wire
an announcement is transmitted again only after an exchange that certainly
missed the provider. So whichever transmissions the provider took, if it took
none of those that missed it, it took no announcement twice; and what it took
is not in flight and cannot be claimed again. -/
theorem taken_once (h : WireHistory decode transmissions events store) (distinct : (runIds events).Nodup)
    {taken : Transmission → Bool} (honest : ∀ transmission ∈ transmissions, taken transmission → ¬transmission.Missed) :
    (transmissions.Pairwise fun later earlier =>
      ∀ a ∈ later.announcements, a ∈ earlier.announcements → earlier.Missed) ∧
    ((transmissions.filter taken).flatMap (·.announcements)).Nodup ∧
    ∀ a ∈ (transmissions.filter taken).flatMap (·.announcements), ∀ messageId row,
      store.notificationOutbox.find? messageId = some row → a ∈ row.announcements → row.status ≠ .inFlight ∧
        ∀ uuid startedAt executingRunId, ∃ error,
          store.beginNotificationAttempt uuid messageId startedAt executingRunId = .error error := by
  refine ⟨h.resends distinct, ?_, ?_⟩
  · refine List.nodup_flatMap.mpr ⟨fun transmission hm => h.nodup_announcements _ (List.mem_of_mem_filter hm), ?_⟩
    refine ((h.resends distinct).filter _).imp_of_mem fun {later earlier} hlater hearlier hmissed a ha ha' => ?_
    obtain ⟨hmem, htaken⟩ := List.mem_filter.mp hearlier
    exact honest earlier hmem htaken (hmissed a ha ha')
  · intro a ha messageId row hfound hrow
    obtain ⟨transmission, hm, hannounced⟩ := List.mem_flatMap.mp ha
    obtain ⟨hmem, htaken⟩ := List.mem_filter.mp hm
    have hidle : row.status ∉ [.pending, .retryable, .inFlight] := fun hactive =>
      honest transmission hmem htaken
        (h.missed distinct (Table.find?_eq_some_iff.mp hfound).1 hactive hmem hrow hannounced)
    refine ⟨fun hflight => hidle (by simp [hflight]), fun uuid startedAt executingRunId => ?_⟩
    cases hbegin : store.beginNotificationAttempt uuid messageId startedAt executingRunId with
    | error error => exact ⟨error, rfl⟩
    | ok result =>
      obtain ⟨_, _, _, _, hfound', hunsent, -⟩ := StateStore.beginNotificationAttempt_eq_ok hbegin
      obtain rfl := Option.some.inj (hfound.symm.trans hfound')
      refine absurd ?_ hidle
      simp only [List.mem_cons, List.not_mem_nil, or_false] at hunsent ⊢
      tauto

/-! A connection that fails, and a provider that takes the message after. -/

def unreached : Except TransportError HttpResponse := .error ⟨false, true, false⟩

def taking : Except TransportError HttpResponse := .ok ⟨200, none, .piece [123] (.piece [125] .finished)⟩

def takingDecoder : PushoverDecoder := fun body => if body = [123, 125] then some ⟨1, "request"⟩ else none

/-- The alert of the API condition, transmitted twice. -/
structure ApiResent where
  alert : ApiAlert
  claimed : StateStore
  recorded : StateStore

def apiResent : Except StoreError ApiResent := do
  let alert ← apiAlert (outcomeOf takingDecoder unreached)
  let (claimed, attempt) ← alert.recorded.beginNotificationAttempt "again" "message" (second 9) "first"
  let (recorded, _) ← claimed.recordNotificationAttempt attempt (second 10) (outcomeOf takingDecoder taking)
  return ⟨alert, claimed, recorded⟩

/-- The messages of the transmissions announce the alert. -/
def ApiResent.Announces (resent : ApiResent) : Prop :=
  resent.alert.Announces ∧
    resent.alert.recorded.notificationOutbox.rows.map (·.announcements) = [[apiAnnouncement .alert]] ∧
    resent.claimed.notificationOutbox.rows.map (·.announcements) = [[apiAnnouncement .alert]]

instance (resent : ApiResent) : Decidable resent.Announces := by unfold ApiResent.Announces; infer_instance

/-- The one message that is found announces the alert. -/
theorem announcements_of_found {announcements : List Announcement} {messageId : String} {row : OutboxRow}
    (h : store.notificationOutbox.rows.map (·.announcements) = [announcements])
    (found : store.notificationOutbox.find? messageId = some row) : row.announcements = announcements := by
  have hmem := List.mem_map_of_mem (f := (·.announcements)) (Table.find?_eq_some_iff.mp found).1
  rw [h] at hmem
  exact List.mem_singleton.mp hmem

/-- The alert is transmitted in vain. -/
theorem wireHistory_unreached {alert : ApiAlert} (h : apiAlert (outcomeOf takingDecoder unreached) = .ok alert)
    (announces : alert.Announces) :
    ∃ queued, WireHistory takingDecoder [⟨[apiAnnouncement .alert], some unreached, second 3⟩]
      [.ended [apiAnnouncement .alert] .retryable, .claimed [apiAnnouncement .alert], .committed "first" false queued]
      alert.recorded := by
  obtain ⟨hcommitted, hclaimed⟩ := announces
  obtain ⟨attempt, report, hcommit, hclaim, hrecord⟩ := apiAlert_eq_ok h
  obtain ⟨row, _, _, _, found, -⟩ := StateStore.beginNotificationAttempt_eq_ok hclaim
  obtain ⟨row', _, _, _, _, found', -⟩ := StateStore.recordNotificationAttempt_eq_ok hrecord
  have hhistory := ((WireHistory.start.commit hcommit).claim found hclaim).record found' hrecord
  rw [announcements_of_found hcommitted found, announcements_of_found hclaimed found'] at hhistory
  exact ⟨_, hhistory⟩

theorem apiResent_eq_ok {resent : ApiResent} (h : apiResent = .ok resent) :
    ∃ attempt report, apiAlert (outcomeOf takingDecoder unreached) = .ok resent.alert ∧
      resent.alert.recorded.beginNotificationAttempt "again" "message" (second 9) "first" =
        .ok (resent.claimed, attempt) ∧
      resent.claimed.recordNotificationAttempt attempt (second 10) (outcomeOf takingDecoder taking) =
        .ok (resent.recorded, report) := by
  simp only [apiResent, Fallible.bind_eq_ok_iff] at h
  obtain ⟨alert, halert, ⟨claimed, attempt⟩, hclaim, ⟨recorded, report⟩, hrecord, h⟩ := h
  obtain rfl := Except.ok.inj h
  exact ⟨attempt, report, halert, hclaim, hrecord⟩

theorem wireHistory_apiResent {resent : ApiResent} (h : apiResent = .ok resent) (announces : resent.Announces) :
    ∃ queued, WireHistory takingDecoder
      [⟨[apiAnnouncement .alert], some taking, second 10⟩, ⟨[apiAnnouncement .alert], some unreached, second 3⟩]
      [.ended [apiAnnouncement .alert] .delivered, .claimed [apiAnnouncement .alert],
        .ended [apiAnnouncement .alert] .retryable, .claimed [apiAnnouncement .alert], .committed "first" false queued]
      resent.recorded := by
  obtain ⟨attempt, report, halert, hclaim, hrecord⟩ := apiResent_eq_ok h
  obtain ⟨hannounces, hrecorded, hagain⟩ := announces
  obtain ⟨queued, hunreached⟩ := wireHistory_unreached halert hannounces
  obtain ⟨row, _, _, _, found, -⟩ := StateStore.beginNotificationAttempt_eq_ok hclaim
  obtain ⟨row', _, _, _, _, found', -⟩ := StateStore.recordNotificationAttempt_eq_ok hrecord
  have hhistory := (hunreached.claim found hclaim).record found' hrecord
  rw [announcements_of_found hrecorded found, announcements_of_found hagain found'] at hhistory
  exact ⟨_, hhistory⟩

/-- The alert is taken once, the second time it is transmitted. -/
theorem taken_once_resent : ∃ (transmissions : List Transmission) (events : List Event) (store : StateStore),
    WireHistory takingDecoder transmissions events store ∧
    transmissions.map (·.exchange) = [some taking, some unreached] ∧
    ((transmissions.filter fun transmission => transmission.exchange = some taking).flatMap (·.announcements)).Nodup := by
  have hany : apiResent.toOption.any (fun resent => decide resent.Announces) = true := by decide +kernel
  obtain ⟨resent, h, hannounces⟩ := Fallible.ok_of_any hany
  obtain ⟨queued, hhistory⟩ := wireHistory_apiResent h (of_decide_eq_true hannounces)
  refine ⟨_, _, _, hhistory, rfl, (taken_once hhistory (List.nodup_singleton "first") fun transmission _ htaken => ?_).2.1⟩
  rintro ⟨exchange, hexchange, hmissed⟩
  rw [of_decide_eq_true htaken] at hexchange
  obtain rfl := Option.some.inj hexchange
  rw [← (@tells_outcomeOf takingDecoder taking).retryable_iff] at hmissed
  exact absurd hmissed (by decide +kernel)

end Sentinel
