/-
# Checks after a migration

A migrated file of version 1 has nothing to send and every latch in an
episode, so its database is coherent, and the checks that follow go on from it
as from an empty one. What version 1 queued is not sent, a resolution needs an
alert that was delivered, before or since, and nothing is announced twice.

Key theorems: `AtRest.of_migration`, `coherent_afterwards`, `once_afterwards`.
-/
import Sentinel.Delivery.Resumed
import Sentinel.Migration.History

namespace Sentinel

open Collections CrashTxn

section Migrated

variable {packages : Packages} {checksum : ℤ → String} {appliedAt : ℤ → Timestamp} {version : ℤ}
  {source : LegacyTables UpstreamTable} {result : Tables Timestamp CountedUpstreamTable}

/-- **What a migration from version 1 leaves**: its tables carried over, with
every message and every latch settled. -/
theorem migrated_eq_ok {written : List StateFile}
    (h : migrate packages checksum appliedAt version (.v1 source) = (written, .ok ((), .v3 result))) :
    Carried packages source result ∧
      List.Forall₂ (MessageSettled source) source.notificationOutbox.rows result.notificationOutbox.rows ∧
      List.Forall₂ (LatchSettled result) source.conditionState.rows result.conditionState.rows := by
  rcases migrate_cases packages checksum appliedAt version (.v1 source) with ⟨error, herror⟩ | ⟨result', hresult, htransaction⟩
  · rw [herror] at h
    cases h
  rw [hresult] at h
  obtain ⟨-, hfile⟩ := Prod.mk.inj h
  obtain rfl := StateFile.v3.inj (Prod.mk.inj (Except.ok.inj hfile)).2
  have hcarried : Carried packages source result' := carriedTo_migrateTransaction htransaction
  simp only [migrateTransaction, Fallible.bind_eq_ok_iff] at htransaction
  obtain ⟨upstreams, -, migrated, hmigrate, hfinish⟩ := htransaction
  obtain ⟨hmessages, hlatches⟩ := settled_migrateToV2 hmigrate
  obtain ⟨migrations, rfl⟩ := finishMigration_eq_ok hfinish
  refine ⟨{ hcarried with }, ?_, ?_⟩
  · refine hmessages.imp fun message row hm => ⟨hm.id, hm.final, hm.status, fun hdelivered => ?_⟩
    obtain ⟨hmembers, htext, hlength, haccepted⟩ := hm.proved hdelivered
    exact ⟨hmembers, htext, hlength, haccepted⟩
  · exact hlatches.imp fun _ _ hlatch => ⟨hlatch.conditionId, hlatch.settled, hlatch.delivered⟩

/-- A latch of the migrated database, and what version 1 had of it. -/
theorem exists_of_latchView (hcarried : Carried packages source result)
    (hlatches : List.Forall₂ (LatchSettled result) source.conditionState.rows result.conditionState.rows)
    (conditionId : String) :
    latchView result.store conditionId = ⟨.clear, .never, none⟩ ∨
      ∃ latch ∈ source.conditionState.rows, ∃ row, LatchCarried packages latch row ∧ LatchSettled result latch row ∧
        latch.conditionId = conditionId ∧ latchView result.store conditionId = row.nested.view := by
  unfold latchView
  cases hfind : result.store.conditionState.find? conditionId with
  | none => exact .inl rfl
  | some state =>
    obtain ⟨hstate, hid⟩ := Table.find?_eq_some_iff.mp hfind
    obtain ⟨row, hrow, rfl⟩ := List.mem_map.mp hstate
    obtain ⟨latch, hlatch, hsettled, hcarried⟩ := Fallible.exists_of_forall₂_right
      (List.Forall₂.mp (fun _ _ hsettled hcarried => And.intro hsettled hcarried) hlatches hcarried.conditionState) row hrow
    exact .inr ⟨latch, hlatch, row, hcarried, hsettled, hsettled.conditionId.symm.trans hid, rfl⟩

/-- **Nothing of a migrated outbox is to be sent.** -/
theorem AtRest.of_migration
    (hmessages : List.Forall₂ (MessageSettled source) source.notificationOutbox.rows result.notificationOutbox.rows) :
    AtRest result.store.ledger := by
  intro entry hm
  obtain ⟨nested, hnested, hentry⟩ := mem_liveEntries.mp hm
  obtain ⟨row, hrow, rfl⟩ := List.mem_map.mp hnested
  obtain ⟨message, -, hsettled⟩ := Fallible.exists_of_forall₂_right hmessages row hrow
  have hinFlight : row.status ≠ .inFlight := by
    rcases hsettled.status with hsame | ⟨hunknown, -⟩
    · exact hsame ▸ message.status_check
    · rw [hunknown]
      decide
  obtain ⟨-, member, -, rfl⟩ := mem_live.mp hentry
  show isActive row.status = false
  simp [isActive, hsettled.final, hinFlight]

end Migrated

/-! ### The checks that follow -/

/-- A database that checks have left of another, each of which may have died
anywhere. -/
inductive CheckedSince (first : StateStore) : StateStore → Prop
  | start : CheckedSince first first
  | check {store store' : StateStore} (inputs : CheckInputs) (h : CheckedSince first store)
      (left : store' ∈ crashStates (checkWithSink inputs) store) : CheckedSince first store'

/-- **What every transaction keeps** holds after the checks if it held before. -/
theorem CheckedSince.kept {I : StateStore → Prop} {first store : StateStore} (h : CheckedSince first store)
    (kept : Kept I) (start : I first) : I store := by
  induction h with
  | start => exact start
  | check inputs _ left ih => exact (spec_check kept inputs).crash ih left

section Afterwards

variable {packages : Packages} {checksum : ℤ → String} {appliedAt : ℤ → Timestamp} {version : ℤ}
  {source : LegacyTables UpstreamTable} {result : Tables Timestamp CountedUpstreamTable} {written : List StateFile}

/-- A migrated database has nothing to send, and owes nothing. -/
theorem atRest_migrated
    (h : migrate packages checksum appliedAt version (.v1 source) = (written, .ok ((), .v3 result))) :
    AtRest result.store.ledger ∧ ∀ conditionId, (latchView result.store conditionId).InEpisode ∧
      (latchView result.store conditionId).delivery ≠ .pending := by
  obtain ⟨hcarried, hmessages, hlatches⟩ := migrated_eq_ok h
  refine ⟨.of_migration hmessages, fun conditionId => ?_⟩
  rcases exists_of_latchView hcarried hlatches conditionId with hnone | ⟨latch, -, row, hrow, hsettled, -, hview⟩
  · rw [hnone]
    exact ⟨fun hlatched => absurd rfl hlatched, by decide⟩
  · rw [hview]
    refine ⟨fun _ => ?_, hsettled.settled⟩
    show row.episodeId.isSome
    rw [hrow.episode]
    rfl

theorem coherent_migrated
    (h : migrate packages checksum appliedAt version (.v1 source) = (written, .ok ((), .v3 result))) :
    Coherent result.store := by
  obtain ⟨hrest, hlatches⟩ := atRest_migrated h
  refine ⟨fun conditionId => ?_, fun conditionId => (hlatches conditionId).1⟩
  rw [LatchView.owed_of_ne (hlatches conditionId).2, activeOf, Multiset.map_eq_zero, Multiset.filter_eq_nil]
  rintro entry hm ⟨-, hactive⟩
  rw [hrest entry hm] at hactive
  cases hactive

/-- **After a migration the outbox holds what the latches owe**, wherever the
checks that follow die, and they have a history from the migrated database on. -/
theorem coherent_afterwards
    (h : migrate packages checksum appliedAt version (.v1 source) = (written, .ok ((), .v3 result)))
    {store : StateStore} (hchecked : CheckedSince result.store store) :
    Coherent store ∧ HasResumed result.store store :=
  ⟨hchecked.kept kept_coherent (coherent_migrated h), hchecked.kept (kept_hasResumed _) ⟨_, .start⟩⟩

/-- **Nothing is sent twice over a migration.** In any history from a migrated
database on, what is claimed was queued since, and a resolution is of an alert
that was delivered, since or as version 1 proves. If the run ids are distinct
and none is named as an episode of version 1, nothing is announced twice, and
an announcement whose attempt ended otherwise than to be retried is not sent
again. -/
theorem once_afterwards
    (h : migrate packages checksum appliedAt version (.v1 source) = (written, .ok ((), .v3 result)))
    {events : List Event} {store : StateStore} (hresumed : Resumed result.store events store) :
    (∀ announcements, .claimed announcements ∈ events → ∀ a ∈ announcements, a ∈ queuedBy false events ∧
      (a.kind = .resolution → Confirmed a.conditionId a.episodeId events ∨
        ∃ latch ∈ source.conditionState.rows, latch.conditionId = a.conditionId ∧
          a.episodeId = legacyEpisode (latch.lastTransitionRun.getD "state") latch.conditionId ∧
          latch.alertDeliveryState = .delivered ∧ result.Vouches latch)) ∧
    ((runIds events).Nodup → (∀ id ∈ runIds events, ∀ runId conditionId, id ≠ legacyEpisode runId conditionId) →
      (created events).Nodup ∧
        ∀ announcements status, .ended announcements status ∈ events → status ≠ .retryable → ∀ a ∈ announcements,
          ∀ row ∈ store.notificationOutbox.rows, a ∈ row.announcements →
            row.status ∉ [.pending, .retryable, .inFlight]) := by
  obtain ⟨hcarried, -, hlatches⟩ := migrated_eq_ok h
  obtain ⟨hrest, hviews⟩ := atRest_migrated h
  have hfirst := fun conditionId => (hviews conditionId).1
  refine ⟨fun announcements hclaimed a ha => ?_, fun distinct fresh => ?_⟩
  · have hsendable := hresumed.claimed hrest hfirst announcements hclaimed a ha
    refine ⟨hsendable.queued, fun hk => (hsendable.confirmed hk).imp_right fun ⟨hdelivered, hepisode⟩ => ?_⟩
    rcases exists_of_latchView hcarried hlatches a.conditionId with hnone | ⟨latch, hlatch, row, hrow, hsettled, hid, hview⟩
    · rw [hnone] at hdelivered
      cases hdelivered
    · rw [hview] at hdelivered hepisode
      obtain ⟨hwas, hvouches⟩ := hsettled.delivered hdelivered
      exact ⟨latch, hlatch, hid, (Option.some.inj (hrow.episode.symm.trans hepisode)).symm, hwas, hvouches⟩
  · obtain ⟨hcreated, hended⟩ := hresumed.once hrest hfirst distinct fun id hm conditionId hepisode => by
      rcases exists_of_latchView hcarried hlatches conditionId with hnone | ⟨latch, -, row, hrow, -, -, hview⟩
      · rw [hnone] at hepisode
        cases hepisode
      · rw [hview] at hepisode
        exact fresh id hm _ _ (Option.some.inj (hepisode.symm.trans hrow.episode))
    exact ⟨hcreated, fun announcements status hmem hne a ha row hrow hannounces =>
      of_decide_eq_false (hended announcements status hmem hne a ha row hrow hannounces)⟩

end Afterwards

/-- A run that finds the condition of the migrated latch clear. -/
def recoveredReport : RunReport := { apiReport "next" .clear 4 with evaluations := [{ apiEvaluation .clear with id := "c" }] }

/-- The resolution of the migrated latch, queued and claimed. -/
def StateFile.resolve : StateFile → Except StoreError (Committed × StateStore)
  | .v3 tables => do
    let committed ← tables.store.commitRun (fun _ => "resolution") recoveredReport apiConfig 4 (second 0) false
    let (claimed, _) ← committed.store.beginNotificationAttempt "attempt" "resolution" (second 5) "next"
    return (committed, claimed)
  | _ => .error .sqlite

/-- The alert that version 1 delivered is resolved. -/
theorem once_afterwards_resolved : ∃ written result events store,
    legacyMigration "run" (some "run") = (written, .ok ((), .v3 result)) ∧ Resumed result.store events store ∧
    .claimed [⟨"c", "legacy:run:c", .resolution⟩] ∈ events ∧
    ∃ latch ∈ (legacyAlert "run" (some "run")).conditionState.rows, result.Vouches latch := by
  have hrun : (legacyMigration "run" (some "run")).2.toOption.any (fun out => (out.2.resolve).toOption.any fun resolved =>
      decide ((resolved.1.store.notificationOutbox.find? "resolution").map (·.announcements) =
        some [⟨"c", "legacy:run:c", .resolution⟩])) = true := by decide +kernel
  obtain ⟨⟨_, file⟩, hfile, hresolved⟩ := Fallible.ok_of_any hrun
  have hmigrate : legacyMigration "run" (some "run") = ((legacyMigration "run" (some "run")).1, .ok ((), file)) :=
    Prod.ext rfl hfile
  obtain ⟨⟨committed, claimed⟩, hresolve, hannouncements⟩ := Fallible.ok_of_any hresolved
  cases file with
  | v1 tables | v2 tables => cases hresolve
  | v3 result =>
    simp only [StateFile.resolve, Fallible.bind_eq_ok_iff] at hresolve
    obtain ⟨committed', hcommit, ⟨claimed', attempt⟩, hclaim, hresolve⟩ := hresolve
    obtain ⟨rfl, rfl⟩ := Prod.mk.inj (Except.ok.inj hresolve)
    obtain ⟨row, hrow, hannounced⟩ := Option.map_eq_some_iff.mp (of_decide_eq_true hannouncements)
    have hresumed := (Resumed.start.commit hcommit).claim hrow hclaim
    rw [hannounced] at hresumed
    obtain ⟨hsent, -⟩ := once_afterwards hmigrate hresumed
    obtain ⟨hqueued, hresolution⟩ := hsent _ List.mem_cons_self _ List.mem_cons_self
    have hnone : ¬Confirmed "c" "legacy:run:c" [.claimed [⟨"c", "legacy:run:c", .resolution⟩],
        .committed "next" false committed'.announcements] := by
      rintro ⟨announcements, hm, -⟩
      simp at hm
    obtain ⟨latch, hlatch, -, -, -, hvouches⟩ := (hresolution rfl).resolve_left hnone
    exact ⟨_, result, _, _, hmigrate, hresumed, List.mem_cons_self, latch, hlatch, hvouches⟩

/-- The databases that a check leaves of a migrated file. -/
def StateFile.checked : StateFile → List StateStore
  | .v3 tables => (checkWithSink (apiCheck "next" .active 4) tables.store).1
  | _ => []

/-- The next check queues an alert of another condition, and the migrated latch
stays delivered. -/
theorem coherent_afterwards_alert : ∃ written result store,
    legacyMigration "run" (some "run") = (written, .ok ((), .v3 result)) ∧ CheckedSince result.store store ∧
    latchView store "target:one:api" = ⟨.firing, .pending, some "next"⟩ ∧
    latchView store "c" = ⟨.firing, .delivered, some "legacy:run:c"⟩ ∧ Coherent store := by
  have hrun : (legacyMigration "run" (some "run")).2.toOption.any (fun out => out.2.checked.any fun store =>
      decide (latchView store "target:one:api" = ⟨.firing, .pending, some "next"⟩ ∧
        latchView store "c" = ⟨.firing, .delivered, some "legacy:run:c"⟩)) = true := by decide +kernel
  obtain ⟨⟨_, file⟩, hfile, hchecked⟩ := Fallible.ok_of_any hrun
  have hmigrate : legacyMigration "run" (some "run") = ((legacyMigration "run" (some "run")).1, .ok ((), file)) :=
    Prod.ext rfl hfile
  obtain ⟨store, hleft, hviews⟩ := List.any_eq_true.mp hchecked
  obtain ⟨hapi, hmigrated⟩ := of_decide_eq_true hviews
  cases file with
  | v1 tables | v2 tables => cases hleft
  | v3 result =>
    have hsince : CheckedSince result.store store := .check (apiCheck "next" .active 4) .start (List.mem_cons_of_mem _ hleft)
    exact ⟨_, result, store, hmigrate, hsince, hapi, hmigrated, (coherent_afterwards hmigrate hsince).1⟩

end Sentinel
