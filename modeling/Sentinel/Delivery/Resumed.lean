/-
# A database that goes on

A database whose outbox holds nothing to send may have any past: released
state that was migrated, for one. The entries it begins with stay as they are
until retention deletes them, and apart from them its desk is one that began
with an empty ledger. So nothing that was there is sent, and what is announced
since is announced once.

Key theorems: `DeskStep.apart`, `DeskRunFrom.sound`, `Resumed.apart`, `Resumed.claimed`, `Resumed.once`.
-/
import Sentinel.Delivery.Transmission

namespace Sentinel

open Collections

/-! ### Entries at rest -/

/-- Nothing of the ledger is to be sent, or being sent. -/
def AtRest (ledger : Multiset Entry) : Prop := ∀ entry ∈ ledger, isActive entry.status = false

/-- What is moved is not of a part that has none of it. -/
theorem exists_apart {α : Type} [DecidableEq α] {old new rest moved : Multiset α} (h : old + new = rest + moved)
    (hmoved : ∀ a ∈ moved, a ∉ old) : ∃ rest', new = rest' + moved ∧ rest = old + rest' := by
  have hle : moved ≤ new := by
    rw [Multiset.le_iff_count]
    intro a
    by_cases ha : a ∈ moved
    · have hcount := congrArg (Multiset.count a) h
      rw [Multiset.count_add, Multiset.count_add, Multiset.count_eq_zero_of_notMem (hmoved a ha)] at hcount
      omega
    · rw [Multiset.count_eq_zero_of_notMem ha]
      exact Nat.zero_le _
  obtain ⟨rest', rfl⟩ := Multiset.le_iff_exists_add.mp hle
  refine ⟨rest', add_comm .., ?_⟩
  rw [add_comm moved rest', ← add_assoc] at h
  exact (add_right_cancel h).symm

/-- **A step leaves alone the entries at rest**, but for those it drops. -/
theorem DeskStep.apart {desk desk' : Desk} {event : Event} (step : DeskStep desk event desk')
    {old new : Multiset Entry} (hrest : AtRest old) (h : desk.ledger = old + new) :
    ∃ old' new', old' ≤ old ∧ desk'.ledger = old' + new' ∧
      DeskStep ⟨new, desk.latch⟩ event ⟨new', desk'.latch⟩ := by
  have hmoved : ∀ (announcements : List Announcement) (status : NotificationStatus), isActive status →
      ∀ entry ∈ (↑(announcements.map (Announcement.entry status)) : Multiset Entry), entry ∉ old := by
    intro announcements status hactive entry hm hold
    obtain ⟨a, -, rfl⟩ := List.mem_map.mp (Multiset.mem_coe.mp hm)
    have hquiet := hrest _ hold
    rw [status_entry, hactive] at hquiet
    cases hquiet
  cases step with
  | @commit _ runId suppress queued moves ledger =>
    refine ⟨desk'.ledger ∩ old, desk'.ledger - old, Multiset.inter_le_right, ?_, .commit moves ?_⟩
    · rw [add_comm, Multiset.sub_add_inter]
    · show desk'.ledger - old ≤ new + _
      rw [tsub_le_iff_left, ← add_assoc, ← h]
      exact ledger
  | @claim _ _ status _ unsent before after latch =>
    have hactive : isActive status = true := by
      simp only [isActive, List.mem_cons, List.not_mem_nil, or_false, decide_eq_true_eq] at unsent ⊢
      tauto
    obtain ⟨rest', hnew, hold⟩ := exists_apart (h.symm.trans before) (hmoved _ _ hactive)
    refine ⟨old, _, le_rfl, ?_, .claim unsent hnew rfl latch⟩
    rw [after, hold, add_assoc]
  | settle kinds result before after latch =>
    obtain ⟨rest', hnew, hold⟩ := exists_apart (h.symm.trans before) (hmoved _ _ (by decide))
    refine ⟨old, _, le_rfl, ?_, .settle kinds result hnew rfl latch⟩
    rw [after, hold, add_assoc]

/-! ### Runs from any latches -/

/-- A desk that began with these latches and an empty ledger, and its past since. -/
inductive DeskRunFrom (first : String → LatchView) : List Event → Desk → Prop
  | start : DeskRunFrom first [] ⟨0, first⟩
  | step {events : List Event} {desk desk' : Desk} {event : Event} (h : DeskRunFrom first events desk)
      (step : DeskStep desk event desk') : DeskRunFrom first (event :: events) desk'

/-- The alert of the condition and episode was recorded as delivered since, or
the first latch says that it was delivered before. -/
def ConfirmedFrom (first : String → LatchView) (conditionId episodeId : String) (events : List Event) : Prop :=
  Confirmed conditionId episodeId events ∨
    (first conditionId).delivery = .delivered ∧ (first conditionId).episode = some episodeId

namespace DeskRunFrom

variable {first : String → LatchView} {events : List Event} {desk : Desk}

theorem inEpisode (h : DeskRunFrom first events desk) (hfirst : ∀ conditionId, (first conditionId).InEpisode)
    (conditionId : String) : (desk.latch conditionId).InEpisode := by
  induction h with
  | start => exact hfirst conditionId
  | step _ step ih =>
    cases step with
    | commit moves =>
      obtain ⟨_, _, hmove, -⟩ := moves conditionId
      exact hmove.inEpisode ih
    | claim _ _ _ latch => exact latch ▸ ih
    | settle _ _ _ _ latch =>
      rw [latch, LatchView.InEpisode, (settledView_frame ..).1, (settledView_frame ..).2]
      exact ih

/-- A latch's episode is the run that began it, or the first latch's. -/
theorem latched (h : DeskRunFrom first events desk) (conditionId : String) :
    (desk.latch conditionId).episode = (first conditionId).episode ∨
      ∃ episode ∈ runIds events, (desk.latch conditionId).episode = some episode := by
  induction h with
  | start => exact .inl rfl
  | step _ step ih =>
    cases step with
    | commit moves =>
      obtain ⟨_, _, hmove, -⟩ := moves conditionId
      rcases hmove.episode with hsame | hrun
      · rw [hsame]
        exact ih.imp_right fun ⟨episode, hm, he⟩ => ⟨episode, List.mem_cons_of_mem _ hm, he⟩
      · exact .inr ⟨_, List.mem_cons_self, hrun⟩
    | claim _ _ _ latch => exact latch ▸ ih
    | settle _ _ _ _ latch =>
      rw [latch, (settledView_frame ..).2]
      exact ih

/-- **A latch reads `delivered` only for a confirmed episode.** -/
theorem confirmed (h : DeskRunFrom first events desk) (conditionId : String) {episode : String}
    (hd : (desk.latch conditionId).delivery = .delivered) (he : (desk.latch conditionId).episode = some episode) :
    ConfirmedFrom first conditionId episode events := by
  induction h with
  | start => exact .inr ⟨hd, he⟩
  | step _ step ih =>
    cases step with
    | commit moves ledger =>
      obtain ⟨kind, withdrawal, hmove, -⟩ := moves conditionId
      obtain ⟨hold, hsame⟩ := hmove.delivered hd
      exact (ih hold (hsame ▸ he)).imp_left fun hc => hc.cons _
    | claim unsent before after latch =>
      rw [latch] at hd he
      exact (ih hd he).imp_left fun hc => hc.cons _
    | @settle _ announcements kind status rest kinds _ _ _ latch =>
      rw [latch] at hd he
      rcases settledView_cases conditionId announcements (deliveredState status kind) _ with
        hsame | ⟨state, hstate, hnew, ⟨c, e, k⟩, ha, hc, hepisode⟩
      · rw [hsame] at hd he
        exact (ih hd he).imp_left fun hc => hc.cons _
      · rw [hnew] at hd he
        have hdelivered : status = .delivered ∧ kind = .alert := by
          obtain rfl : state = .delivered := hd
          cases status <;> cases kind <;> simp [deliveredState] at hstate ⊢
        obtain rfl := Option.some.inj (hepisode.symm.trans he)
        obtain rfl : c = conditionId := hc
        obtain rfl : k = .alert := (kinds _ ha).trans hdelivered.2
        exact .inl ⟨announcements, hdelivered.1 ▸ List.mem_cons_self, ha⟩

/-- What the entry announces may be sent: it was queued by a run that did not
suppress it, and a resolution is of a confirmed alert. -/
structure Sendable (first : String → LatchView) (events : List Event) (a : Announcement) : Prop where
  queued : a ∈ queuedBy false events
  confirmed : a.kind = .resolution → ConfirmedFrom first a.conditionId a.episodeId events

theorem Sendable.cons {a : Announcement} (h : Sendable first events a) (event : Event) :
    Sendable first (event :: events) a := by
  refine ⟨?_, fun hk => (h.confirmed hk).imp_left fun hc => hc.cons _⟩
  rw [queuedBy, List.flatMap_cons]
  exact List.mem_append_right _ h.queued

/-- **Every entry is suppressed or may be sent.** -/
theorem sendable (h : DeskRunFrom first events desk) (hfirst : ∀ conditionId, (first conditionId).InEpisode) :
    ∀ entry ∈ desk.ledger, entry.status ≠ .suppressed → Sendable first events entry.announcement := by
  induction h with
  | start => exact fun entry hm => (Multiset.notMem_zero _ hm).elim
  | @step events desk desk' event hrun step ih =>
    intro entry hm hs
    cases step with
    | @commit _ runId suppress queued moves ledger =>
      rcases Multiset.mem_add.mp (Multiset.mem_of_le ledger hm) with hm | hm
      · exact (ih entry hm hs).cons _
      obtain ⟨⟨conditionId, episodeId, k⟩, ha, rfl⟩ := List.mem_map.mp (Multiset.mem_coe.mp hm)
      cases suppress with
      | true => exact absurd rfl hs
      | false =>
        refine ⟨List.mem_append_left _ ha, fun hk => ?_⟩
        obtain rfl : k = .resolution := hk
        obtain ⟨kind, withdrawal, hmove, hqueued⟩ := moves conditionId
        obtain ⟨hk, he⟩ := (Sound.mem_queued_iff hqueued episodeId .resolution).mp ha
        rw [hk] at hmove
        obtain ⟨hlatched, hdelivered, hsame⟩ := hmove.confirmed
        obtain ⟨episode, hepisode⟩ := Option.isSome_iff_exists.mp (hrun.inEpisode hfirst conditionId hlatched)
        have hcurrent : episodeId = episode := by
          rw [he, hsame, hepisode]
          rfl
        rw [hcurrent]
        exact (hrun.confirmed conditionId hdelivered hepisode).imp_left fun hc => hc.cons _
    | @claim _ announcements status rest unsent before after latch =>
      rw [after] at hm
      rcases Multiset.mem_add.mp hm with hm | hm
      · exact (ih entry (before ▸ Multiset.mem_add.mpr (.inl hm)) hs).cons _
      · obtain ⟨a, ha, rfl⟩ := List.mem_map.mp (Multiset.mem_coe.mp hm)
        have hold : a.entry status ∈ desk.ledger :=
          before ▸ Multiset.mem_add.mpr (.inr (Multiset.mem_coe.mpr (List.mem_map_of_mem ha)))
        have hne : status ≠ .suppressed := fun hsuppressed => by simp [hsuppressed] at unsent
        exact (ih _ hold hne).cons _
    | @settle _ announcements kind status rest kinds result before after latch =>
      rw [after] at hm
      rcases Multiset.mem_add.mp hm with hm | hm
      · exact (ih entry (before ▸ Multiset.mem_add.mpr (.inl hm)) hs).cons _
      · obtain ⟨a, ha, rfl⟩ := List.mem_map.mp (Multiset.mem_coe.mp hm)
        have hold : a.entry .inFlight ∈ desk.ledger :=
          before ▸ Multiset.mem_add.mpr (.inr (Multiset.mem_coe.mpr (List.mem_map_of_mem ha)))
        exact (ih _ hold (by simp)).cons _

/-- **What was claimed could be sent.** -/
theorem claimed (h : DeskRunFrom first events desk) (hfirst : ∀ conditionId, (first conditionId).InEpisode) :
    ∀ announcements, .claimed announcements ∈ events → ∀ a ∈ announcements, Sendable first events a := by
  induction h with
  | start => exact fun announcements hm => nomatch hm
  | @step events desk desk' event hrun step ih =>
    intro announcements hm a ha
    rcases List.mem_cons.mp hm with rfl | hm
    · cases step with
      | @claim _ _ status rest unsent before after latch =>
        have hold : a.entry status ∈ desk.ledger :=
          before ▸ Multiset.mem_add.mpr (.inr (Multiset.mem_coe.mpr (List.mem_map_of_mem ha)))
        have hne : status ≠ .suppressed := fun hsuppressed => by simp [hsuppressed] at unsent
        exact (hrun.sendable hfirst _ hold hne).cons _
    · exact (ih announcements hm a ha).cons _

/-- Runs that queued nothing, one for each episode. -/
def before (episodes : List String) : List Event := episodes.map fun episode => .committed episode false []

theorem runIds_append_before (events : List Event) (episodes : List String) :
    runIds (events ++ before episodes) = runIds events ++ episodes := by
  have hruns : runIds (before episodes) = episodes := by
    rw [runIds, before, List.flatMap_map]
    exact List.flatMap_singleton' episodes
  rw [runIds, List.flatMap_append]
  exact congrArg _ hruns

theorem created_append_before (events : List Event) (episodes : List String) :
    created (events ++ before episodes) = created events := by
  have hnone : created (before episodes) = [] := by
    rw [created, before, List.flatMap_map]
    exact List.flatMap_eq_nil_iff.mpr fun _ _ => rfl
  rw [created, List.flatMap_append]
  show created events ++ created (before episodes) = created events
  rw [hnone, List.append_nil]

/-- **The invariant holds of every such run** whose run ids are distinct, and
none an episode of the first latches: these began with runs of their own. -/
theorem sound (h : DeskRunFrom first events desk) (hfirst : ∀ conditionId, (first conditionId).InEpisode)
    {episodes : List String} (hepisodes : ∀ conditionId, ∀ episode ∈ (first conditionId).episode, episode ∈ episodes)
    (distinct : (runIds events).Nodup) (fresh : ∀ id ∈ runIds events, id ∉ episodes) :
    Sound (events ++ before episodes) desk := by
  induction h with
  | start =>
    have hcreated : ∀ a, a ∉ created (before episodes) := by
      intro a
      have hnone := created_append_before [] episodes
      rw [List.nil_append] at hnone
      rw [hnone]
      exact List.not_mem_nil
    have hended : ∀ announcements status, .ended announcements status ∉ before episodes := by
      intro announcements status hm
      obtain ⟨episode, -, he⟩ := List.mem_map.mp hm
      cases he
    exact
      { announced := fun a ha => absurd ha (hcreated a)
        untold := fun _ => ⟨fun _ _ _ hm => absurd hm (hcreated _), fun _ _ _ hm => absurd hm (hcreated _)⟩
        once := by
          rw [created_append_before]
          exact List.nodup_nil
        entries := fun _ hm => (Multiset.notMem_zero _ hm).elim
        single := Multiset.nodup_zero
        sent := fun _ hm => (Multiset.notMem_zero _ hm).elim
        ended := fun _ _ hm => absurd hm (hended _ _)
        settled := fun _ _ hm => absurd hm (hended _ _)
        unique := fun _ _ _ _ hm => absurd hm (hended _ _) }
  | @step events desk desk' event hrun step ih =>
    cases step with
    | @commit _ runId suppress queued moves ledger =>
      obtain ⟨hnew, hdistinct⟩ := List.nodup_cons.mp distinct
      have hsound := ih hdistinct fun id hm => fresh id (List.mem_cons_of_mem _ hm)
      refine hsound.commit moves ledger (hrun.inEpisode hfirst) (fun conditionId episode he => ?_) ?_
      · rw [runIds_append_before, List.mem_cons, List.mem_append]
        rcases (hrun.step (.commit moves ledger)).latched conditionId with hsame | ⟨begun, hm, hbegun⟩
        · exact .inr (.inr (hepisodes conditionId episode (hsame ▸ he)))
        · obtain rfl := Option.some.inj (hbegun.symm.trans he)
          exact (List.mem_cons.mp hm).imp_right .inl
      · rw [runIds_append_before, List.mem_append]
        exact fun hm => hm.elim hnew (fresh runId List.mem_cons_self)
    | claim unsent before after latch => exact (ih distinct fresh).claim unsent before after latch
    | settle _ result before after latch => exact (ih distinct fresh).settle result before after latch

end DeskRunFrom

/-! ### Histories that go on -/

/-- **A history from a database on**: what happened since, latest first, and
the database it left. -/
inductive Resumed (first : StateStore) : List Event → StateStore → Prop
  | start : Resumed first [] first
  | commit {events : List Event} {store : StateStore} {uuids : ℕ → String} {report : RunReport} {config : Config}
      {now : ℤ} {cutoff : Timestamp} {suppress : Bool} {committed : Committed} (h : Resumed first events store)
      (ok : store.commitRun uuids report config now cutoff suppress = .ok committed) :
      Resumed first (.committed report.runId suppress committed.announcements :: events) committed.store
  | claim {events : List Event} {store store' : StateStore} {uuid messageId executingRunId : String}
      {startedAt : Timestamp} {attempt : NotificationAttempt} {row : OutboxRow} (h : Resumed first events store)
      (found : store.notificationOutbox.find? messageId = some row)
      (ok : store.beginNotificationAttempt uuid messageId startedAt executingRunId = .ok (store', attempt)) :
      Resumed first (.claimed row.announcements :: events) store'
  | record {events : List Event} {store store' : StateStore} {attempt : NotificationAttempt}
      {completedAt : Timestamp} {outcome : NotificationAttemptOutcome} {report : NotificationReport} {row : OutboxRow}
      (h : Resumed first events store) (found : store.notificationOutbox.find? attempt.message.id = some row)
      (ok : store.recordNotificationAttempt attempt completedAt outcome = .ok (store', report)) :
      Resumed first (.ended row.announcements outcome.status :: events) store'
  | refresh {events : List Event} {store store' : StateStore} {runId : String} (h : Resumed first events store)
      (ok : store.refreshRunDelivery runId = .ok store') : Resumed first events store'

/-- The database has a history from another on. -/
def HasResumed (first store : StateStore) : Prop := ∃ events, Resumed first events store

/-- **Every transaction extends a history that goes on.** -/
theorem kept_hasResumed (first : StateStore) : Kept (HasResumed first) where
  commit hs _ ok := by
    obtain ⟨events, hs⟩ := hs
    exact ⟨_, hs.commit ok⟩
  claim hs ok := by
    obtain ⟨events, hs⟩ := hs
    obtain ⟨row, _, _, _, found, -⟩ := StateStore.beginNotificationAttempt_eq_ok ok
    exact ⟨_, hs.claim found ok⟩
  record hs ok := by
    obtain ⟨events, hs⟩ := hs
    obtain ⟨row, _, _, _, _, found, -⟩ := StateStore.recordNotificationAttempt_eq_ok ok
    exact ⟨_, hs.record found ok⟩
  refresh hs ok := by
    obtain ⟨events, hs⟩ := hs
    exact ⟨_, hs.refresh ok⟩

namespace Resumed

variable {first store : StateStore} {events : List Event}

/-- **Apart from what was there**, a history that goes on is a run of a desk
that began with an empty ledger. -/
theorem apart (h : Resumed first events store) (hrest : AtRest first.ledger) :
    ∃ old new, old ≤ first.ledger ∧ store.ledger = old + new ∧
      DeskRunFrom (latchView first) events ⟨new, latchView store⟩ := by
  have hstep : ∀ {store store' : StateStore} {events : List Event} {event : Event},
      (∃ old new, old ≤ first.ledger ∧ store.ledger = old + new ∧
        DeskRunFrom (latchView first) events ⟨new, latchView store⟩) →
      DeskStep store.desk event store'.desk → ∃ old new, old ≤ first.ledger ∧ store'.ledger = old + new ∧
        DeskRunFrom (latchView first) (event :: events) ⟨new, latchView store'⟩ := by
    rintro store store' events event ⟨old, new, hold, hledger, hrun⟩ hstep
    obtain ⟨old', new', hold', hledger', hstep'⟩ :=
      hstep.apart (fun entry hm => hrest entry (Multiset.mem_of_le hold hm)) hledger
    exact ⟨old', new', hold'.trans hold, hledger', hrun.step hstep'⟩
  induction h with
  | start => exact ⟨first.ledger, 0, le_rfl, (add_zero _).symm, .start⟩
  | commit _ ok ih =>
    obtain ⟨latching, persisted, hcommitted⟩ := commitRun_eq_ok ok
    exact hstep ih (deskStep_commit hcommitted)
  | claim _ found ok ih => exact hstep ih (deskStep_claim found ok)
  | record _ found ok ih => exact hstep ih (deskStep_record found ok)
  | refresh _ ok ih =>
    obtain ⟨⟨runs, rfl⟩, -⟩ := StateStore.refreshRunDelivery_eq_ok ok
    exact ih

/-- **What was claimed since was queued since**, and a resolution of a
confirmed alert. -/
theorem claimed (h : Resumed first events store) (hrest : AtRest first.ledger)
    (hfirst : ∀ conditionId, (latchView first conditionId).InEpisode) :
    ∀ announcements, .claimed announcements ∈ events → ∀ a ∈ announcements,
      DeskRunFrom.Sendable (latchView first) events a := by
  obtain ⟨old, new, -, -, hrun⟩ := h.apart hrest
  exact hrun.claimed hfirst

/-- **What was announced since is announced once**, and is not claimed again
when an attempt has ended otherwise than to be retried, if the run ids are
distinct and none is an episode of the first latches. -/
theorem once (h : Resumed first events store) (hrest : AtRest first.ledger)
    (hfirst : ∀ conditionId, (latchView first conditionId).InEpisode) (distinct : (runIds events).Nodup)
    (fresh : ∀ id ∈ runIds events, ∀ conditionId, (latchView first conditionId).episode ≠ some id) :
    (created events).Nodup ∧
      ∀ announcements status, .ended announcements status ∈ events → status ≠ .retryable → ∀ a ∈ announcements,
        ∀ row ∈ store.notificationOutbox.rows, a ∈ row.announcements → isActive row.status = false := by
  obtain ⟨old, new, hold, hledger, hrun⟩ := h.apart hrest
  have hviews : ∀ conditionId, ∀ episode ∈ (latchView first conditionId).episode,
      episode ∈ first.conditionState.rows.filterMap (·.episodeId) := by
    intro conditionId episode he
    unfold latchView at he
    cases hfind : first.conditionState.find? conditionId with
    | none =>
      rw [hfind] at he
      cases he
    | some latch =>
      rw [hfind] at he
      exact List.mem_filterMap.mpr ⟨latch, (Table.find?_eq_some_iff.mp hfind).1, he⟩
  have hsound := hrun.sound hfirst hviews distinct fun id hm hepisode => by
    obtain ⟨latch, hlatch, he⟩ := List.mem_filterMap.mp hepisode
    refine fresh id hm latch.id ?_
    rw [latchView, Table.find?_eq_some_iff.mpr ⟨hlatch, rfl⟩]
    exact he
  refine ⟨DeskRunFrom.created_append_before events _ ▸ hsound.once, fun announcements status hended hne a ha row hrow hmem => ?_⟩
  by_contra hactive
  rw [Bool.not_eq_false] at hactive
  have hne' : row.status ≠ .cancelled := fun hs => by simp [isActive, hs] at hactive
  have hentry := mem_ledger_of_announcements hrow hne' hmem
  rw [hledger] at hentry
  rcases Multiset.mem_add.mp hentry with hentry | hentry
  · have hquiet := hrest _ (Multiset.mem_of_le hold hentry)
    rw [status_entry, hactive] at hquiet
    cases hquiet
  · exact hsound.not_ended hentry (of_decide_eq_true hactive) (List.mem_append_left _ hended) hne ha

end Resumed

end Sentinel
