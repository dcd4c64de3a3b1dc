/-
# The outbox holds what the latches owe

A latch owes a message when its delivery is pending: the alert of its episode
while it is firing, the resolution once it is clear. A store is coherent when
the active entries of every condition are exactly what its latch owes. Every
transaction of a check keeps the store coherent, so it is coherent wherever
the check dies.

Key theorems: `coherent_commit`, `coherent_begin`, `coherent_record`,
`Coherent.length_messagesOf`, `Coherent.mem_conditionState`.
-/
import Sentinel.Delivery.Attempts
import Sentinel.Delivery.LatchMove

namespace Sentinel

open Collections

/-! ### What a latch owes -/

/-- The messages a latch owes, by episode and kind. -/
def LatchView.owed (view : LatchView) : Multiset (String × TransitionKind) :=
  match view.delivery, view.lifecycle, view.episode with
  | .pending, .firing, some episode => {(episode, .alert)}
  | .pending, .clear, some episode => {(episode, .resolution)}
  | _, _, _ => 0

/-- The view of a condition's latch; a condition without one is clear. -/
def latchView (store : StateStore) (conditionId : String) : LatchView :=
  match store.conditionState.find? conditionId with
  | some latch => latch.view
  | none => ⟨.clear, .never, none⟩

/-- The kinds of a condition's active entries that a step withdraws. -/
def Withdrawal.takes (withdrawal : Withdrawal) (kind : TransitionKind) : Bool :=
  match withdrawal with
  | .nothing => false
  | .alerts => kind = .alert
  | .everything => true

/-- What a step announces, unless it is suppressed. -/
def announced (suppress : Bool) (view : LatchView) (kind : Option TransitionKind) :
    Multiset (String × TransitionKind) :=
  if suppress then 0 else ↑(kind.toList.map fun k => (view.episode.getD "", k))

theorem LatchView.owed_of_ne {view : LatchView} (h : view.delivery ≠ .pending) : view.owed = 0 := by
  obtain ⟨lifecycle, delivery, episode⟩ := view
  cases delivery <;> first | rfl | exact absurd rfl h

/-- What is owed is owed for the current episode. -/
theorem LatchView.mem_owed {view : LatchView} {episode : String} {kind : TransitionKind} :
    (episode, kind) ∈ view.owed ↔ view.delivery = .pending ∧ view.episode = some episode ∧
      view.lifecycle = (match kind with | .alert => .firing | .resolution => .clear) := by
  obtain ⟨lifecycle, delivery, current⟩ := view
  by_cases hd : delivery = .pending
  · subst hd
    cases current with
    | none => cases lifecycle <;> simp [owed]
    | some current => cases lifecycle <;> cases kind <;> simp [owed, eq_comm]
  · rw [owed_of_ne hd]
    simp [hd]

theorem LatchView.card_owed_le (view : LatchView) : view.owed.card ≤ 1 := by
  obtain ⟨lifecycle, delivery, current⟩ := view
  cases delivery <;> cases lifecycle <;> cases current <;> simp [owed]

/-- **A step leaves what is owed in place**: what it withdraws was owed, and
what it announces is owed after it. -/
theorem LatchMove.owed {runId : String} {suppress : Bool} {view view' : LatchView}
    {kind : Option TransitionKind} {withdrawal : Withdrawal}
    (h : LatchMove runId suppress view view' kind withdrawal) (hep : view.InEpisode) :
    (view.owed.filter fun x => !withdrawal.takes x.2) + announced suppress view' kind = view'.owed := by
  cases h with
  | idle => simp [Withdrawal.takes, announced]
  | begins delivery episode => simp [Withdrawal.takes, announced, LatchView.owed]
  | beginsFiring delivery episode =>
    cases suppress <;> simp [Withdrawal.takes, announced, LatchView.owed, queuedState]
  | fires delivery episode =>
    obtain ⟨e, rfl⟩ := Option.isSome_iff_exists.mp (hep (by simp))
    cases suppress <;> cases delivery <;> simp [announced, LatchView.owed, queuedState]
  | resolves delivery episode confirmed =>
    obtain ⟨e, rfl⟩ := Option.isSome_iff_exists.mp (hep (by simp))
    rcases confirmed with rfl | ⟨hs, rfl⟩
    · cases suppress <;> simp [announced, LatchView.owed, queuedState]
    · simp [hs, announced, LatchView.owed, queuedState]
  | recovers lifecycle delivery episode latched unconfirmed =>
    by_cases hd : delivery = .pending
    · subst hd
      cases lifecycle <;> cases episode <;> simp_all [Withdrawal.takes, announced, LatchView.owed, withdrawnState]
    · rw [LatchView.owed_of_ne hd, LatchView.owed_of_ne (by simp [withdrawnState, hd])]
      simp [announced]

/-! ### What a condition has queued -/

/-- The entry is to be sent, or being sent. -/
def isActive (status : NotificationStatus) : Bool := status ∈ [.pending, .retryable, .inFlight]

/-- The active entries of a condition, by episode and kind. -/
def activeOf (conditionId : String) (ledger : Multiset Entry) : Multiset (String × TransitionKind) :=
  (ledger.filter fun entry => entry.conditionId = conditionId ∧ isActive entry.status).map
    fun entry => (entry.episodeId, entry.kind)

@[simp] theorem activeOf_add (conditionId : String) (a b : Multiset Entry) :
    activeOf conditionId (a + b) = activeOf conditionId a + activeOf conditionId b := by
  simp [activeOf, Multiset.filter_add]

/-- Active entries count active messages. -/
theorem count_activeOf (conditionId episodeId : String) (kind : TransitionKind) (store : StateStore) :
    (activeOf conditionId store.ledger).count (episodeId, kind) =
      (messagesOf conditionId episodeId kind isActive store).length := by
  rw [← countP_ledger conditionId episodeId kind (by decide), activeOf, Multiset.count_map, Multiset.filter_filter,
    Multiset.countP_eq_card_filter]
  congr 1
  refine Multiset.filter_congr fun entry _ => ?_
  simp only [Entry.IsOf, Prod.mk.injEq]
  tauto

/-- **The store is coherent**: each condition has queued what its latch owes. -/
structure Coherent (store : StateStore) : Prop where
  owed : ∀ conditionId, activeOf conditionId store.ledger = (latchView store conditionId).owed
  inEpisode : ∀ conditionId, (latchView store conditionId).InEpisode

/-- No message is in flight. -/
def NoneInFlight (store : StateStore) : Prop :=
  ∀ row ∈ store.notificationOutbox.rows, row.status ≠ .inFlight

theorem view_priorState (store : StateStore) (evaluation : ConditionEvaluation) :
    (priorState store evaluation).view = latchView store evaluation.id := by
  unfold priorState latchView
  cases store.conditionState.find? evaluation.id <;> rfl

/-- What a coherent store has queued of a message is one or none. -/
theorem Coherent.length_messagesOf {store : StateStore} (h : Coherent store) (conditionId episodeId : String)
    (kind : TransitionKind) :
    (messagesOf conditionId episodeId kind isActive store).length = 1 ↔
      (episodeId, kind) ∈ (latchView store conditionId).owed := by
  rw [← count_activeOf, h.owed]
  have hcard := (latchView store conditionId).card_owed_le
  have hcount := Multiset.count_le_card (episodeId, kind) (latchView store conditionId).owed
  rw [← Multiset.count_pos]
  omega

/-- A member of an active message is in its condition's current episode. -/
theorem Coherent.mem_conditionState {store : StateStore} (h : Coherent store) {row : OutboxRow}
    (hrow : row ∈ store.notificationOutbox.rows) (ha : isActive row.status) {member : NotificationCondition}
    (hm : member ∈ row.conditions.rows) :
    ∃ latch, store.conditionState.find? member.conditionId = some latch ∧
      latch.episodeId = some member.episodeId := by
  have hne : row.status ≠ .cancelled := by
    intro hs
    simp [isActive, hs] at ha
  have hentry : member.entry row.transition row.status ∈ store.ledger :=
    mem_liveEntries.mpr ⟨row, hrow, mem_live.mpr ⟨hne, member, hm, rfl⟩⟩
  have hactive : (member.episodeId, row.transition) ∈ activeOf member.conditionId store.ledger :=
    Multiset.mem_map.mpr ⟨_, Multiset.mem_filter.mpr ⟨hentry, rfl, ha⟩, rfl⟩
  rw [h.owed] at hactive
  obtain ⟨hpending, hepisode, -⟩ := LatchView.mem_owed.mp hactive
  unfold latchView at hpending hepisode
  cases hfind : store.conditionState.find? member.conditionId with
  | none =>
    rw [hfind] at hpending
    cases hpending
  | some latch =>
    rw [hfind] at hepisode
    exact ⟨latch, rfl, hepisode⟩

/-! ### A commit -/

section Commit

variable {report : RunReport} {suppress : Bool} {cutoff : Timestamp} {store : StateStore}
  {committed : Committed} {latching : Latching} {persisted : StateStore}

theorem latchView_of_mem (h : IsCommitted report suppress cutoff store committed latching persisted)
    {evaluation : ConditionEvaluation} (hm : evaluation ∈ report.evaluations) :
    latchView committed.store evaluation.id = (latchedState report suppress store evaluation).view := by
  rw [latchView, h.find?_conditionState, h.find?_evaluation hm]
  rfl

theorem latchView_of_not_mem (h : IsCommitted report suppress cutoff store committed latching persisted)
    {conditionId : String} (hne : ∀ evaluation ∈ report.evaluations, evaluation.id ≠ conditionId) :
    latchView committed.store conditionId = latchView store conditionId := by
  have hfind : report.evaluations.find? (fun e => e.id = conditionId) = none := by
    rw [List.find?_eq_none]
    exact fun evaluation hm => by simpa using hne evaluation hm
  rw [latchView, h.find?_conditionState, hfind]
  rfl

/-- Retention leaves the active entries. -/
theorem activeOf_pruned (h : IsCommitted report suppress cutoff store committed latching persisted)
    (conditionId : String) : activeOf conditionId committed.store.ledger = activeOf conditionId persisted.ledger := by
  have hkept := (ledger_pruneRuns cutoff persisted).2
  have hsub : ∀ ledger : Multiset Entry,
      (ledger.filter fun entry => entry.conditionId = conditionId ∧ isActive entry.status) =
        (ledger.filter fun entry => entry.isUnsettled).filter
          fun entry => entry.conditionId = conditionId ∧ isActive entry.status := by
    intro ledger
    rw [Multiset.filter_filter]
    refine Multiset.filter_congr fun entry _ => ⟨fun hx => ⟨hx, ?_⟩, fun hx => hx.1⟩
    have := hx.2
    simp only [isActive, Entry.isUnsettled, List.mem_cons, List.not_mem_nil, or_false, decide_eq_true_eq] at this ⊢
    tauto
  rw [activeOf, activeOf, h.pruned, hsub, hkept, ← hsub]

/-- What an evaluation leaves of the condition's active entries. -/
theorem activeOf_persisted (h : IsCommitted report suppress cutoff store committed latching persisted)
    (hquiet : NoneInFlight store) {evaluation : ConditionEvaluation} (hm : evaluation ∈ report.evaluations) :
    activeOf evaluation.id persisted.ledger =
      ((activeOf evaluation.id store.ledger).filter fun x =>
        !(withdrawal report suppress evaluation (priorState store evaluation)).takes x.2) +
        announced suppress (latchedState report suppress store evaluation).view
          ((latchedTransition report suppress store evaluation).map (·.kind)) := by
  have hactive : ∀ ledger : Multiset Entry,
      activeOf evaluation.id ledger = ((ledger.filter fun entry => entry.conditionId = evaluation.id).filter
        fun entry => isActive entry.status).map fun entry => (entry.episodeId, entry.kind) := by
    intro ledger
    rw [activeOf, Multiset.filter_filter]
    congr 1
    exact Multiset.filter_congr fun entry _ => and_comm
  rw [hactive persisted.ledger, h.entries_of_mem hm, Multiset.filter_add, Multiset.map_add]
  congr 1
  · rw [activeOf, Multiset.filter_map, Multiset.filter_filter, Multiset.filter_filter]
    congr 1
    refine Multiset.filter_congr fun entry hentry => ?_
    obtain ⟨row, hrow, hlive⟩ := mem_liveEntries.mp hentry
    have hne : entry.status ≠ .inFlight := by
      rw [(kind_of_mem_live hlive).2]
      exact hquiet row hrow
    have hunsent : isActive entry.status → entry.isUnsent := by
      intro ha
      simp only [isActive, Entry.isUnsent, List.mem_cons, List.not_mem_nil, or_false, decide_eq_true_eq] at ha ⊢
      tauto
    rw [withdraws_eq]
    by_cases hc : entry.conditionId = evaluation.id
    · by_cases ha : isActive entry.status
      · have hu := hunsent ha
        cases withdrawal report suppress evaluation (priorState store evaluation) <;>
          simp [hc, ha, hu, Withdrawal.covers, Withdrawal.takes]
      · simp [ha]
    · simp [hc]
  · cases ht : latchedTransition report suppress store evaluation with
    | none => simp [announced]
    | some transition =>
      have hid := conditionId_of_latchedTransition report suppress store evaluation ht
      have hepisode : episodeOf persisted.conditionState evaluation.id =
          (latchedState report suppress store evaluation).view.episode.getD "" := by
        have hview := latchView_of_mem h hm
        have hsame : committed.store.conditionState = persisted.conditionState := by
          rw [h.pruned]
          rfl
        rw [episodeOf, ← hsame, h.find?_conditionState, h.find?_evaluation hm]
        rfl
      cases suppress <;> simp [announced, queuedEntry, isActive, hid, hepisode]

/-- **A commit keeps the store coherent**, if nothing is in flight. -/
theorem coherent_commit (h : IsCommitted report suppress cutoff store committed latching persisted)
    (hc : Coherent store) (hquiet : NoneInFlight store) : Coherent committed.store := by
  have hcond : ∀ conditionId,
      activeOf conditionId committed.store.ledger = (latchView committed.store conditionId).owed ∧
        (latchView committed.store conditionId).InEpisode := by
    intro conditionId
    rw [activeOf_pruned h]
    by_cases hm : ∃ evaluation ∈ report.evaluations, evaluation.id = conditionId
    · obtain ⟨evaluation, hm, rfl⟩ := hm
      have hstep := latchMove_of_latchOutcome report suppress evaluation (priorState store evaluation)
      rw [view_priorState] at hstep
      rw [activeOf_persisted h hquiet hm, hc.owed, latchView_of_mem h hm]
      exact ⟨hstep.owed (hc.inEpisode _), hstep.inEpisode (hc.inEpisode _)⟩
    · have hne : ∀ evaluation ∈ report.evaluations, evaluation.id ≠ conditionId :=
        fun evaluation he hid => hm ⟨evaluation, he, hid⟩
      rw [latchView_of_not_mem h hne, ← hc.owed]
      refine ⟨?_, hc.inEpisode _⟩
      have hsame := h.entries_of_not_mem hne
      have hactive : ∀ ledger : Multiset Entry,
          activeOf conditionId ledger = ((ledger.filter fun entry => entry.conditionId = conditionId).filter
            fun entry => isActive entry.status).map fun entry => (entry.episodeId, entry.kind) := by
        intro ledger
        rw [activeOf, Multiset.filter_filter]
        congr 1
        exact Multiset.filter_congr fun entry _ => and_comm
      rw [hactive, hsame, ← hactive]
  exact ⟨fun conditionId => (hcond conditionId).1, fun conditionId => (hcond conditionId).2⟩

end Commit

/-! ### An attempt -/

/-- The active entries of one message. -/
theorem activeOf_live (conditionId : String) (row : OutboxRow) :
    activeOf conditionId row.live = if isActive row.status then
      ↑((row.conditions.find? conditionId).toList.map fun member => (member.episodeId, row.transition)) else 0 := by
  unfold OutboxRow.live activeOf
  by_cases hs : row.status = .cancelled
  · simp [hs, isActive]
  · rw [if_neg hs, Multiset.filter_coe, List.filter_map]
    split
    case isTrue ha =>
      have hfilter : row.conditions.rows.filter ((fun entry : Entry => decide
            (entry.conditionId = conditionId ∧ isActive entry.status)) ∘
            (·.entry row.transition row.status)) =
          (row.conditions.find? conditionId).toList := by
        rw [← Table.filter_key]
        refine List.filter_congr fun member _ => ?_
        simp [NotificationCondition.entry, ha]
      rw [hfilter, Multiset.map_coe, List.map_map]
      rfl
    case isFalse ha =>
      have hfilter : row.conditions.rows.filter ((fun entry : Entry => decide
            (entry.conditionId = conditionId ∧ isActive entry.status)) ∘
            (·.entry row.transition row.status)) = [] := by
        rw [List.filter_eq_nil_iff]
        intro member _
        simp [NotificationCondition.entry, ha]
      rw [hfilter]
      rfl

section Attempt

variable {store store' : StateStore}

/-- **A claim keeps the store coherent.** -/
theorem coherent_begin {uuid messageId executingRunId : String} {startedAt : Timestamp}
    {attempt : NotificationAttempt}
    (h : store.beginNotificationAttempt uuid messageId startedAt executingRunId = .ok (store', attempt))
    (hc : Coherent store) : Coherent store' := by
  obtain ⟨row, attempts, runs, outbox, -, hstatus, -, hexchange, -, hs'⟩ :=
    StateStore.beginNotificationAttempt_eq_ok h
  obtain ⟨rest, hold, hnew⟩ := hexchange.ledger
  have hview : ∀ conditionId, latchView store' conditionId = latchView store conditionId := by
    intro conditionId
    rw [hs']
    rfl
  refine ⟨fun conditionId => ?_, fun conditionId => hview conditionId ▸ hc.inEpisode conditionId⟩
  have hactive : isActive row.status := by
    simp only [isActive, List.mem_cons, List.not_mem_nil, or_false, decide_eq_true_eq] at hstatus ⊢
    tauto
  rw [hview, ← hc.owed, hold, hnew, activeOf_add, activeOf_add, activeOf_live, activeOf_live, if_pos hactive]
  rfl

/-- A result settles the latches and the message together, or neither. -/
theorem result_cases (outcome : NotificationAttemptOutcome) (transition : TransitionKind) :
    (isActive outcome.status ∧ deliveredState outcome.status transition = none) ∨
      (isActive outcome.status = false ∧
        ∃ state, deliveredState outcome.status transition = some state ∧ state ≠ .pending) := by
  cases outcome with
  | retryable => exact .inl ⟨rfl, rfl⟩
  | delivered => cases transition <;> exact .inr ⟨rfl, _, rfl, by decide⟩
  | failed => exact .inr ⟨rfl, _, rfl, by decide⟩
  | unknown => exact .inr ⟨rfl, _, rfl, by decide⟩

theorem view_settledLatch (members : List NotificationCondition) (result : Option AlertDeliveryState)
    (latch : ConditionState) :
    (StateStore.settledLatch members result latch).lifecycle = latch.lifecycle ∧
      (StateStore.settledLatch members result latch).episodeId = latch.episodeId := by
  unfold StateStore.settledLatch
  split
  · split <;> exact ⟨rfl, rfl⟩
  · exact ⟨rfl, rfl⟩

/-- A result leaves a latch in its episode. -/
theorem inEpisode_settledLatch {members : List NotificationCondition} {result : Option AlertDeliveryState}
    {latch : ConditionState} (h : latch.view.InEpisode) : (StateStore.settledLatch members result latch).view.InEpisode := by
  obtain ⟨hl, he⟩ := view_settledLatch members result latch
  intro hne
  simp only [ConditionState.view, hl, he] at hne ⊢
  exact h hne

section Settled

variable {row : OutboxRow} {latch : ConditionState}

/-- A latch whose condition the message does not name is not settled. -/
theorem settledLatch_of_find?_eq_none {result : Option AlertDeliveryState} (h : row.conditions.find? latch.id = none) :
    StateStore.settledLatch row.members result latch = latch := by
  have hno : ¬∃ member ∈ row.members, member.conditionId = latch.id ∧ latch.episodeId = some member.episodeId := by
    rintro ⟨member, hm, hid, -⟩
    exact Table.find?_eq_none_iff.mp h member (mem_orderBy.mp hm) hid
  unfold StateStore.settledLatch
  split
  · exact if_neg hno
  · rfl

/-- A latch in the episode the message names owes nothing once it is settled. -/
theorem owed_settledLatch {member : NotificationCondition} {state : AlertDeliveryState}
    (h : row.conditions.find? latch.id = some member) (hepisode : latch.episodeId = some member.episodeId)
    (hne : state ≠ .pending) : (StateStore.settledLatch row.members (some state) latch).view.owed = 0 := by
  obtain ⟨hm, hid⟩ := Table.find?_eq_some_iff.mp h
  have hyes : ∃ member ∈ row.members, member.conditionId = latch.id ∧ latch.episodeId = some member.episodeId :=
    ⟨member, mem_orderBy.mpr hm, hid, hepisode⟩
  simp only [StateStore.settledLatch, if_pos hyes]
  exact LatchView.owed_of_ne hne

/-- What a condition has queued besides the message is what its settled latch owes. -/
theorem owed_of_settled {rest : Multiset Entry} {conditionId : String} {state : AlertDeliveryState}
    (howed : activeOf conditionId rest +
      ↑((row.conditions.find? conditionId).toList.map fun member => (member.episodeId, row.transition)) =
        (latchView store conditionId).owed)
    (hfind : store'.conditionState.find? conditionId =
      (store.conditionState.find? conditionId).map (StateStore.settledLatch row.members (some state)))
    (hne : state ≠ .pending) : activeOf conditionId rest = (latchView store' conditionId).owed := by
  unfold latchView at howed ⊢
  rw [hfind]
  cases hlatch : store.conditionState.find? conditionId with
  | none =>
    rw [hlatch] at howed
    exact Multiset.le_zero.mp ((Multiset.le_add_right _ _).trans howed.le)
  | some latch =>
    rw [hlatch] at howed
    change _ = latch.view.owed at howed
    have hid : latch.id = conditionId := (Table.find?_eq_some_iff.mp hlatch).2
    subst hid
    cases hmember : row.conditions.find? latch.id with
    | none =>
      rw [hmember, Option.toList_none, List.map_nil, Multiset.coe_nil, add_zero] at howed
      rw [Option.map_some, settledLatch_of_find?_eq_none hmember]
      exact howed
    | some member =>
      rw [hmember] at howed
      have hmem : (member.episodeId, row.transition) ∈ latch.view.owed := by
        rw [← howed]
        simp
      -- a latch owes one message at most
      have hrest : activeOf latch.id rest = 0 := by
        have hcard := congrArg Multiset.card howed
        have hle := latch.view.card_owed_le
        rw [Multiset.card_add, Option.toList_some, List.map_singleton, Multiset.coe_singleton,
          Multiset.card_singleton] at hcard
        exact Multiset.card_eq_zero.mp (by omega)
      obtain ⟨-, hepisode, -⟩ := LatchView.mem_owed.mp hmem
      rw [hrest]
      exact (owed_settledLatch hmember hepisode hne).symm

end Settled

/-- **A recorded result keeps the store coherent**: it settles the message and
the latches that owed it. -/
theorem coherent_record {attempt : NotificationAttempt} {completedAt : Timestamp}
    {outcome : NotificationAttemptOutcome} {report : NotificationReport}
    (h : store.recordNotificationAttempt attempt completedAt outcome = .ok (store', report))
    (hc : Coherent store) : Coherent store' := by
  obtain ⟨row, next, outbox, runs, states, -, hstatus, -, -, -, hexchange, -, hstates, hs'⟩ :=
    StateStore.recordNotificationAttempt_eq_ok h
  obtain ⟨rest, hold, hnew⟩ := hexchange.ledger
  have hfind (conditionId : String) : store'.conditionState.find? conditionId =
      (store.conditionState.find? conditionId).map
        (StateStore.settledLatch row.members (deliveredState outcome.status row.transition)) := by
    rw [hs']
    exact hstates conditionId
  refine ⟨fun conditionId => ?_, fun conditionId => ?_⟩
  · have howed := hc.owed conditionId
    rw [hold, activeOf_add, activeOf_live, if_pos (by rw [hstatus]; decide)] at howed
    rw [hnew, activeOf_add, activeOf_live]
    show activeOf conditionId rest + (if isActive outcome.status then
      ↑((row.conditions.find? conditionId).toList.map fun member => (member.episodeId, row.transition)) else 0) = _
    rcases result_cases outcome row.transition with ⟨ha, hd⟩ | ⟨ha, state, hd, hne⟩
    · -- a retryable message stays active, and the latches as they were
      rw [if_pos ha, howed, latchView, latchView, hfind, hd]
      cases store.conditionState.find? conditionId <;> rfl
    · rw [if_neg (by simp [ha]), add_zero]
      exact owed_of_settled howed (hd ▸ hfind conditionId) hne
  · have hep := hc.inEpisode conditionId
    unfold latchView at hep ⊢
    rw [hfind]
    cases hlatch : store.conditionState.find? conditionId with
    | none => exact fun hne => absurd rfl hne
    | some latch =>
      rw [hlatch] at hep
      exact inEpisode_settledLatch hep

end Attempt

end Sentinel
