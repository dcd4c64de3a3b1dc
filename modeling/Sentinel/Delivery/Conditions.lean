/-
# One condition of a commit

What a commit does to the latch and to the ledger entries of one condition:
nothing if the run did not evaluate it, and otherwise what its one evaluation
makes of them.

Key theorems: `IsCommitted.find?_conditionState`, `IsCommitted.entries_of_mem`,
`IsCommitted.entries_of_not_mem`.
-/
import Sentinel.Delivery.Commits

namespace Sentinel

open Collections

/-! ### One evaluation -/

section Latched

variable (report : RunReport) (suppress : Bool) (store : StateStore) (evaluation : ConditionEvaluation)

@[simp] theorem priorState_id : (priorState store evaluation).id = evaluation.id := by
  unfold priorState
  cases h : store.conditionState.find? evaluation.id with
  | none => rfl
  | some state => exact (Table.find?_eq_some_iff.mp h).2

theorem advanceCondition_id (observedAt : Timestamp) (runId : String) (state : ConditionState) :
    (advanceCondition evaluation observedAt runId suppress state).1.id = state.id := by
  unfold advanceCondition
  cases evaluation.outcome with
  | notEvaluated => rfl
  | active =>
    dsimp only
    rw [advanceActive_eq]
    simp only [beginEpisode]
    split <;> rfl
  | clear =>
    dsimp only
    rw [advanceClear_eq]

@[simp] theorem latchedState_id : (latchedState report suppress store evaluation).id = evaluation.id := by
  have h := advanceCondition_id suppress evaluation report.completedAt report.runId
    (priorState store evaluation)
  rw [priorState_id] at h
  unfold latchedState latchOutcome
  dsimp only
  split <;> exact h

theorem latchedEvaluation_id : (latchedEvaluation report suppress store evaluation).id = evaluation.id := by
  unfold latchedEvaluation latchOutcome
  dsimp only
  split <;> rfl

theorem latchedTransition_eq :
    latchedTransition report suppress store evaluation =
      (advanceCondition evaluation report.completedAt report.runId suppress (priorState store evaluation)).2.2 := by
  unfold latchedTransition latchOutcome
  dsimp only
  split <;> rfl

theorem conditionId_of_latchedTransition {transition : ConditionTransition}
    (h : latchedTransition report suppress store evaluation = some transition) :
    transition.conditionId = evaluation.id := by
  rw [latchedTransition_eq] at h
  unfold advanceCondition at h
  cases ho : evaluation.outcome with
  | notEvaluated => simp [ho] at h
  | active =>
    simp only [ho, advanceActive_eq] at h
    split at h
    · rw [← Option.some.inj h]
    · cases h
  | clear =>
    simp only [ho, advanceClear_eq] at h
    split at h
    · rw [← Option.some.inj h]
    · cases h

theorem conditionId_of_withdraws {entry : Entry} (h : withdraws report suppress store evaluation entry) :
    entry.conditionId = evaluation.id := by
  simp only [withdraws, Bool.or_eq_true, Bool.and_eq_true, Entry.isWithdrawn_iff] at h
  rcases h with ⟨-, h, -⟩ | ⟨-, h, -⟩ <;> exact h

end Latched

/-! ### All evaluations -/

namespace IsCommitted

variable {report : RunReport} {suppress : Bool} {cutoff : Timestamp} {store : StateStore}
  {committed : Committed} {latching : Latching} {persisted : StateStore}

theorem report_evaluations (h : IsCommitted report suppress cutoff store committed latching persisted) :
    committed.report.evaluations = report.evaluations.map (latchedEvaluation report suppress store) := by
  rw [h.report_latched]
  exact h.latched.evaluations

/-- A run's evaluations have distinct ids, or it is not committed. -/
theorem nodup (h : IsCommitted report suppress cutoff store committed latching persisted) :
    (report.evaluations.map (·.id)).Nodup := by
  obtain ⟨run, -, hrun⟩ := h.stored.run
  have hinsert := (Table.insertAll_eq_some_iff.mp hrun.evaluations).1
  rw [Table.rows_empty, List.nil_append, List.map_map, h.report_evaluations, List.map_map] at hinsert
  refine Eq.mp (congrArg List.Nodup (List.map_congr_left fun evaluation _ => ?_)) hinsert
  exact latchedEvaluation_id report suppress store evaluation

theorem find?_evaluation (h : IsCommitted report suppress cutoff store committed latching persisted)
    {evaluation : ConditionEvaluation} (hm : evaluation ∈ report.evaluations) :
    report.evaluations.find? (fun e => e.id = evaluation.id) = some evaluation := by
  have hm' : evaluation ∈ (⟨report.evaluations, h.nodup⟩ : Table ConditionEvaluation.id).rows := hm
  exact Table.find?_key hm'

theorem transitions (h : IsCommitted report suppress cutoff store committed latching persisted) :
    committed.report.transitions = sortTransitions (report.evaluations.flatMap fun evaluation =>
      (latchedTransition report suppress store evaluation).toList) := by
  rw [h.report_latched]
  exact congrArg sortTransitions h.latched.transitions

theorem ledger_persisted (h : IsCommitted report suppress cutoff store committed latching persisted) :
    persisted.ledger =
      (store.ledger.filter fun entry =>
        ∀ evaluation ∈ report.evaluations, !withdraws report suppress store evaluation entry) +
        ↑(committed.report.transitions.map (queuedEntry persisted.conditionState suppress)) := by
  obtain ⟨rows, hq, hrows⟩ := h.stored.queued
  obtain ⟨drawn, built, hbuilt, -⟩ := h.outbox_built
  rw [hbuilt] at hq
  rw [StateStore.ledger, hrows, liveEntries_append, liveEntries_of_buildOutbox hq]
  congr 1
  exact h.latched.ledger

/-- The latches after a commit: those of its evaluations have advanced. -/
theorem find?_conditionState (h : IsCommitted report suppress cutoff store committed latching persisted)
    (conditionId : String) :
    committed.store.conditionState.find? conditionId =
      ((report.evaluations.find? fun evaluation => evaluation.id = conditionId).map
        (latchedState report suppress store)).or (store.conditionState.find? conditionId) := by
  have hstore : latching.store.conditionState = store.conditionState := by
    rw [h.latched.frame]
  have hnodup : (latching.states.map (·.id)).Nodup := by
    rw [h.latched.states, List.map_map]
    refine Eq.mpr (congrArg List.Nodup (List.map_congr_left fun evaluation _ => ?_)) h.nodup
    exact latchedState_id report suppress store evaluation
  rw [h.conditionState_persisted, h.stored.conditionState, Table.find?_foldl_upsert hnodup, hstore]
  congr 1
  rw [h.latched.states, List.find?_map]
  congr 1
  refine congrArg (fun p => List.find? p report.evaluations) (funext fun evaluation => ?_)
  rw [Function.comp, latchedState_id]

/-- The transitions of a condition are those of its evaluation. -/
theorem filter_transitions_of_mem (h : IsCommitted report suppress cutoff store committed latching persisted)
    {evaluation : ConditionEvaluation} (hm : evaluation ∈ report.evaluations) :
    committed.report.transitions.filter (fun transition => transition.conditionId = evaluation.id) =
      (latchedTransition report suppress store evaluation).toList := by
  have hperm : (committed.report.transitions.filter fun transition => transition.conditionId = evaluation.id).Perm
      (latchedTransition report suppress store evaluation).toList := by
    rw [h.transitions]
    refine ((perm_orderBy _ _).filter _).trans (List.Perm.of_eq ?_)
    obtain ⟨before, after, hsplit⟩ := List.append_of_mem hm
    have hne : ∀ other ∈ before ++ after, other.id ≠ evaluation.id := by
      have hsplit' : (⟨report.evaluations, h.nodup⟩ : Table ConditionEvaluation.id).rows =
          before ++ evaluation :: after := hsplit
      exact Table.key_ne_of_split hsplit'
    have hnil : ∀ other ∈ before ++ after, (latchedTransition report suppress store other).toList.filter
        (fun transition => transition.conditionId = evaluation.id) = [] := by
      intro other ho
      rw [List.filter_eq_nil_iff]
      intro transition ht hc
      have hid := conditionId_of_latchedTransition report suppress store other (Option.mem_toList.mp ht)
      exact hne other ho (hid.symm.trans (of_decide_eq_true hc))
    rw [List.filter_flatMap, hsplit, List.flatMap_append, List.flatMap_cons,
      List.flatMap_eq_nil_iff.mpr fun other ho => hnil other (List.mem_append_left _ ho),
      List.flatMap_eq_nil_iff.mpr fun other ho => hnil other (List.mem_append_right _ ho),
      List.nil_append, List.append_nil, List.filter_eq_self]
    intro transition ht
    rw [conditionId_of_latchedTransition report suppress store evaluation (Option.mem_toList.mp ht)]
    simp
  cases ht : latchedTransition report suppress store evaluation with
  | none =>
    rw [ht] at hperm
    exact List.perm_nil.mp hperm
  | some transition =>
    rw [ht] at hperm
    exact List.perm_singleton.mp hperm

theorem conditionId_mem_of_transition (h : IsCommitted report suppress cutoff store committed latching persisted)
    {transition : ConditionTransition} (ht : transition ∈ committed.report.transitions) :
    ∃ evaluation ∈ report.evaluations, latchedTransition report suppress store evaluation = some transition ∧
      transition.conditionId = evaluation.id := by
  rw [h.transitions, sortTransitions, mem_orderBy, List.mem_flatMap] at ht
  obtain ⟨evaluation, hm, ht⟩ := ht
  have ht := Option.mem_toList.mp ht
  exact ⟨evaluation, hm, ht, conditionId_of_latchedTransition report suppress store evaluation ht⟩

/-- **One evaluated condition's entries**: what it had and did not withdraw,
and what it announces. -/
theorem entries_of_mem (h : IsCommitted report suppress cutoff store committed latching persisted)
    {evaluation : ConditionEvaluation} (hm : evaluation ∈ report.evaluations) :
    persisted.ledger.filter (fun entry => entry.conditionId = evaluation.id) =
      (store.ledger.filter fun entry =>
        entry.conditionId = evaluation.id ∧ !withdraws report suppress store evaluation entry) +
        ↑((latchedTransition report suppress store evaluation).toList.map
          (queuedEntry persisted.conditionState suppress)) := by
  rw [h.ledger_persisted, Multiset.filter_add, Multiset.filter_filter, Multiset.filter_coe, List.filter_map,
    ← h.filter_transitions_of_mem hm]
  congr 1
  refine Multiset.filter_congr fun entry _ => ⟨fun ⟨hc, hall⟩ => ⟨hc, hall evaluation hm⟩, fun ⟨hc, hw⟩ => ⟨hc, ?_⟩⟩
  intro other ho
  by_cases he : other = evaluation
  · rw [he]
    exact hw
  · rw [Bool.not_eq_true', ← Bool.not_eq_true]
    intro hwo
    have hid := conditionId_of_withdraws report suppress store other hwo
    exact he (Table.eq_of_key_eq (⟨report.evaluations, h.nodup⟩ : Table ConditionEvaluation.id) ho hm
      (hid.symm.trans hc))

/-- **A condition that is not evaluated** keeps its entries. -/
theorem entries_of_not_mem (h : IsCommitted report suppress cutoff store committed latching persisted)
    {conditionId : String} (hne : ∀ evaluation ∈ report.evaluations, evaluation.id ≠ conditionId) :
    persisted.ledger.filter (fun entry => entry.conditionId = conditionId) =
      store.ledger.filter fun entry => entry.conditionId = conditionId := by
  rw [h.ledger_persisted, Multiset.filter_add, Multiset.filter_filter, Multiset.filter_coe, List.filter_map]
  have hnone : committed.report.transitions.filter ((fun entry : Entry => decide (entry.conditionId = conditionId)) ∘
      queuedEntry persisted.conditionState suppress) = [] := by
    rw [List.filter_eq_nil_iff]
    intro transition ht hc
    obtain ⟨evaluation, hm, -, hid⟩ := h.conditionId_mem_of_transition ht
    exact hne evaluation hm (hid.symm.trans (of_decide_eq_true hc))
  rw [hnone, List.map_nil, Multiset.coe_nil, add_zero]
  refine Multiset.filter_congr fun entry _ => ⟨fun ⟨hc, _⟩ => hc, fun hc => ⟨hc, fun evaluation hm => ?_⟩⟩
  rw [Bool.not_eq_true', ← Bool.not_eq_true]
  intro hw
  exact hne evaluation hm ((conditionId_of_withdraws report suppress store evaluation hw).symm.trans hc)

/-- A message that a commit queued is a batch of its transitions of one kind. -/
theorem batch_of_mem (h : IsCommitted report suppress cutoff store committed latching persisted)
    {message : OutboxMessage} (hm : message ∈ committed.outbox) :
    ∃ built kind batch, IsBatch built suppress kind batch message ∧ built.runId = report.runId ∧
      batch.Sublist (committed.report.transitions.filter (·.kind = kind)) := by
  obtain ⟨built, alerts, resolutions, alertMessages, resolutionMessages, hid, houtbox, ha, hr, haf, hrf⟩ :=
    h.outbox_batches
  rw [houtbox, List.mem_append] at hm
  rcases hm with hm | hm
  · obtain ⟨batch, hb, hbatch⟩ := Fallible.exists_of_forall₂_right ha message hm
    exact ⟨built, .alert, batch, hbatch, hid, haf ▸ List.sublist_flatten_of_mem hb⟩
  · obtain ⟨batch, hb, hbatch⟩ := Fallible.exists_of_forall₂_right hr message hm
    exact ⟨built, .resolution, batch, hbatch, hid, hrf ▸ List.sublist_flatten_of_mem hb⟩

theorem status_of_mem (h : IsCommitted report suppress cutoff store committed latching persisted)
    {message : OutboxMessage} (hm : message ∈ committed.outbox) :
    message.status = if suppress then .suppressed else .pending := by
  obtain ⟨built, kind, batch, hbatch, -⟩ := h.batch_of_mem hm
  obtain ⟨uuid, hmessage⟩ := hbatch.header
  rw [hmessage]
  rfl

end IsCommitted

end Sentinel
