/-
# What a commit does

A commit in three parts. The loop over the evaluations replaces the latches
by the outcomes of the evaluations and takes withdrawn entries out of the
ledger. Persisting stores the latches, the run and the messages of the
transitions, whose entries join the ledger. Retention takes settled entries
out again.

Key theorems: `latchEvaluations_eq_ok`, `persist_eq_ok`, `liveEntries_of_buildOutbox`,
`commitRun_eq_ok`.
-/
import Sentinel.Delivery.Batches
import Sentinel.Delivery.Ledger

namespace Sentinel

open Collections

/-! ### The loop over the evaluations -/

section Loop

variable (report : RunReport) (suppress : Bool) (store : StateStore)

/-- The latch that an evaluation leaves, from the stored one. -/
def latchedState (evaluation : ConditionEvaluation) : ConditionState :=
  (latchOutcome report suppress evaluation (priorState store evaluation)).1

/-- The evaluation with its latch's fields. -/
def latchedEvaluation (evaluation : ConditionEvaluation) : ConditionEvaluation :=
  (latchOutcome report suppress evaluation (priorState store evaluation)).2.1

/-- The transition an evaluation makes. -/
def latchedTransition (evaluation : ConditionEvaluation) : Option ConditionTransition :=
  (latchOutcome report suppress evaluation (priorState store evaluation)).2.2

/-- The evaluation withdraws the entry. -/
def withdraws (evaluation : ConditionEvaluation) (entry : Entry) : Bool :=
  let prior := priorState store evaluation
  beginsEpisode evaluation prior && entry.isWithdrawn evaluation.id none ||
    recoversUnsent evaluation prior
        (advanceCondition evaluation report.completedAt report.runId suppress prior).1 &&
      entry.isWithdrawn evaluation.id (some .alert)

/-- Some message is cancelled. -/
def Cancels : StateStore → StateStore → Prop :=
  Relation.ReflTransGen fun store store' => ∃ conditionId kind, StateStore.CancelStep conditionId kind store store'

/-- What the loop has done to the store it started from. -/
structure IsLatched (inputs : List ConditionEvaluation) (latching : Latching) : Prop where
  frame : latching.store = { store with notificationOutbox := latching.store.notificationOutbox }
  cancels : Cancels store latching.store
  ledger : latching.store.ledger =
    store.ledger.filter fun entry => ∀ evaluation ∈ inputs, !withdraws report suppress store evaluation entry
  states : latching.states = inputs.map (latchedState report suppress store)
  evaluations : latching.evaluations = inputs.map (latchedEvaluation report suppress store)
  transitions : latching.transitions =
    inputs.flatMap fun evaluation => (latchedTransition report suppress store evaluation).toList

end Loop

theorem cancels_of_cancelUnsentCondition {uuids : ℕ → String} {conditionId : String}
    {kind : Option TransitionKind} {state state' : StateStore × ℕ}
    (h : StateStore.cancelUnsentCondition uuids conditionId kind state = .ok state') :
    Cancels state.1 state'.1 :=
  Relation.ReflTransGen.mono (fun _ _ hstep => ⟨conditionId, kind, hstep⟩) _ _
    (StateStore.cancelUnsentCondition_eq_ok h).1

/-- Cancelling changes nothing but the outbox. -/
theorem Cancels.frame {store store' : StateStore} (h : Cancels store store') :
    store' = { store with notificationOutbox := store'.notificationOutbox } := by
  induction h with
  | refl => rfl
  | tail _ hstep ih =>
    obtain ⟨_, _, hstep⟩ := hstep
    rw [hstep.frame, ih]

/-- A cancellation that may be skipped. -/
theorem cancelWhen_eq_ok {uuids : ℕ → String} {conditionId : String} {kind : Option TransitionKind}
    {when_ : Bool} {state state' : StateStore × ℕ}
    (h : (if when_ then StateStore.cancelUnsentCondition uuids conditionId kind state else return state) =
      .ok state') :
    Cancels state.1 state'.1 ∧
      state'.1.ledger = state.1.ledger.filter fun entry => !(when_ && entry.isWithdrawn conditionId kind) := by
  cases when_ with
  | true => exact ⟨cancels_of_cancelUnsentCondition h, by simpa using ledger_cancelUnsentCondition h⟩
  | false =>
    obtain rfl : state = state' := Except.ok.inj h
    exact ⟨.refl, by simp⟩

/-- **The loop over the evaluations.** -/
theorem latchEvaluations_eq_ok {uuids : ℕ → String} {report : RunReport} {suppress : Bool}
    {evaluations : List ConditionEvaluation} {store : StateStore} {latching : Latching}
    (h : evaluations.foldlM (latchEvaluation uuids report suppress) ⟨store, 0, [], [], []⟩ = .ok latching) :
    IsLatched report suppress store evaluations latching := by
  have start : IsLatched report suppress store [] ⟨store, 0, [], [], []⟩ :=
    ⟨rfl, .refl, by simp, rfl, rfl, rfl⟩
  refine Fallible.foldlM_ok (I := IsLatched report suppress store) ?_ start h
  intro done evaluation latching latching' hI hstep
  have hprior : priorState latching.store evaluation = priorState store evaluation := by
    rw [hI.frame, priorState, priorState]
  simp only [latchEvaluation, Fallible.bind_eq_ok_iff, hprior] at hstep
  obtain ⟨⟨store₁, drawn₁⟩, h₁, ⟨store₂, drawn₂⟩, h₂, hstep⟩ := hstep
  obtain rfl := Except.ok.inj hstep
  obtain ⟨hc₁, hl₁⟩ := cancelWhen_eq_ok h₁
  obtain ⟨hc₂, hl₂⟩ := cancelWhen_eq_ok h₂
  have hcancels : Cancels store store₂ := (hI.cancels.trans hc₁).trans hc₂
  refine ⟨hcancels.frame, hcancels, ?_, ?_, ?_, ?_⟩
  · dsimp only at hl₁ hl₂ ⊢
    rw [hl₂, hl₁, hI.ledger, Multiset.filter_filter, Multiset.filter_filter]
    refine Multiset.filter_congr fun entry _ => ?_
    simp only [List.mem_append, List.mem_singleton, withdraws]
    constructor
    · rintro ⟨⟨h2, h1⟩, hd⟩ e (he | rfl)
      · exact hd e he
      · simp_all
    · intro hall
      have := hall evaluation (.inr rfl)
      refine ⟨⟨?_, ?_⟩, fun e he => hall e (.inl he)⟩ <;> simp_all
  · rw [hI.states, List.map_append]
    rfl
  · rw [hI.evaluations, List.map_append]
    rfl
  · rw [hI.transitions, List.flatMap_append, List.flatMap_singleton]
    rfl

/-! ### Persisting -/

/-- What a run's row takes from its report, before anything hangs on it. -/
theorem runRow_eq_ok {report : RunReport} {run : RunRow} (h : runRow report = .ok run) :
    run.id = report.runId ∧ run.startedAt = report.startedAt ∧ run.completedAt = report.completedAt ∧
      run.aggregate = none := by
  simp only [runRow, Fallible.bind_eq_ok_iff] at h
  obtain ⟨_, -, _, -, _, -, _, -, h⟩ := h
  obtain rfl := Except.ok.inj h
  exact ⟨rfl, rfl, rfl, rfl⟩

/-- The row of a stored run, with what hangs on it. -/
structure IsStoredRun (states : Table ConditionState.id) (report : RunReport) (run : RunRow) : Prop where
  header : ∃ base, runRow report = .ok base ∧
    run = { base with targets := run.targets, aggregate := run.aggregate, evaluations := run.evaluations }
  targets : StateStore.targetTable report.targets = .ok run.targets
  aggregate : report.aggregate.mapM aggregateRow = .ok run.aggregate
  evaluations : Table.empty.insertAll (report.evaluations.map (evaluationRow states)) = some run.evaluations

/-- What is stored before retention. -/
structure IsPersisted (report : RunReport) (outbox : List OutboxMessage) (states : List ConditionState)
    (store persisted : StateStore) : Prop where
  stateIdentity : persisted.stateIdentity = store.stateIdentity
  conditionState : persisted.conditionState = states.foldl (fun table state => table.upsert state) store.conditionState
  run : ∃ run, persisted.runs.rows = store.runs.rows ++ [run] ∧ IsStoredRun persisted.conditionState report run
  queued : ∃ rows,
    List.Forall₂ (StateStore.IsQueued persisted.conditionState report.transitions report.completedAt) outbox rows ∧
      persisted.notificationOutbox.rows = store.notificationOutbox.rows ++ rows

namespace StateStore

variable {report : RunReport} {store store' : StateStore}

theorem insertRun_eq_ok (h : store.insertRun report = .ok store') :
    ∃ base runs, runRow report = .ok base ∧ runs.rows = store.runs.rows ++ [base] ∧
      store' = { store with runs } := by
  simp only [insertRun, Fallible.bind_eq_ok_iff, constraint_eq_ok_iff] at h
  obtain ⟨base, hbase, runs, hruns, h⟩ := h
  exact ⟨base, runs, hbase, (Table.insert?_eq_some_iff.mp hruns).2, (Except.ok.inj h).symm⟩

section Children

variable {before : List RunRow} {run : RunRow}

theorem insertTargets_eq_ok (h : store.insertTargets report = .ok store')
    (hr : store.runs.rows = before ++ [run]) (hid : run.id = report.runId) :
    ∃ targets runs, targetTable report.targets = .ok targets ∧
      runs.rows = before ++ [{ run with targets }] ∧ store' = { store with runs } := by
  simp only [insertTargets, Fallible.bind_eq_ok_iff] at h
  obtain ⟨targets, ht, h⟩ := h
  exact ⟨targets, _, ht, Table.rows_update_of_split hr hid, (Except.ok.inj h).symm⟩

theorem insertAggregate_eq_ok (h : store.insertAggregate report = .ok store')
    (hr : store.runs.rows = before ++ [run]) (hid : run.id = report.runId) (hnone : run.aggregate = none) :
    ∃ aggregate runs, report.aggregate.mapM aggregateRow = .ok aggregate ∧
      runs.rows = before ++ [{ run with aggregate }] ∧ store' = { store with runs } := by
  unfold insertAggregate at h
  split at h
  case h_1 ha =>
    refine ⟨none, store.runs, by rw [ha]; rfl, ?_, (Except.ok.inj h).symm⟩
    rw [hr, ← hnone]
  case h_2 aggregate ha =>
    rw [Fallible.bind_eq_ok_iff] at h
    obtain ⟨row, hrow, h⟩ := h
    refine ⟨some row, _, ?_, Table.rows_update_of_split hr hid, (Except.ok.inj h).symm⟩
    rw [ha, Option.mapM_some, hrow]
    rfl

theorem insertEvaluations_eq_ok (h : store.insertEvaluations report = .ok store')
    (hr : store.runs.rows = before ++ [run]) (hid : run.id = report.runId) :
    ∃ evaluations runs,
      Table.empty.insertAll (report.evaluations.map (evaluationRow store.conditionState)) = some evaluations ∧
      runs.rows = before ++ [{ run with evaluations }] ∧ store' = { store with runs } := by
  simp only [insertEvaluations, Fallible.bind_eq_ok_iff, constraint_eq_ok_iff] at h
  obtain ⟨evaluations, he, h⟩ := h
  exact ⟨evaluations, _, he, Table.rows_update_of_split hr hid, (Except.ok.inj h).symm⟩

end Children

theorem foldl_upsertConditionState : ∀ (states : List ConditionState) (store : StateStore),
    states.foldl upsertConditionState store =
      { store with conditionState := states.foldl (fun table state => table.upsert state) store.conditionState }
  | [], _ => rfl
  | state :: states, store => by
    rw [List.foldl_cons, foldl_upsertConditionState states]
    rfl

theorem updateRuntimeStates_eq_ok {config : Config} {now : ℤ}
    (h : store.updateRuntimeStates report config now = .ok store') :
    ∃ runtime, store' = { store with targetRuntimeState := runtime } := by
  refine Fallible.foldlM_preserves (I := fun s : StateStore =>
    ∃ runtime : Table TargetRuntimeState.targetId, s = { store with targetRuntimeState := runtime }) ?_ ⟨store.targetRuntimeState, rfl⟩ h
  rintro target - _ s' ⟨runtime, rfl⟩ hstep
  unfold updateRuntimeState at hstep
  split at hstep
  case h_1 =>
    simp only [Fallible.bind_eq_ok_iff] at hstep
    obtain ⟨_, -, _, -, hstep⟩ := hstep
    exact ⟨_, (Except.ok.inj hstep).symm⟩
  all_goals exact ⟨_, (Except.ok.inj hstep).symm⟩

end StateStore

/-- **What persisting stores**, and that retention follows. -/
theorem persist_eq_ok {report : RunReport} {outbox : List OutboxMessage} {states : List ConditionState}
    {config : Config} {now : ℤ} {cutoff : Timestamp} {store store' : StateStore}
    (h : store.persist report outbox states config now cutoff = .ok store') :
    ∃ persisted, IsPersisted report outbox states store persisted ∧ store' = persisted.pruneRuns cutoff := by
  simp only [StateStore.persist, Fallible.bind_eq_ok_iff] at h
  obtain ⟨_, h₁, _, h₂, _, h₃, _, h₄, _, h₅, _, h₆, _, hcutoff, h⟩ := h
  obtain ⟨base, runs₁, hbase, hr₁, rfl⟩ := StateStore.insertRun_eq_ok h₁
  obtain ⟨hid, -, -, hnone⟩ := runRow_eq_ok hbase
  obtain ⟨targets, runs₂, ht, hr₂, rfl⟩ := StateStore.insertTargets_eq_ok h₂ hr₁ hid
  obtain ⟨aggregate, runs₃, ha, hr₃, rfl⟩ := StateStore.insertAggregate_eq_ok h₃ hr₂ hid hnone
  rw [StateStore.foldl_upsertConditionState] at h₄
  obtain ⟨evaluations, runs₄, he, hr₄, rfl⟩ := StateStore.insertEvaluations_eq_ok h₄ hr₃ hid
  obtain ⟨runtime, rfl⟩ := StateStore.updateRuntimeStates_eq_ok h₅
  obtain ⟨rows, table, hqueued, htable, rfl⟩ := StateStore.insertOutbox_eq_ok h₆
  obtain rfl := canonicalTimestamp_eq_ok hcutoff
  refine ⟨_, ?_, (Except.ok.inj h).symm⟩
  refine ⟨rfl, rfl, ⟨{ base with targets, aggregate, evaluations }, hr₄, ?_⟩, rows, hqueued, htable⟩
  exact ⟨⟨base, hbase, rfl⟩, ht, ha, he⟩

/-! ### What a commit queues -/

section Queue

variable {states : Table ConditionState.id} {transitions : List ConditionTransition} {createdAt : Timestamp}

/-- The episode of a condition's latch. -/
def episodeOf (states : Table ConditionState.id) (conditionId : String) : String :=
  ((states.find? conditionId).bind (·.episodeId)).getD ""

/-- The entry a transition queues. -/
def queuedEntry (states : Table ConditionState.id) (suppress : Bool) (transition : ConditionTransition) : Entry :=
  ⟨transition.conditionId, episodeOf states transition.conditionId, transition.kind,
    if suppress then .suppressed else .pending⟩

theorem outboxMember_eq_ok {kind : TransitionKind} {conditionId : String} {member : NotificationCondition}
    (h : StateStore.outboxMember states transitions kind conditionId = .ok member) :
    (∃ state, states.find? conditionId = some state ∧ state.episodeId = some member.episodeId) ∧
      (∃ transition, transitions.find? (fun transition => transition.conditionId = conditionId ∧
        transition.kind = kind) = some transition ∧ transition.summary = member.summary) ∧
      member.conditionId = conditionId ∧ member.episodeId = episodeOf states conditionId := by
  simp only [StateStore.outboxMember, Fallible.bind_eq_ok_iff, Fallible.demand_eq_ok_iff,
    constraint_eq_ok_iff] at h
  obtain ⟨transition, ht, state, hs, episode, he, h⟩ := h
  obtain rfl := Except.ok.inj h
  exact ⟨⟨state, hs, he⟩, ⟨transition, ht, rfl⟩, rfl, by simp [episodeOf, hs, he]⟩

/-- The transitions a message's members stand for. -/
def OutboxRow.memberships (row : OutboxRow) : List ConditionTransition :=
  row.conditions.rows.map fun member => ⟨member.conditionId, row.transition, member.summary⟩

/-- The members of a queued row stand for the transitions of its batch. -/
theorem memberships_of_isQueued {report : RunReport} {suppress : Bool} {kind : TransitionKind}
    {batch : List ConditionTransition} {message : OutboxMessage} {row : OutboxRow}
    (hq : StateStore.IsQueued states transitions createdAt message row)
    (hb : IsBatch report suppress kind batch message)
    (hk : ∀ transition ∈ batch, transition.kind = kind ∧ transitions.find? (fun t =>
      t.conditionId = transition.conditionId ∧ t.kind = transition.kind) = some transition) :
    row.memberships = batch := by
  obtain ⟨uuid, hm⟩ := hb.header
  have hkind : row.transition = kind := by
    rw [hq.header, hm]
    rfl
  have hall := hq.members
  rw [hm] at hall
  have hall : List.Forall₂ (fun conditionId member => StateStore.outboxMember states transitions kind conditionId =
    .ok member) (batch.map (·.conditionId)) row.conditions.rows := hall
  rw [List.forall₂_map_left_iff] at hall
  have hboth := (List.forall₂_and_left _ _).mpr ⟨hk, hall⟩
  refine ((List.map_id batch).symm.trans (Fallible.map_eq_map_of_forall₂ (hboth.imp ?_))).symm
  rintro transition member ⟨⟨htk, hfind⟩, hmem⟩
  obtain ⟨-, ⟨found, hfound, hsummary⟩, hid, -⟩ := outboxMember_eq_ok hmem
  rw [htk] at hfind
  obtain rfl := Option.some.inj (hfind.symm.trans hfound)
  show transition = ⟨member.conditionId, row.transition, member.summary⟩
  rw [hid, hkind, ← hsummary, ← htk]

/-- The members of queued rows stand for the transitions, whatever the batches. -/
theorem memberships_of_batches {report : RunReport} {suppress : Bool} {kind : TransitionKind}
    {batches : List (List ConditionTransition)} {messages : List OutboxMessage} {rows : List OutboxRow}
    (hb : List.Forall₂ (IsBatch report suppress kind) batches messages)
    (hq : List.Forall₂ (StateStore.IsQueued states transitions createdAt) messages rows)
    (hk : ∀ transition ∈ batches.flatten, transition.kind = kind ∧ transitions.find? (fun t =>
      t.conditionId = transition.conditionId ∧ t.kind = transition.kind) = some transition) :
    rows.flatMap (·.memberships) = batches.flatten := by
  induction hb generalizing rows with
  | nil =>
    cases hq
    rfl
  | @cons batch message batches messages hbatch _ ih =>
    obtain ⟨row, rows', hrow, hrows, rfl⟩ := List.forall₂_cons_left_iff.mp hq
    rw [List.flatten_cons] at hk ⊢
    rw [List.flatMap_cons, memberships_of_isQueued hrow hbatch fun t ht => hk t (List.mem_append_left _ ht),
      ih hrows fun t ht => hk t (List.mem_append_right _ ht)]

theorem live_of_isQueued {report : RunReport} {suppress : Bool} {kind : TransitionKind}
    {batch : List ConditionTransition} {message : OutboxMessage} {row : OutboxRow}
    (hq : StateStore.IsQueued states transitions createdAt message row)
    (hb : IsBatch report suppress kind batch message) (hk : ∀ transition ∈ batch, transition.kind = kind) :
    row.live = ↑(batch.map (queuedEntry states suppress)) := by
  obtain ⟨uuid, hm⟩ := hb.header
  have hstatus : row.status = if suppress then .suppressed else .pending := by
    rw [hq.header, hm]
    rfl
  have hkind : row.transition = kind := by
    rw [hq.header, hm]
    rfl
  have hne : row.status ≠ .cancelled := by
    rw [hstatus]
    cases suppress <;> decide
  have hmembers : List.Forall₂ (fun (transition : ConditionTransition) (member : NotificationCondition) =>
      queuedEntry states suppress transition = member.entry row.transition row.status)
      batch row.conditions.rows := by
    have hall := hq.members
    rw [hm] at hall
    have hall : List.Forall₂ _ (batch.map (·.conditionId)) row.conditions.rows := hall
    rw [List.forall₂_map_left_iff] at hall
    have hboth := (List.forall₂_and_left (p := fun t : ConditionTransition => t.kind = kind) _ _).mpr ⟨hk, hall⟩
    refine hboth.imp ?_
    rintro transition member ⟨htk, hmem⟩
    obtain ⟨-, -, hid, he⟩ := outboxMember_eq_ok hmem
    rw [queuedEntry, NotificationCondition.entry, hid, he, hkind, hstatus, htk]
  rw [OutboxRow.live, if_neg hne, Fallible.map_eq_map_of_forall₂ hmembers]

theorem liveEntries_of_batches {report : RunReport} {suppress : Bool} {kind : TransitionKind}
    {batches : List (List ConditionTransition)} {messages : List OutboxMessage} {rows : List OutboxRow}
    (hb : List.Forall₂ (IsBatch report suppress kind) batches messages)
    (hq : List.Forall₂ (StateStore.IsQueued states transitions createdAt) messages rows)
    (hk : ∀ transition ∈ batches.flatten, transition.kind = kind) :
    liveEntries rows = ↑(batches.flatten.map (queuedEntry states suppress)) := by
  induction hb generalizing rows with
  | nil =>
    cases hq
    rfl
  | @cons batch message batches messages hbatch _ ih =>
    obtain ⟨row, rows', hrow, hrows, rfl⟩ := List.forall₂_cons_left_iff.mp hq
    rw [List.flatten_cons] at hk
    have hlive := live_of_isQueued hrow hbatch fun t ht => hk t (List.mem_append_left _ ht)
    rw [liveEntries_cons, ih hrows fun t ht => hk t (List.mem_append_right _ ht), hlive, List.flatten_cons,
      List.map_append, Multiset.coe_add]

/-- **What a commit queues**: an entry for each transition, whatever the
batches. -/
theorem liveEntries_of_buildOutbox {uuids : ℕ → String} {report : RunReport} {suppress : Bool}
    {rows : List OutboxRow}
    (hq : List.Forall₂ (StateStore.IsQueued states transitions createdAt)
      (buildOutbox uuids report suppress transitions) rows) :
    liveEntries rows = ↑(transitions.map (queuedEntry states suppress)) := by
  obtain ⟨alerts, resolutions, alertMessages, resolutionMessages, hbuild, ha, hr, haf, hrf⟩ :=
    buildOutbox_eq uuids report suppress transitions
  rw [hbuild] at hq
  obtain ⟨alertRows, resolutionRows, rfl, hqa, hqr⟩ := Fallible.forall₂_append_left hq
  rw [liveEntries_append, liveEntries_of_batches ha hqa, liveEntries_of_batches hr hqr, haf, hrf,
    Multiset.coe_add, ← List.map_append, Multiset.coe_eq_coe]
  · exact (perm_kinds transitions).map _
  · rw [hrf]
    simp
  · rw [haf]
    simp

end Queue
/-! ### The whole commit -/

/-- What a commit leaves, from the store it began with. -/
structure IsCommitted (report : RunReport) (suppress : Bool) (cutoff : Timestamp) (store : StateStore)
    (committed : Committed) (latching : Latching) (persisted : StateStore) : Prop where
  latched : IsLatched report suppress
    { store with stateIdentity := some (store.stateIdentity.getD report.mode) } report.evaluations latching
  report_outbox : ∃ uuids, (committed.report, committed.outbox) =
    latchedReport uuids { report with stateSchemaVersion } latching suppress
  stored : IsPersisted committed.report committed.outbox latching.states latching.store persisted
  pruned : committed.store = persisted.pruneRuns cutoff
  canonical : Timestamp.yearZero ≤ report.completedAt.nanoseconds
  /-- The clock has not run backwards. -/
  clock : report.startedAt ≤ report.completedAt ∧
    ∀ run ∈ store.runs.rows, run.completedAt ≤ report.startedAt

namespace IsCommitted

variable {report : RunReport} {suppress : Bool} {cutoff : Timestamp} {store : StateStore}
  {committed : Committed} {latching : Latching} {persisted : StateStore}

theorem conditionState_persisted (h : IsCommitted report suppress cutoff store committed latching persisted) :
    committed.store.conditionState = persisted.conditionState := by
  rw [h.pruned]
  rfl

/-- The returned report is the report, with what the loop made and the messages
that were built. -/
theorem report_latched (h : IsCommitted report suppress cutoff store committed latching persisted) :
    committed.report = { report with
      stateSchemaVersion
      evaluations := latching.evaluations
      transitions := sortTransitions latching.transitions
      findings := orderBy (·.id) (findingsOf latching.evaluations)
      notifications := committed.outbox.map notificationReport } := by
  obtain ⟨uuids, ho⟩ := h.report_outbox
  obtain ⟨hreport, houtbox⟩ := Prod.mk.inj ho
  rw [hreport, houtbox]

theorem outbox_built (h : IsCommitted report suppress cutoff store committed latching persisted) :
    ∃ drawn built, committed.outbox = buildOutbox drawn built suppress committed.report.transitions ∧
      built.runId = report.runId := by
  obtain ⟨uuids, ho⟩ := h.report_outbox
  obtain ⟨hreport, houtbox⟩ := Prod.mk.inj ho
  rw [hreport, houtbox]
  exact ⟨_, _, rfl, rfl⟩

/-- **The messages of a commit** are batches of its transitions, alerts first. -/
theorem outbox_batches (h : IsCommitted report suppress cutoff store committed latching persisted) :
    ∃ built alerts resolutions alertMessages resolutionMessages, built.runId = report.runId ∧
      committed.outbox = alertMessages ++ resolutionMessages ∧
      List.Forall₂ (IsBatch built suppress .alert) alerts alertMessages ∧
      List.Forall₂ (IsBatch built suppress .resolution) resolutions resolutionMessages ∧
      alerts.flatten = committed.report.transitions.filter (·.kind = .alert) ∧
      resolutions.flatten = committed.report.transitions.filter (·.kind = .resolution) := by
  obtain ⟨drawn, built, hbuilt, hid⟩ := h.outbox_built
  obtain ⟨alerts, resolutions, alertMessages, resolutionMessages, hbuild, hrest⟩ :=
    buildOutbox_eq drawn built suppress committed.report.transitions
  exact ⟨built, alerts, resolutions, alertMessages, resolutionMessages, hid, hbuilt.trans hbuild, hrest⟩

/-- A run is still stored just if retention has not released it. -/
theorem isSome_find?_iff (h : IsCommitted report suppress cutoff store committed latching persisted) {run : RunRow}
    (hrun : run ∈ persisted.runs.rows) :
    (committed.store.runs.find? run.id).isSome ↔ persisted.isReleased cutoff run = false := by
  rw [h.pruned, Option.isSome_iff_exists]
  constructor
  · rintro ⟨found, hfound⟩
    obtain ⟨hstored, hid⟩ := Table.find?_eq_some_iff.mp hfound
    obtain ⟨hstored, hkept⟩ := List.mem_filter.mp hstored
    obtain rfl := persisted.runs.eq_of_key_eq hstored hrun hid
    exact Bool.not_eq_true' _ ▸ hkept
  · intro hkept
    refine ⟨run, Table.find?_eq_some_iff.mpr ⟨?_, rfl⟩⟩
    exact List.mem_filter.mpr ⟨hrun, by rw [hkept]; rfl⟩

/-- What the loop left of the messages is stored. -/
theorem mem_persisted (h : IsCommitted report suppress cutoff store committed latching persisted) {row : OutboxRow}
    (hrow : row ∈ latching.store.notificationOutbox.rows) : row ∈ persisted.notificationOutbox.rows := by
  obtain ⟨queued, -, hrows⟩ := h.stored.queued
  rw [hrows]
  exact List.mem_append_left _ hrow

/-- **A message after a commit** is one that the loop left, or a queued one. -/
theorem mem_outbox (h : IsCommitted report suppress cutoff store committed latching persisted) {row : OutboxRow}
    (hrow : row ∈ committed.store.notificationOutbox.rows) :
    row ∈ latching.store.notificationOutbox.rows ∨ ∃ message ∈ committed.outbox,
      StateStore.IsQueued committed.store.conditionState committed.report.transitions committed.report.completedAt
        message row := by
  obtain ⟨queued, hqueued, hrows⟩ := h.stored.queued
  rw [h.pruned] at hrow
  have hmem : row ∈ persisted.notificationOutbox.rows := List.mem_of_mem_filter hrow
  rw [hrows, List.mem_append] at hmem
  rw [h.conditionState_persisted]
  exact hmem.imp_right (Fallible.exists_of_forall₂_right hqueued row)

end IsCommitted

/-- A commit, with the loop that latched its evaluations. -/
theorem commitRun_eq_ok_loop {uuids : ℕ → String} {report : RunReport} {config : Config} {now : ℤ}
    {cutoff : Timestamp} {suppress : Bool} {store : StateStore} {committed : Committed}
    (h : store.commitRun uuids report config now cutoff suppress = .ok committed) :
    ∃ latching persisted, IsCommitted report suppress cutoff store committed latching persisted ∧
      report.evaluations.foldlM (latchEvaluation uuids report suppress)
        ⟨{ store with stateIdentity := some (store.stateIdentity.getD report.mode) }, 0, [], [], []⟩ = .ok latching := by
  simp only [StateStore.commitRun, admitReport, Fallible.bind_eq_ok_iff] at h
  obtain ⟨candidate, ⟨started, hstarted, completed, hcompleted, _, hclock, _, hlatest, _, hmode, hc⟩, latching,
    hloop, store', hpersist, h⟩ := h
  have hcanonical := le_of_canonicalTimestamp hcompleted
  obtain rfl := canonicalTimestamp_eq_ok hstarted
  obtain rfl := canonicalTimestamp_eq_ok hcompleted
  obtain rfl := Except.ok.inj hc
  obtain rfl := Except.ok.inj h
  obtain ⟨persisted, hp, hs⟩ := persist_eq_ok hpersist
  refine ⟨latching, persisted, ⟨latchEvaluations_eq_ok hloop, ⟨uuids, rfl⟩, hp, hs, hcanonical, ?_, ?_⟩, hloop⟩
  · simpa using hclock
  · intro run hrun
    obtain ⟨latest, hsome, hle⟩ := StateStore.le_latestCompletedAt hrun
    rw [hsome] at hlatest
    exact hle.trans (by simpa using hlatest)

/-- **What a commit does.** -/
theorem commitRun_eq_ok {uuids : ℕ → String} {report : RunReport} {config : Config} {now : ℤ}
    {cutoff : Timestamp} {suppress : Bool} {store : StateStore} {committed : Committed}
    (h : store.commitRun uuids report config now cutoff suppress = .ok committed) :
    ∃ latching persisted, IsCommitted report suppress cutoff store committed latching persisted := by
  obtain ⟨latching, persisted, hcommitted, -⟩ := commitRun_eq_ok_loop h
  exact ⟨latching, persisted, hcommitted⟩

end Sentinel
