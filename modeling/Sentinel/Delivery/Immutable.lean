/-
# Stored history is immutable

Whatever happens to a database, a run it keeps is reported as before, delivery
apart: its messages stay, and a message with cancelled members is replaced for
the others, so the memberships of a run's messages are always those its commit
queued. A run announces a condition once, so its transitions are read back in
one order, with one wording, whatever became of the messages.

Key theorems: `keepsMessages_of_cancels`, `recorded_of_history`, `loadReport_withoutDelivery`,
`history_immutable`.
-/
import Sentinel.Delivery.Recovery
import Sentinel.Delivery.RoundTrip

namespace Sentinel

open Collections CrashTxn

/-! ### Messages stay -/

/-- The message with another delivery. -/
structure OutboxRow.SameMessage (row row' : OutboxRow) : Prop where
  id : row'.id = row.id
  runId : row'.runId = row.runId
  createdAt : row'.createdAt = row.createdAt
  transition : row'.transition = row.transition
  conditions : row'.conditions = row.conditions

/-- The row holds some of the message's members. -/
structure OutboxRow.PartOf (part row : OutboxRow) : Prop where
  runId : part.runId = row.runId
  createdAt : part.createdAt = row.createdAt
  transition : part.transition = row.transition
  members : ∀ member ∈ part.conditions.rows, member ∈ row.conditions.rows

theorem OutboxRow.SameMessage.refl (row : OutboxRow) : row.SameMessage row := ⟨rfl, rfl, rfl, rfl, rfl⟩

theorem OutboxRow.SameMessage.trans {row row' row'' : OutboxRow} (h : row.SameMessage row')
    (h' : row'.SameMessage row'') : row.SameMessage row'' :=
  ⟨h'.id.trans h.id, h'.runId.trans h.runId, h'.createdAt.trans h.createdAt, h'.transition.trans h.transition,
    h'.conditions.trans h.conditions⟩

theorem OutboxRow.SameMessage.partOf {row row' : OutboxRow} (h : row.SameMessage row') : row'.PartOf row :=
  ⟨h.runId, h.createdAt, h.transition, fun _ hm => h.conditions ▸ hm⟩

theorem OutboxRow.PartOf.trans {part row whole : OutboxRow} (h : part.PartOf row) (h' : row.PartOf whole) :
    part.PartOf whole :=
  ⟨h.runId.trans h'.runId, h.createdAt.trans h'.createdAt, h.transition.trans h'.transition,
    fun member hm => h'.members member (h.members member hm)⟩

/-- The messages stay in their places, and parts of them may follow. -/
def KeepsMessages (rows rows' : List OutboxRow) : Prop :=
  ∃ kept replacements, rows' = kept ++ replacements ∧ List.Forall₂ OutboxRow.SameMessage rows kept ∧
    ∀ replacement ∈ replacements, ∃ row ∈ rows, replacement.PartOf row

theorem KeepsMessages.refl (rows : List OutboxRow) : KeepsMessages rows rows :=
  ⟨rows, [], by simp, List.forall₂_same.mpr fun row _ => .refl row, fun _ hm => nomatch hm⟩

/-- Every message is one that was there, or a part of one. -/
theorem KeepsMessages.partOf {rows rows' : List OutboxRow} (h : KeepsMessages rows rows') :
    ∀ row' ∈ rows', ∃ row ∈ rows, row'.PartOf row := by
  obtain ⟨kept, replacements, rfl, hkept, hreplaced⟩ := h
  intro row' hrow'
  rcases List.mem_append.mp hrow' with hk | hr
  · obtain ⟨row, hrow, hsame⟩ := Fallible.exists_of_forall₂_right hkept row' hk
    exact ⟨row, hrow, hsame.partOf⟩
  · exact hreplaced row' hr

theorem KeepsMessages.trans {rows rows' rows'' : List OutboxRow} (h : KeepsMessages rows rows')
    (h' : KeepsMessages rows' rows'') : KeepsMessages rows rows'' := by
  have hpart := h.partOf
  obtain ⟨kept, replacements, rfl, hkept, hreplaced⟩ := h
  obtain ⟨kept', replacements', rfl, hkept', hreplaced'⟩ := h'
  obtain ⟨first, second, rfl, hfirst, hsecond⟩ := Fallible.forall₂_append_left hkept'
  refine ⟨first, second ++ replacements', by rw [List.append_assoc], Fallible.forall₂_trans .trans hkept hfirst, ?_⟩
  intro replacement hm
  rcases List.mem_append.mp hm with hm | hm
  · obtain ⟨old, hold, hsame⟩ := Fallible.exists_of_forall₂_right hsecond replacement hm
    obtain ⟨row, hrow, hof⟩ := hreplaced old hold
    exact ⟨row, hrow, hsame.partOf.trans hof⟩
  · obtain ⟨old, hold, hof⟩ := hreplaced' replacement hm
    obtain ⟨row, hrow, hof'⟩ := hpart old hold
    exact ⟨row, hrow, hof.trans hof'⟩

/-- The messages of one run stay as well. -/
theorem KeepsMessages.ofRun {rows rows' : List OutboxRow} (h : KeepsMessages rows rows') (runId : String) :
    KeepsMessages (rows.filter (·.runId = runId)) (rows'.filter (·.runId = runId)) := by
  obtain ⟨kept, replacements, rfl, hkept, hreplaced⟩ := h
  refine ⟨kept.filter (·.runId = runId), replacements.filter (·.runId = runId), List.filter_append .., ?_, ?_⟩
  · refine List.rel_filter (fun row row' hsame => ?_) hkept
    simp only [decide_eq_true_eq, hsame.runId]
  · intro replacement hm
    obtain ⟨hm, hid⟩ := List.mem_filter.mp hm
    obtain ⟨row, hrow, hof⟩ := hreplaced replacement hm
    refine ⟨row, List.mem_filter.mpr ⟨hrow, ?_⟩, hof⟩
    rwa [← hof.runId]

theorem keepsMessages_of_exchange {store store' : StateStore} {row row' : OutboxRow}
    (h : Exchanges store store' row row') (hsame : row.SameMessage row') :
    KeepsMessages store.notificationOutbox.rows store'.notificationOutbox.rows := by
  obtain ⟨before, after, hs, hs'⟩ := h
  refine ⟨before ++ row' :: after, [], by rw [hs', List.append_nil], ?_, fun _ hm => nomatch hm⟩
  rw [hs]
  have hrefl : ∀ rows : List OutboxRow, List.Forall₂ OutboxRow.SameMessage rows rows :=
    fun rows => List.forall₂_same.mpr fun row _ => .refl row
  exact List.rel_append (hrefl before) (.cons hsame (hrefl after))

/-- **Cancelling keeps messages**: what it cancels stays, and its replacement
holds members of it. -/
theorem keepsMessages_of_cancels {store store' : StateStore} (h : Cancels store store') :
    KeepsMessages store.notificationOutbox.rows store'.notificationOutbox.rows := by
  induction h with
  | refl => exact .refl _
  | tail _ hstep ih =>
    obtain ⟨conditionId, kind, hsplit, -, -, hrep, hrows⟩ := hstep
    refine ih.trans ?_
    rename_i row before after replacements outbox
    rw [hsplit, hrows]
    have hrefl : ∀ rows : List OutboxRow, List.Forall₂ OutboxRow.SameMessage rows rows :=
      fun rows => List.forall₂_same.mpr fun row _ => .refl row
    have hcancelled : row.SameMessage (StateStore.cancelledRow row) := ⟨rfl, rfl, rfl, rfl, rfl⟩
    refine ⟨before ++ StateStore.cancelledRow row :: after, replacements, by simp,
      List.rel_append (hrefl before) (.cons hcancelled (hrefl after)), fun replacement hm => ?_⟩
    rcases hrep with ⟨-, rfl⟩ | ⟨-, uuid, conditions, hconditions, rfl⟩
    · cases hm
    · obtain rfl := List.mem_singleton.mp hm
      refine ⟨row, by simp, rfl, rfl, rfl, fun member hmember => ?_⟩
      have hmember : member ∈ StateStore.survivors conditionId row := hconditions ▸ hmember
      exact mem_orderBy.mp (List.mem_of_mem_filter hmember)

/-! ### What a run announced -/

/-- Every message says of a condition what its run announced. -/
def Worded (wording : String → String → Option ConditionTransition) (row : OutboxRow) : Prop :=
  ∀ transition ∈ row.memberships, wording row.runId transition.conditionId = some transition

theorem memberships_subset {part row : OutboxRow} (h : part.PartOf row) :
    ∀ transition ∈ part.memberships, transition ∈ row.memberships := by
  intro transition hm
  obtain ⟨member, hmember, rfl⟩ := List.mem_map.mp hm
  refine List.mem_map.mpr ⟨member, h.members member hmember, ?_⟩
  rw [h.transition]

theorem Worded.partOf {wording : String → String → Option ConditionTransition} {part row : OutboxRow}
    (h : Worded wording row) (hof : part.PartOf row) : Worded wording part := by
  intro transition hm
  rw [hof.runId]
  exact h transition (memberships_subset hof transition hm)

theorem KeepsMessages.worded {rows rows' : List OutboxRow} (h : KeepsMessages rows rows')
    {wording : String → String → Option ConditionTransition} (hs : ∀ row ∈ rows, Worded wording row) :
    ∀ row ∈ rows', Worded wording row := by
  intro row' hrow'
  obtain ⟨row, hrow, hof⟩ := h.partOf row' hrow'
  exact (hs row hrow).partOf hof

section Commit

variable {report : RunReport} {suppress : Bool} {cutoff : Timestamp} {store : StateStore}
  {committed : Committed} {latching : Latching} {persisted : StateStore}

namespace IsCommitted

/-- A queued row holds transitions of its run. -/
theorem transitions_of_isQueued (h : IsCommitted report suppress cutoff store committed latching persisted)
    {message : OutboxMessage} (hm : message ∈ committed.outbox) {row : OutboxRow}
    (hrow : StateStore.IsQueued committed.store.conditionState committed.report.transitions
      committed.report.completedAt message row) :
    row.runId = report.runId ∧ ∀ transition ∈ row.memberships, transition ∈ committed.report.transitions := by
  obtain ⟨built, kind, batch, hbatch, hid, hsub⟩ := h.batch_of_mem hm
  obtain ⟨uuid, hmessage⟩ := hbatch.header
  have hmemberships : row.memberships = batch := memberships_of_isQueued hrow hbatch fun t ht => by
    obtain ⟨ht, hk⟩ := List.mem_filter.mp (hsub.subset ht)
    exact ⟨of_decide_eq_true hk, h.find?_transition ht⟩
  refine ⟨?_, fun transition ht => ?_⟩
  · rw [hrow.header, hmessage, ← hid]
    rfl
  · rw [hmemberships] at ht
    exact (List.mem_filter.mp (hsub.subset ht)).1

/-- **A commit words its run's messages**, and rewords none. -/
theorem worded (h : IsCommitted report suppress cutoff store committed latching persisted) (hruns : HasRuns store)
    {wording : String → String → Option ConditionTransition}
    (hs : ∀ row ∈ store.notificationOutbox.rows, Worded wording row) :
    ∃ wording', ∀ row ∈ committed.store.notificationOutbox.rows, Worded wording' row := by
  let wording' : String → String → Option ConditionTransition := fun runId conditionId =>
    if runId = report.runId then committed.report.transitions.find? (·.conditionId = conditionId)
    else wording runId conditionId
  have hfind : ∀ transition ∈ committed.report.transitions,
      committed.report.transitions.find? (·.conditionId = transition.conditionId) = some transition := by
    intro transition ht
    obtain ⟨evaluation, hm, hlatched, hid⟩ := h.conditionId_mem_of_transition ht
    have hfilter := h.filter_transitions_of_mem hm
    rw [hlatched, ← hid] at hfilter
    rw [← List.head?_filter, hfilter]
    rfl
  have hold : ∀ row ∈ store.notificationOutbox.rows, Worded wording' row := by
    intro row hrow transition ht
    obtain ⟨run, hrun, hpair⟩ := List.mem_map.mp (hruns.created row hrow)
    have hne : row.runId ≠ report.runId := (Prod.mk.inj hpair).1 ▸ h.fresh run hrun
    show (if row.runId = report.runId then _ else _) = _
    rw [if_neg hne]
    exact hs row hrow transition ht
  refine ⟨wording', fun row hrow => ?_⟩
  rcases h.mem_outbox hrow with hlatched | ⟨message, hm, hq⟩
  · exact (keepsMessages_of_cancels h.latched.cancels).worded hold row hlatched
  · obtain ⟨hid, hof⟩ := h.transitions_of_isQueued hm hq
    intro transition ht
    show (if row.runId = report.runId then _ else _) = _
    rw [if_pos hid]
    exact hfind transition (hof transition ht)

/-- **A run that retention keeps keeps its messages.** -/
theorem keepsMessages_ofRun (h : IsCommitted report suppress cutoff store committed latching persisted)
    {runId : String} (hne : runId ≠ report.runId) {run : RunRow} (hrun : run ∈ committed.store.runs.rows)
    (hid : run.id = runId) : KeepsMessages (store.runMessages runId) (committed.store.runMessages runId) := by
  have hkept : committed.store.runMessages runId = persisted.runMessages runId := by
    rw [h.pruned] at hrun ⊢
    show (persisted.notificationOutbox.rows.filter _).filter _ = persisted.notificationOutbox.rows.filter _
    rw [List.filter_filter]
    refine List.filter_congr fun row hrow => ?_
    by_cases hof : row.runId = runId
    · have hmem := pruneRuns_keeps_of_run hrow hrun (hid.trans hof.symm)
      rw [(List.mem_filter.mp hmem).2, Bool.and_true]
    · rw [decide_eq_false hof, Bool.false_and]
  obtain ⟨rows, hqueued, hrows⟩ := h.stored.queued
  have hqueued' : persisted.runMessages runId = latching.store.runMessages runId := by
    have hnew : rows.filter (fun row => row.runId = runId) = [] := by
      rw [List.filter_eq_nil_iff]
      intro row hnew hrow
      obtain ⟨message, hm, hq⟩ := Fallible.exists_of_forall₂_right hqueued row hnew
      obtain ⟨hown, -⟩ := h.transitions_of_isQueued hm (h.conditionState_persisted ▸ hq)
      exact hne ((of_decide_eq_true hrow).symm.trans hown)
    unfold StateStore.runMessages
    rw [hrows, List.filter_append, hnew, List.append_nil]
  rw [hkept, hqueued']
  exact (keepsMessages_of_cancels h.latched.cancels).ofRun runId

/-- The run is stored as it was. -/
theorem run_kept (h : IsCommitted report suppress cutoff store committed latching persisted)
    {runId : String} {run run' : RunRow} (before : store.runs.find? runId = some run)
    (after : committed.store.runs.find? runId = some run') : run' = run ∧ runId ≠ report.runId := by
  obtain ⟨hrun, rfl⟩ := Table.find?_eq_some_iff.mp before
  obtain ⟨hrun', hid⟩ := Table.find?_eq_some_iff.mp after
  obtain ⟨new, hruns, -⟩ := h.storedRun
  rw [h.pruned] at hrun'
  have hstored : run' ∈ persisted.runs.rows := List.mem_of_mem_filter hrun'
  have hold : run ∈ persisted.runs.rows := by
    rw [hruns]
    exact List.mem_append_left _ hrun
  exact ⟨persisted.runs.eq_of_key_eq hstored hold hid, h.fresh run hrun⟩

end IsCommitted

end Commit

/-! ### In every history -/

/-- The exit codes the schema admits. -/
def ExitCoded (store : StateStore) : Prop := ∀ run ∈ store.runs.rows, 0 ≤ run.exitCode ∧ run.exitCode ≤ 5

theorem ExitCoded.sameHistory {store store' : StateStore} (h : ExitCoded store) (hruns : SameHistory store store') :
    ExitCoded store' := by
  intro run' hrun'
  obtain ⟨run, hrun, -, hexit⟩ := Fallible.exists_of_forall₂_right hruns run' hrun'
  have hrange := h run hrun
  rcases hexit with hsame | hfour
  · omega
  · omega

theorem runRow_exitCode {report : RunReport} {run : RunRow} (h : runRow report = .ok run) :
    0 ≤ run.exitCode ∧ run.exitCode ≤ 5 := by
  simp only [runRow, Fallible.bind_eq_ok_iff, columnCheck_eq_ok_iff, decide_eq_true_eq] at h
  obtain ⟨_, -, _, -, _, -, _, hexit, h⟩ := h
  obtain rfl := Except.ok.inj h
  have hle : report.exit.code.toNat ≤ 5 := hexit
  show 0 ≤ (report.exit.code.toNat : ℤ) ∧ (report.exit.code.toNat : ℤ) ≤ 5
  omega

theorem IsCommitted.exitCoded {report : RunReport} {suppress : Bool} {cutoff : Timestamp} {store : StateStore}
    {committed : Committed} {latching : Latching} {persisted : StateStore}
    (h : IsCommitted report suppress cutoff store committed latching persisted) (hs : ExitCoded store) :
    ExitCoded committed.store := by
  intro run hrun
  rw [h.pruned] at hrun
  have hstored : run ∈ persisted.runs.rows := List.mem_of_mem_filter hrun
  obtain ⟨new, hruns, -, -, hnew⟩ := h.storedRun
  rw [hruns, List.mem_append, List.mem_singleton] at hstored
  rcases hstored with hold | rfl
  · exact hs run hold
  · obtain ⟨base, hbase, hrun⟩ := hnew.header
    have hexit := runRow_exitCode hbase
    rw [hrun]
    exact hexit

/-- What every history keeps of its runs and messages. -/
structure Recorded (store : StateStore) : Prop where
  hasRuns : HasRuns store
  exitCoded : ExitCoded store
  worded : ∃ wording, ∀ row ∈ store.notificationOutbox.rows, Worded wording row

theorem Recorded.keeps {store store' : StateStore} (h : Recorded store) (hruns : SameHistory store store')
    (hrows : KeepsMessages store.notificationOutbox.rows store'.notificationOutbox.rows) : Recorded store' := by
  obtain ⟨wording, hworded⟩ := h.worded
  refine ⟨h.hasRuns.sameRuns hruns.sameRuns fun row' hrow' => ?_, h.exitCoded.sameHistory hruns, wording,
    hrows.worded hworded⟩
  obtain ⟨row, hrow, hof⟩ := hrows.partOf row' hrow'
  rw [hof.runId, hof.createdAt]
  exact h.hasRuns.created row hrow

section Attempt

variable {store store' : StateStore}

theorem keeps_of_claim {uuid messageId executingRunId : String} {startedAt : Timestamp} {attempt : NotificationAttempt}
    (h : store.beginNotificationAttempt uuid messageId startedAt executingRunId = .ok (store', attempt)) :
    SameHistory store store' ∧ KeepsMessages store.notificationOutbox.rows store'.notificationOutbox.rows := by
  obtain ⟨row, attempts, runs, outbox, -, -, -, hexchange, hruns, -⟩ := StateStore.beginNotificationAttempt_eq_ok h
  exact ⟨hruns, keepsMessages_of_exchange hexchange ⟨rfl, rfl, rfl, rfl, rfl⟩⟩

theorem keeps_of_record {attempt : NotificationAttempt} {completedAt : Timestamp} {outcome : NotificationAttemptOutcome}
    {report : NotificationReport}
    (h : store.recordNotificationAttempt attempt completedAt outcome = .ok (store', report)) :
    SameHistory store store' ∧ KeepsMessages store.notificationOutbox.rows store'.notificationOutbox.rows := by
  obtain ⟨row, next, outbox, runs, states, -, -, -, -, -, hexchange, hruns, -, -⟩ :=
    StateStore.recordNotificationAttempt_eq_ok h
  exact ⟨hruns, keepsMessages_of_exchange hexchange ⟨rfl, rfl, rfl, rfl, rfl⟩⟩

theorem keeps_of_refresh {runId : String} (h : store.refreshRunDelivery runId = .ok store') :
    SameHistory store store' ∧ KeepsMessages store.notificationOutbox.rows store'.notificationOutbox.rows := by
  obtain ⟨⟨runs, rfl⟩, hruns⟩ := StateStore.refreshRunDelivery_eq_ok h
  exact ⟨hruns, .refl _⟩

end Attempt

/-- **Every history words its messages once.** -/
theorem recorded_of_history {events : List Event} {store : StateStore} (h : History events store) : Recorded store := by
  induction h with
  | start =>
    exact ⟨⟨fun _ hm => (nomatch hm), fun _ hm => (nomatch hm)⟩, fun _ hm => (nomatch hm), fun _ _ => none,
      fun _ hm => (nomatch hm)⟩
  | commit _ ok ih =>
    obtain ⟨latching, persisted, hcommitted⟩ := commitRun_eq_ok ok
    obtain ⟨wording, hworded⟩ := ih.worded
    exact ⟨hcommitted.hasRuns ih.hasRuns, hcommitted.exitCoded ih.exitCoded, hcommitted.worded ih.hasRuns hworded⟩
  | claim _ _ ok ih =>
    obtain ⟨hruns, hrows⟩ := keeps_of_claim ok
    exact ih.keeps hruns hrows
  | record _ _ ok ih =>
    obtain ⟨hruns, hrows⟩ := keeps_of_record ok
    exact ih.keeps hruns hrows
  | recover _ _ ok ih =>
    obtain ⟨attempt, report, -, hrecord⟩ := StateStore.recoverAttempt_eq_ok ok
    obtain ⟨hruns, hrows⟩ := keeps_of_record hrecord
    exact ih.keeps hruns hrows
  | refresh _ ok ih =>
    obtain ⟨hruns, hrows⟩ := keeps_of_refresh ok
    exact ih.keeps hruns hrows

/-! ### Reports without delivery -/

def Finding.withoutDelivery (finding : Finding) : Finding := { finding with notificationState := .never }

def NotificationReport.withoutDelivery (notification : NotificationReport) : NotificationReport :=
  { notification with status := .pending, remoteRequestId := none, errorClass := none }

/-- A report without what delivery may change: its notifications and its
activity, its exit code, and the delivery states of evaluations and findings. -/
def RunReport.withoutDelivery (report : RunReport) : RunReport :=
  { report with
    evaluations := report.evaluations.map (·.withoutDelivery)
    findings := report.findings.map (·.withoutDelivery)
    notifications := []
    deliveryActivity := []
    exit := ⟨0, exitReason 0⟩ }

theorem findingsOf_withoutDelivery (evaluations : List ConditionEvaluation) :
    (findingsOf evaluations).map (·.withoutDelivery) =
      (findingsOf (evaluations.map (·.withoutDelivery))).map (·.withoutDelivery) := by
  unfold findingsOf
  rw [List.filter_map, List.map_map, List.map_map, List.map_map]
  rfl

/-- The evaluations of a run, without delivery, are read from the run without
delivery. -/
theorem loadEvaluations_withoutDelivery (run : RunRow) :
    (StateStore.loadEvaluations run).map (·.withoutDelivery) = StateStore.loadEvaluations run.withoutDelivery := by
  unfold StateStore.loadEvaluations RunRow.withoutDelivery
  rw [Table.rows_modify, orderBy_map EvaluationRow.withoutDelivery_id, List.map_map, List.map_map]
  rfl

section Load

variable {store store' : StateStore} {runId : String}

/-- The memberships of a run's messages. -/
def memberships (runId : String) (store : StateStore) : List ConditionTransition :=
  (store.runMessages runId).flatMap (·.memberships)

/-- **Keeping messages keeps what they were about.** -/
theorem mem_memberships_iff (h : KeepsMessages (store.runMessages runId) (store'.runMessages runId))
    (transition : ConditionTransition) : transition ∈ memberships runId store' ↔ transition ∈ memberships runId store := by
  simp only [memberships, List.mem_flatMap]
  constructor
  · rintro ⟨row', hrow', ht⟩
    obtain ⟨row, hrow, hof⟩ := h.partOf row' hrow'
    exact ⟨row, hrow, memberships_subset hof transition ht⟩
  · rintro ⟨row, hrow, ht⟩
    obtain ⟨kept, replacements, hrows, hkept, -⟩ := h
    obtain ⟨row', hrow', hsame⟩ := Fallible.exists_of_forall₂_left hkept row hrow
    refine ⟨row', hrows ▸ List.mem_append_left _ hrow', ?_⟩
    rw [OutboxRow.memberships, hsame.conditions, hsame.transition]
    exact ht

/-- A run's messages speak of a condition in one way. -/
theorem inj_memberships (h : Recorded store) : ∀ transition ∈ memberships runId store,
    ∀ other ∈ memberships runId store, transition.conditionId = other.conditionId → transition = other := by
  obtain ⟨wording, hworded⟩ := h.worded
  have hsome : ∀ transition ∈ memberships runId store, wording runId transition.conditionId = some transition := by
    intro transition ht
    obtain ⟨row, hrow, ht⟩ := List.mem_flatMap.mp ht
    obtain ⟨hrow, hid⟩ := List.mem_filter.mp hrow
    rw [← of_decide_eq_true hid]
    exact hworded row hrow transition ht
  intro transition ht other ho hid
  have hboth := (hsome transition ht).symm.trans (hid ▸ hsome other ho)
  exact Option.some.inj hboth

/-- **The transitions are read back as they were**, each once. -/
theorem loadTransitions_keeps (h : Recorded store)
    (hrows : KeepsMessages (store.runMessages runId) (store'.runMessages runId)) :
    store'.loadTransitions runId = store.loadTransitions runId ∧ (store.loadTransitions runId).Nodup := by
  have hperm : (memberships runId store').dedup.Perm (memberships runId store).dedup := by
    rw [List.perm_ext_iff_of_nodup (List.nodup_dedup _) (List.nodup_dedup _)]
    intro transition
    rw [List.mem_dedup, List.mem_dedup, mem_memberships_iff hrows]
  show sortTransitions (memberships runId store').dedup = sortTransitions (memberships runId store).dedup ∧
    (sortTransitions (memberships runId store).dedup).Nodup
  refine ⟨?_, (perm_orderBy _ _).nodup_iff.mpr (List.nodup_dedup _)⟩
  have hsorted : (sortTransitions (memberships runId store').dedup).Perm (sortTransitions (memberships runId store).dedup) :=
    calc (sortTransitions (memberships runId store').dedup).Perm (memberships runId store').dedup := perm_orderBy _ _
      List.Perm _ (memberships runId store).dedup := hperm
      List.Perm _ (sortTransitions (memberships runId store).dedup) := (perm_orderBy _ _).symm
  refine List.Perm.eq_of_pairwise (fun a b ha hb hab hba => ?_) (pairwise_orderBy _ _) (pairwise_orderBy _ _) hsorted
  have ha : a ∈ memberships runId store := List.mem_dedup.mp (hperm.mem_iff.mp (mem_orderBy.mp ha))
  have hb : b ∈ memberships runId store := List.mem_dedup.mp (mem_orderBy.mp hb)
  have hkey := le_antisymm hab hba
  exact inj_memberships h a ha b hb (Prod.mk.inj (toLex_inj.mp hkey)).2

/-- **The notifications stay in their places**, delivery apart; replacements
come after them. -/
theorem loadNotificationReports_keeps (h : HasRuns store)
    (hrows : KeepsMessages (store.runMessages runId) (store'.runMessages runId)) :
    (store.loadNotificationReports runId).map (·.withoutDelivery) <+:
      (store'.loadNotificationReports runId).map (·.withoutDelivery) := by
  -- the messages of a run are as old as the run
  have hcreated : ∀ row ∈ store.runMessages runId, ∀ other ∈ store.runMessages runId, row.createdAt = other.createdAt := by
    intro row hrow other hother
    obtain ⟨hrow, hid⟩ := List.mem_filter.mp hrow
    obtain ⟨hother, hid'⟩ := List.mem_filter.mp hother
    obtain ⟨run, hrun, hpair⟩ := List.mem_map.mp (h.created row hrow)
    obtain ⟨run', hrun', hpair'⟩ := List.mem_map.mp (h.created other hother)
    obtain ⟨hrunId, hrow⟩ := Prod.mk.inj hpair
    obtain ⟨hrunId', hother⟩ := Prod.mk.inj hpair'
    have hsame : run.id = run'.id := by
      rw [hrunId, hrunId', of_decide_eq_true hid, of_decide_eq_true hid']
    obtain rfl := store.runs.eq_of_key_eq hrun hrun' hsame
    rw [← hrow, ← hother]
  have hordered : ∀ rows : List OutboxRow, (∀ row ∈ rows, ∃ old ∈ store.runMessages runId, row.PartOf old) →
      orderBy (·.createdAt) rows = rows := by
    intro rows hparts
    refine orderBy_eq_self (List.pairwise_of_forall_mem_list fun a ha b hb => ?_)
    obtain ⟨old, hold, hof⟩ := hparts a ha
    obtain ⟨old', hold', hof'⟩ := hparts b hb
    rw [hof.createdAt, hof'.createdAt, hcreated old hold old' hold']
  unfold StateStore.loadNotificationReports
  rw [hordered _ fun row hrow => ⟨row, hrow, (OutboxRow.SameMessage.refl row).partOf⟩, hordered _ hrows.partOf]
  obtain ⟨kept, replacements, hsplit, hkept, -⟩ := hrows
  have hsame : (store.runMessages runId).map (·.report.withoutDelivery) = kept.map (·.report.withoutDelivery) := by
    refine Fallible.map_eq_map_of_forall₂ (hkept.imp fun row row' hrow => ?_)
    show (⟨row.id, row.transition, row.members.map (·.conditionId), .pending, none, none⟩ : NotificationReport) =
      ⟨row'.id, row'.transition, row'.members.map (·.conditionId), .pending, none, none⟩
    rw [hrow.id, hrow.transition, OutboxRow.members, OutboxRow.members, hrow.conditions]
  rw [List.map_map, List.map_map, hsplit, List.map_append]
  show (store.runMessages runId).map (·.report.withoutDelivery) <+: _
  rw [hsame]
  exact List.prefix_append _ _

theorem u8FromI64_ok {value : ℤ} (detail : String) (h : 0 ≤ value ∧ value ≤ 5) :
    ∃ code, u8FromI64 value detail = .ok code := by
  unfold u8FromI64
  rw [if_pos (by omega)]
  exact ⟨_, rfl⟩

/-- **A run whose row differs in delivery only is reported as before**, delivery
apart. -/
theorem loadReport_withoutDelivery {run run' : RunRow} (hrun : store.runs.find? runId = some run)
    (hrun' : store'.runs.find? runId = some run') (hdelivered : run.Delivered run')
    (hexit : 0 ≤ run.exitCode ∧ run.exitCode ≤ 5)
    (htransitions : store'.loadTransitions runId = store.loadTransitions runId) :
    (store'.loadReport runId).map (·.withoutDelivery) = (store.loadReport runId).map (·.withoutDelivery) := by
  have hexit' : 0 ≤ run'.exitCode ∧ run'.exitCode ≤ 5 := by
    rcases hdelivered.2 with hsame | hfour <;> omega
  obtain ⟨code, hcode⟩ := u8FromI64_ok "exit code out of range" hexit
  obtain ⟨code', hcode'⟩ := u8FromI64_ok "exit code out of range" hexit'
  have hevaluations : (StateStore.loadEvaluations run').map (·.withoutDelivery) =
      (StateStore.loadEvaluations run).map (·.withoutDelivery) := by
    rw [loadEvaluations_withoutDelivery, loadEvaluations_withoutDelivery, hdelivered.1]
  have hfindings : (findingsOf (StateStore.loadEvaluations run')).map (·.withoutDelivery) =
      (findingsOf (StateStore.loadEvaluations run)).map (·.withoutDelivery) := by
    rw [findingsOf_withoutDelivery, hevaluations, ← findingsOf_withoutDelivery]
  have hfields := hdelivered.1
  simp only [RunRow.withoutDelivery, RunRow.mk.injEq, true_and] at hfields
  obtain ⟨-, hstarted, hcompleted, hmode, hconfig, hstatus, hexpected, hcomplete, hminimum, hissues, htargets,
    haggregate, -⟩ := hfields
  simp only [StateStore.loadReport, hrun, hrun', hcode, hcode', htransitions, hstarted, hcompleted, hmode, hconfig,
    hstatus, hexpected, hcomplete, hminimum, hissues, htargets, haggregate, constraint, Fallible.demand, Fallible.ok_bind]
  cases usizeFromI64 run.expectedTargets "expected target count" with
  | error => rfl
  | ok expectedTargets =>
    cases usizeFromI64 run.completeTargets "complete target count" with
    | error => rfl
    | ok completeTargets =>
      cases usizeFromI64 run.minimumTargets "minimum target count" with
      | error => rfl
      | ok minimumTargets =>
        cases (orderBy (·.targetId) run.targets.rows).mapM (·.load) with
        | error => rfl
        | ok targets =>
          cases run.aggregate.mapM (·.load) with
          | error => rfl
          | ok aggregate =>
            refine congrArg Except.ok ?_
            simp only [RunReport.withoutDelivery, hevaluations, hfindings]

end Load

/-! ### Operations -/

/-- One operation on a database; recovery may die between its transactions. -/
inductive Operation : StateStore → StateStore → Prop
  | commit {store : StateStore} {uuids : ℕ → String} {report : RunReport} {config : Config} {now : ℤ}
      {cutoff : Timestamp} {suppress : Bool} {committed : Committed}
      (ok : store.commitRun uuids report config now cutoff suppress = .ok committed) : Operation store committed.store
  | claim {store store' : StateStore} {uuid messageId executingRunId : String} {startedAt : Timestamp}
      {attempt : NotificationAttempt}
      (ok : store.beginNotificationAttempt uuid messageId startedAt executingRunId = .ok (store', attempt)) :
      Operation store store'
  | record {store store' : StateStore} {attempt : NotificationAttempt} {completedAt : Timestamp}
      {outcome : NotificationAttemptOutcome} {report : NotificationReport}
      (ok : store.recordNotificationAttempt attempt completedAt outcome = .ok (store', report)) : Operation store store'
  | recover {store store' : StateStore} {recoveredAt : Timestamp}
      (left : store' ∈ crashStates (StateStore.recoverInterruptedAttempts recoveredAt) store) : Operation store store'
  | refresh {store store' : StateStore} {runId : String} (ok : store.refreshRunDelivery runId = .ok store') :
      Operation store store'

/-- Recovery keeps runs and messages. -/
theorem spec_recover_keeps (recoveredAt : Timestamp) (store : StateStore) :
    Spec (fun now => SameHistory store now ∧ KeepsMessages store.notificationOutbox.rows now.notificationOutbox.rows)
      (fun now => SameHistory store now ∧ KeepsMessages store.notificationOutbox.rows now.notificationOutbox.rows)
      (StateStore.recoverInterruptedAttempts recoveredAt) fun _ now =>
        (SameHistory store now ∧ KeepsMessages store.notificationOutbox.rows now.notificationOutbox.rows) ∧
          NoneInFlight now := by
  refine spec_recover (fun hnow ok => ?_) recoveredAt
  obtain ⟨hruns, hrows⟩ := keeps_of_record ok
  exact ⟨hnow.1.trans hruns, hnow.2.trans hrows⟩

/-- Recovery keeps runs and messages, wherever it dies. -/
theorem keeps_of_recover {recoveredAt : Timestamp} {store store' : StateStore}
    (left : store' ∈ crashStates (StateStore.recoverInterruptedAttempts recoveredAt) store) :
    SameHistory store store' ∧ KeepsMessages store.notificationOutbox.rows store'.notificationOutbox.rows :=
  (spec_recover_keeps recoveredAt store).crash ⟨.refl _, .refl _⟩ left

/-- **An operation keeps a run and its messages**, unless it deletes the run. -/
theorem Operation.keeps {store store' : StateStore} (op : Operation store store') {runId : String} {run run' : RunRow}
    (before : store.runs.find? runId = some run) (after : store'.runs.find? runId = some run') :
    run.Delivered run' ∧ KeepsMessages (store.runMessages runId) (store'.runMessages runId) := by
  have hall : ∀ {store' : StateStore}, store'.runs.find? runId = some run' → SameHistory store store' ∧
      KeepsMessages store.notificationOutbox.rows store'.notificationOutbox.rows →
      run.Delivered run' ∧ KeepsMessages (store.runMessages runId) (store'.runMessages runId) := by
    rintro store' after ⟨hruns, hrows⟩
    obtain ⟨hrun, hid⟩ := Table.find?_eq_some_iff.mp before
    obtain ⟨hrun', hid'⟩ := Table.find?_eq_some_iff.mp after
    obtain ⟨old, hold, hdelivered⟩ := Fallible.exists_of_forall₂_right hruns run' hrun'
    have hsame : old.id = run'.id := by
      show old.withoutDelivery.id = run'.withoutDelivery.id
      rw [hdelivered.1]
    obtain rfl := store.runs.eq_of_key_eq hold hrun (hsame.trans (hid'.trans hid.symm))
    exact ⟨hdelivered, hrows.ofRun runId⟩
  cases op with
  | commit ok =>
    obtain ⟨latching, persisted, hcommitted⟩ := commitRun_eq_ok ok
    obtain ⟨rfl, hne⟩ := hcommitted.run_kept before after
    obtain ⟨hrun', hid'⟩ := Table.find?_eq_some_iff.mp after
    exact ⟨.refl _, hcommitted.keepsMessages_ofRun hne hrun' hid'⟩
  | claim ok => exact hall after (keeps_of_claim ok)
  | record ok => exact hall after (keeps_of_record ok)
  | recover left => exact hall after (keeps_of_recover left)
  | refresh ok => exact hall after (keeps_of_refresh ok)

theorem loadReport_eq_ok {store : StateStore} {runId : String} {report : RunReport}
    (h : store.loadReport runId = .ok report) :
    report.transitions = store.loadTransitions runId ∧ report.notifications = store.loadNotificationReports runId := by
  simp only [StateStore.loadReport, Fallible.bind_eq_ok_iff] at h
  obtain ⟨_, -, _, -, _, -, _, -, _, -, _, -, _, -, h⟩ := h
  obtain rfl := Except.ok.inj h
  exact ⟨rfl, rfl⟩

/-- **Stored history is immutable.** In every history, an operation that does
not delete a run leaves its report as it was, delivery apart; the report's
transitions are distinct, and its notifications stay in their places, before
any replacements. -/
theorem history_immutable {events : List Event} {store store' : StateStore} (h : History events store)
    (op : Operation store store') {runId : String} {run run' : RunRow} (before : store.runs.find? runId = some run)
    (after : store'.runs.find? runId = some run') :
    (store'.loadReport runId).map (·.withoutDelivery) = (store.loadReport runId).map (·.withoutDelivery) ∧
    ∀ report report', store.loadReport runId = .ok report → store'.loadReport runId = .ok report' →
      report.transitions.Nodup ∧
      report.notifications.map (·.withoutDelivery) <+: report'.notifications.map (·.withoutDelivery) := by
  have hrecorded := recorded_of_history h
  obtain ⟨hdelivered, hrows⟩ := op.keeps before after
  obtain ⟨htransitions, hnodup⟩ := loadTransitions_keeps hrecorded hrows
  have hexit := hrecorded.exitCoded run (Table.find?_eq_some_iff.mp before).1
  refine ⟨loadReport_withoutDelivery before after hdelivered hexit htransitions, fun report report' hload hload' => ?_⟩
  obtain ⟨htransitions, hnotifications⟩ := loadReport_eq_ok hload
  obtain ⟨-, hnotifications'⟩ := loadReport_eq_ok hload'
  rw [htransitions, hnotifications, hnotifications']
  exact ⟨hnodup, loadNotificationReports_keeps hrecorded.hasRuns hrows⟩

/-- An alert the provider rejects fails the run that sent it, and the run is
otherwise reported as before. -/
theorem history_immutable_rejected : ∃ store store', HasHistory store ∧ Operation store store' ∧
    (store.runs.find? "first").map (·.exitCode) = some 0 ∧ (store'.runs.find? "first").map (·.exitCode) = some 4 ∧
    (store'.loadReport "first").map (·.withoutDelivery) = (store.loadReport "first").map (·.withoutDelivery) := by
  have hany : (apiAlert (.failed (some 400) none "rejected")).toOption.any (fun alert =>
      decide ((alert.claimed.runs.find? "first").map (·.exitCode) = some 0 ∧
        (alert.recorded.runs.find? "first").map (·.exitCode) = some 4)) = true := by decide +kernel
  obtain ⟨alert, h, hcodes⟩ := Fallible.ok_of_any hany
  obtain ⟨hbefore, hafter⟩ := of_decide_eq_true hcodes
  obtain ⟨attempt, report, hcommit, hclaim, hrecord⟩ := apiAlert_eq_ok h
  obtain ⟨row, _, _, _, hrow, -⟩ := StateStore.beginNotificationAttempt_eq_ok hclaim
  have hhistory := (History.start.commit hcommit).claim hrow hclaim
  obtain ⟨run, hrun, -⟩ := Option.map_eq_some_iff.mp hbefore
  obtain ⟨run', hrun', -⟩ := Option.map_eq_some_iff.mp hafter
  exact ⟨alert.claimed, alert.recorded, ⟨_, hhistory⟩, .record hrecord, hbefore, hafter,
    (history_immutable hhistory (.record hrecord) hrun hrun').1⟩

end Sentinel
