/-
# A committed report is read back

A commit scatters a report over the tables and returns it as it was stored.
The newest stored run is then that run, its messages are those the commit
queued, and their members are the transitions, whatever the batches. So the
report that is loaded is the report that was returned, in every field.

Key theorems: `IsCommitted.runMessages_eq`, `IsCommitted.loadTransitions_eq`, `loadReports_commitRun`.
-/
import Sentinel.Delivery.Eligible
import Sentinel.Store.RoundTrip

namespace Sentinel

open Collections

/-- The report of a run that ended last is the newest. -/
theorem StateStore.loadReports_of_newest {store : StateStore} {before : List RunRow} {run : RunRow}
    (hruns : store.runs.rows = before ++ [run]) (hbefore : ∀ old ∈ before, old.completedAt ≤ run.completedAt) :
    store.loadReports 1 none = (store.loadReport run.id).map fun loaded => [loaded] := by
  have hlimit : min 1 i64Maximum.toNat = 1 := by decide
  have hlast : (orderBy (·.completedAt) store.runs.rows).reverse.take 1 = [run] := by
    rw [hruns, orderBy_concat _ hbefore, List.reverse_concat]
    rfl
  have hall : (orderBy (·.completedAt) store.runs.rows).reverse.filter (fun run =>
      (none : Option Timestamp).all (· ≤ run.completedAt)) = (orderBy (·.completedAt) store.runs.rows).reverse :=
    List.filter_eq_self.mpr fun _ _ => rfl
  show ((((orderBy (·.completedAt) store.runs.rows).reverse.filter (fun run =>
    (none : Option Timestamp).all (· ≤ run.completedAt))).take (min 1 i64Maximum.toNat)).mapM fun run =>
      store.loadReport run.id) = _
  rw [hall, hlimit, hlast, List.mapM_cons]
  cases store.loadReport run.id <;> rfl

section Commit

variable {report : RunReport} {suppress : Bool} {cutoff : Timestamp} {store : StateStore}
  {committed : Committed} {latching : Latching} {persisted : StateStore}

namespace IsCommitted

/-! ### The run -/

/-- The row of the committed run comes after those that were stored. -/
theorem storedRun (h : IsCommitted report suppress cutoff store committed latching persisted) :
    ∃ run, persisted.runs.rows = store.runs.rows ++ [run] ∧ run.id = report.runId ∧
      run.completedAt = report.completedAt ∧ IsStoredRun committed.store.conditionState committed.report run := by
  obtain ⟨run, hruns, hstored⟩ := h.stored.run
  obtain ⟨base, hbase, hrun⟩ := hstored.header
  obtain ⟨hid, -, hcompleted, -⟩ := runRow_eq_ok hbase
  have hframe : latching.store.runs = store.runs := by rw [h.latched.frame]
  refine ⟨run, hframe ▸ hruns, ?_, ?_, h.conditionState_persisted ▸ hstored⟩
  · rw [hrun, ← h.report_run.1, ← hid]
  · rw [hrun, ← h.report_run.2, ← hcompleted]

/-- The committed run has a new id. -/
theorem fresh (h : IsCommitted report suppress cutoff store committed latching persisted) :
    ∀ old ∈ store.runs.rows, old.id ≠ report.runId := by
  obtain ⟨run, hruns, hid, -⟩ := h.storedRun
  rw [← hid]
  exact fun old hold => Table.key_ne_of_split hruns old (List.mem_append_left _ hold)

/-- Retention keeps the committed run. -/
theorem not_isReleased (h : IsCommitted report suppress cutoff store committed latching persisted)
    (hcutoff : cutoff ≤ report.completedAt) {run : RunRow} (hrun : run ∈ persisted.runs.rows)
    (hid : run.id = report.runId) : persisted.isReleased cutoff run = false := by
  obtain ⟨new, hruns, hnew, hcompleted, -⟩ := h.storedRun
  have hmem : new ∈ persisted.runs.rows := by
    rw [hruns]
    exact List.mem_append_right _ (List.mem_singleton.mpr rfl)
  obtain rfl := persisted.runs.eq_of_key_eq hrun hmem (hid.trans hnew.symm)
  have hlt : ¬run.completedAt < cutoff := by
    rw [hcompleted]
    exact not_lt.mpr hcutoff
  rw [StateStore.isReleased, decide_eq_false hlt, Bool.false_and, Bool.false_and]

/-- The committed run is the last of the stored runs, and the newest. -/
theorem newest (h : IsCommitted report suppress cutoff store committed latching persisted)
    (hcutoff : cutoff ≤ report.completedAt) :
    ∃ before run, committed.store.runs.rows = before ++ [run] ∧ run.id = report.runId ∧
      IsStoredRun committed.store.conditionState committed.report run ∧
      ∀ old ∈ before, old.completedAt ≤ run.completedAt := by
  obtain ⟨run, hruns, hid, hcompleted, hstored⟩ := h.storedRun
  have hkept : persisted.isReleased cutoff run = false := h.not_isReleased hcutoff (by rw [hruns]; simp) hid
  refine ⟨store.runs.rows.filter fun run => !persisted.isReleased cutoff run, run, ?_, hid, hstored, ?_⟩
  · rw [h.pruned]
    show persisted.runs.rows.filter (fun run => !persisted.isReleased cutoff run) = _
    rw [hruns, List.filter_append, List.filter_singleton, hkept]
    rfl
  · intro old hold
    rw [hcompleted]
    exact (h.clock.2 old (List.mem_of_mem_filter hold)).trans h.clock.1

/-- The newest report is the committed run's. -/
theorem loadReports_eq (h : IsCommitted report suppress cutoff store committed latching persisted)
    (hcutoff : cutoff ≤ report.completedAt) :
    committed.store.loadReports 1 none = (committed.store.loadReport report.runId).map fun loaded => [loaded] := by
  obtain ⟨before, run, hruns, hid, -, hbefore⟩ := h.newest hcutoff
  rw [StateStore.loadReports_of_newest hruns hbefore, hid]

/-! ### The messages -/

/-- **The messages of the committed run** are those the commit queued. -/
theorem runMessages_eq (h : IsCommitted report suppress cutoff store committed latching persisted)
    (hcutoff : cutoff ≤ report.completedAt)
    (references : ∀ row ∈ store.notificationOutbox.rows, ∃ run ∈ store.runs.rows, run.id = row.runId) :
    List.Forall₂ (StateStore.IsQueued committed.store.conditionState committed.report.transitions
      committed.report.completedAt) committed.outbox (committed.store.runMessages report.runId) := by
  obtain ⟨rows, hqueued, hrows⟩ := h.stored.queued
  rw [← h.conditionState_persisted] at hqueued
  -- earlier messages are of earlier runs
  have hold : ∀ row ∈ latching.store.notificationOutbox.rows, row.runId ≠ report.runId := by
    have hcancellable : Cancellable fun row => ∃ run ∈ store.runs.rows, run.id = row.runId :=
      ⟨fun _ hrow _ => hrow, fun _ _ _ _ hrow _ _ _ => hrow⟩
    intro row hrow he
    obtain ⟨run, hrun, hid⟩ := hcancellable.cancels h.latched.cancels references row hrow
    exact h.fresh run hrun (hid.trans he)
  have hnew : ∀ row ∈ rows, row.runId = report.runId := by
    intro row hrow
    obtain ⟨message, hm, hq⟩ := Fallible.exists_of_forall₂_right hqueued row hrow
    obtain ⟨built, kind, batch, hbatch, hrun, -⟩ := h.batch_of_mem hm
    obtain ⟨uuid, hmessage⟩ := hbatch.header
    rw [hq.header, hmessage, ← hrun]
    rfl
  have hkept : ∀ row ∈ rows,
      (!(persisted.runs.rows.filter (persisted.isReleased cutoff)).any (·.id = row.runId)) = true := by
    intro row hrow
    rw [Bool.not_eq_true', List.any_eq_false]
    intro run hrun hid
    obtain ⟨hrun, hreleased⟩ := List.mem_filter.mp hrun
    rw [h.not_isReleased hcutoff hrun ((of_decide_eq_true hid).trans (hnew row hrow))] at hreleased
    cases hreleased
  have hmessages : committed.store.runMessages report.runId = rows := by
    rw [StateStore.runMessages, h.pruned]
    show (persisted.notificationOutbox.rows.filter _).filter _ = rows
    rw [hrows, List.filter_append, List.filter_append, List.filter_eq_self.mpr hkept,
      List.filter_eq_self.mpr fun row hrow => decide_eq_true (hnew row hrow), List.filter_eq_nil_iff.mpr,
      List.nil_append]
    intro row hrow
    simpa using hold row (List.mem_of_mem_filter hrow)
  rw [hmessages]
  exact hqueued

/-- The messages of the committed run are reported as the commit reported them. -/
theorem loadNotificationReports_eq (h : IsCommitted report suppress cutoff store committed latching persisted)
    (hcutoff : cutoff ≤ report.completedAt)
    (references : ∀ row ∈ store.notificationOutbox.rows, ∃ run ∈ store.runs.rows, run.id = row.runId) :
    committed.store.loadNotificationReports report.runId = committed.report.notifications := by
  have hqueued := h.runMessages_eq hcutoff references
  have hcreated : ∀ row ∈ committed.store.runMessages report.runId, row.createdAt = committed.report.completedAt := by
    intro row hrow
    obtain ⟨message, -, hq⟩ := Fallible.exists_of_forall₂_right hqueued row hrow
    rw [hq.header]
    rfl
  have hsorted : (committed.store.runMessages report.runId).Pairwise fun a b => a.createdAt ≤ b.createdAt :=
    List.pairwise_of_forall_mem_list fun a ha b hb => (hcreated a ha).trans_le (hcreated b hb).ge
  have hnotifications : committed.report.notifications = committed.outbox.map notificationReport := by
    rw [h.report_latched]
  rw [StateStore.loadNotificationReports, orderBy_eq_self hsorted, hnotifications]
  have hmem : ∀ message ∈ committed.outbox, message ∈ committed.outbox := fun _ hm => hm
  refine (Fallible.map_eq_map_of_forall₂ (((List.forall₂_and_left _ _).mpr ⟨hmem, hqueued⟩).imp ?_)).symm
  rintro message row ⟨hm, hq⟩
  have hids : row.members.map (·.conditionId) = message.conditionIds := by
    rw [h.members_of_isQueued hm hq]
    refine (Fallible.map_eq_map_of_forall₂ (hq.members.imp fun conditionId member hok => ?_)).symm.trans (List.map_id _)
    exact (outboxMember_eq_ok hok).2.2.1.symm
  rw [OutboxRow.report, hids, hq.header]
  rfl

/-- A run makes at most one transition of a condition. -/
theorem nodup_transitions (h : IsCommitted report suppress cutoff store committed latching persisted) :
    (committed.report.transitions.map (·.conditionId)).Nodup := by
  have hsub : ∀ evaluations : List ConditionEvaluation,
      ((evaluations.flatMap fun evaluation => (latchedTransition report suppress store evaluation).toList).map
        (·.conditionId)).Sublist (evaluations.map (·.id)) := by
    intro evaluations
    induction evaluations with
    | nil => exact .slnil
    | cons evaluation evaluations ih =>
      rw [List.flatMap_cons, List.map_append, List.map_cons]
      cases ht : latchedTransition report suppress store evaluation with
      | none => exact ih.cons _
      | some transition =>
        rw [← conditionId_of_latchedTransition report suppress store evaluation ht]
        exact ih.cons_cons _
  rw [h.transitions]
  exact ((perm_orderBy _ _).map _).nodup_iff.mpr ((hsub report.evaluations).nodup h.nodup)

/-- **The transitions are read back** from the members of the messages. -/
theorem loadTransitions_eq (h : IsCommitted report suppress cutoff store committed latching persisted)
    (hcutoff : cutoff ≤ report.completedAt)
    (references : ∀ row ∈ store.notificationOutbox.rows, ∃ run ∈ store.runs.rows, run.id = row.runId) :
    committed.store.loadTransitions report.runId = committed.report.transitions := by
  have hqueued := h.runMessages_eq hcutoff references
  obtain ⟨built, alerts, resolutions, alertMessages, resolutionMessages, -, houtbox, ha, hr, haf, hrf⟩ := h.outbox_batches
  rw [houtbox] at hqueued
  obtain ⟨alertRows, resolutionRows, hrows, hqa, hqr⟩ := Fallible.forall₂_append_left hqueued
  have hof : ∀ kind, ∀ t ∈ committed.report.transitions.filter (·.kind = kind), t.kind = kind ∧
      committed.report.transitions.find? (fun t' => t'.conditionId = t.conditionId ∧ t'.kind = t.kind) = some t := by
    intro kind t ht
    obtain ⟨ht, hk⟩ := List.mem_filter.mp ht
    exact ⟨of_decide_eq_true hk, h.find?_transition ht⟩
  have hmemberships : (committed.store.runMessages report.runId).flatMap (·.memberships) =
      committed.report.transitions.filter (·.kind = .alert) ++
        committed.report.transitions.filter (·.kind = .resolution) := by
    rw [hrows, List.flatMap_append, memberships_of_batches ha hqa (haf ▸ hof .alert),
      memberships_of_batches hr hqr (hrf ▸ hof .resolution), haf, hrf]
  have hperm : (committed.report.transitions.filter (·.kind = .alert) ++
      committed.report.transitions.filter (·.kind = .resolution)).Perm committed.report.transitions :=
    perm_kinds _
  have hnodup : (committed.report.transitions.filter (·.kind = .alert) ++
      committed.report.transitions.filter (·.kind = .resolution)).Nodup :=
    hperm.nodup_iff.mpr h.nodup_transitions.of_map
  show sortTransitions ((committed.store.runMessages report.runId).flatMap (·.memberships)).dedup = _
  rw [hmemberships, hnodup.dedup]
  refine List.Perm.eq_of_pairwise (fun a b ha hb hab hba => ?_) (pairwise_orderBy _ _) ?_
    ((perm_orderBy _ _).trans hperm)
  · have ha := hperm.mem_iff.mp (mem_orderBy.mp ha)
    have hkey := le_antisymm hab hba
    exact List.inj_on_of_nodup_map h.nodup_transitions ha hb (Prod.mk.inj (toLex_inj.mp hkey)).2
  · rw [h.transitions]
    exact pairwise_orderBy _ _

/-! ### The report -/

/-- The returned report is the report with what its latches and messages say. -/
theorem report_eq (h : IsCommitted report suppress cutoff store committed latching persisted) :
    committed.report = { report with
      stateSchemaVersion
      evaluations := committed.report.evaluations
      transitions := committed.report.transitions
      findings := orderBy (·.id) (findingsOf committed.report.evaluations)
      notifications := committed.report.notifications } := by
  rw [h.report_latched]

/-- Evaluations are returned in the order they were in. -/
theorem pairwise_evaluations (h : IsCommitted report suppress cutoff store committed latching persisted)
    (hsorted : report.evaluations.Pairwise fun a b => a.id ≤ b.id) :
    committed.report.evaluations.Pairwise fun a b => a.id ≤ b.id := by
  rw [h.report_evaluations, List.pairwise_map]
  refine hsorted.imp fun {a b} hle => ?_
  rwa [latchedEvaluation_id, latchedEvaluation_id]

theorem findings_eq {evaluations : List ConditionEvaluation}
    (hsorted : evaluations.Pairwise fun a b => a.id ≤ b.id) :
    orderBy (·.id) (findingsOf evaluations) = findingsOf evaluations :=
  orderBy_eq_self (List.pairwise_map.mpr (hsorted.filter _))

theorem loadEvaluations_eq {states : Table ConditionState.id} {report : RunReport} {run : RunRow}
    (h : IsStoredRun states report run) (hsorted : report.evaluations.Pairwise fun a b => a.id ≤ b.id) :
    StateStore.loadEvaluations run = report.evaluations := by
  have hrows := (Table.insertAll_eq_some_iff.mp h.evaluations).2
  rw [Table.rows_empty, List.nil_append] at hrows
  have horder : (report.evaluations.map (evaluationRow states)).Pairwise fun a b => a.conditionId ≤ b.conditionId :=
    List.pairwise_map.mpr hsorted
  rw [StateStore.loadEvaluations, hrows, orderBy_eq_self horder, List.map_map]
  exact List.map_id _

theorem loadAggregate_eq {aggregate : Option AggregateObservation} {row : Option AggregateRow}
    (hn : ∀ value ∈ aggregate, value.Normalized) (h : aggregate.mapM aggregateRow = .ok row) :
    row.mapM (·.load) = .ok aggregate := by
  cases aggregate with
  | none =>
    obtain rfl : none = row := Except.ok.inj h
    rfl
  | some value =>
    rw [Option.mapM_some] at h
    cases hstored : aggregateRow value with
    | error error =>
      rw [hstored] at h
      cases h
    | ok stored =>
      rw [hstored] at h
      obtain rfl := Except.ok.inj h
      rw [Option.mapM_some, load_aggregateRow (hn value rfl) hstored]
      rfl

/-- **The report of the committed run is read back.** -/
theorem loadReport_eq (h : IsCommitted report suppress cutoff store committed latching persisted)
    (assembled : report.Assembled) (hcutoff : cutoff ≤ report.completedAt)
    (references : ∀ row ∈ store.notificationOutbox.rows, ∃ run ∈ store.runs.rows, run.id = row.runId) :
    committed.store.loadReport report.runId = .ok committed.report := by
  obtain ⟨before, run, hruns, hid, hstored, -⟩ := h.newest hcutoff
  have hfind : committed.store.runs.find? report.runId = some run :=
    Table.find?_eq_some_iff.mpr ⟨by rw [hruns]; simp, hid⟩
  have hevaluations := loadEvaluations_eq hstored (h.pairwise_evaluations assembled.evaluations)
  have hfindings := findings_eq (h.pairwise_evaluations assembled.evaluations)
  have htransitions := h.loadTransitions_eq hcutoff references
  have hnotifications := h.loadNotificationReports_eq hcutoff references
  have htargets : (orderBy (·.targetId) run.targets.rows).mapM (·.load) = .ok report.targets := by
    have htable := hstored.targets
    rw [h.report_eq] at htable
    exact load_targetTable assembled.targets assembled.normalized htable
  have haggregate : run.aggregate.mapM (·.load) = .ok report.aggregate := by
    have hrow := hstored.aggregate
    rw [h.report_eq] at hrow
    exact loadAggregate_eq assembled.aggregate hrow
  obtain ⟨base, hbase, hrun⟩ := hstored.header
  rw [h.report_eq] at hbase
  simp only [runRow, Fallible.bind_eq_ok_iff] at hbase
  obtain ⟨expected, he, complete, hc, minimum, hm, _, -, hbase⟩ := hbase
  obtain rfl := i64FromUsize_eq_ok he
  obtain rfl := i64FromUsize_eq_ok hc
  obtain rfl := i64FromUsize_eq_ok hm
  obtain rfl := Except.ok.inj hbase
  rw [hrun] at hfind
  simp only [StateStore.loadReport, Fallible.bind_eq_ok_iff, constraint_eq_ok_iff]
  refine ⟨_, hfind, report.expectedTargets, usizeFromI64_natCast _ _, report.completeTargets, usizeFromI64_natCast _ _,
    report.minimumCompleteTargets, usizeFromI64_natCast _ _, report.exit.code, u8FromI64_toNat _ _, report.targets,
    htargets, report.aggregate, haggregate, ?_⟩
  have hexit : (⟨report.exit.code, exitReason report.exit.code⟩ : ExitReport) = report.exit := by
    rw [← assembled.exit]
  rw [htransitions, hnotifications, hexit, ← assembled.health, ← assembled.schemaVersion]
  show Except.ok { report with
    stateSchemaVersion
    evaluations := StateStore.loadEvaluations run
    transitions := committed.report.transitions
    findings := findingsOf (StateStore.loadEvaluations run)
    notifications := committed.report.notifications } = .ok committed.report
  rw [hevaluations, ← hfindings, ← h.report_eq]

end IsCommitted

end Commit

/-- **A committed report is read back.** When a report as a check assembles it
is committed to a database whose messages refer to stored runs, with a
retention that does not reach past the run itself, the newest report that is
then loaded is the one the commit returned. -/
theorem loadReports_commitRun {uuids : ℕ → String} {report : RunReport} {config : Config} {now : ℤ}
    {cutoff : Timestamp} {suppress : Bool} {store : StateStore} {committed : Committed}
    (assembled : report.Assembled) (retained : cutoff ≤ report.completedAt)
    (references : ∀ row ∈ store.notificationOutbox.rows, ∃ run ∈ store.runs.rows, run.id = row.runId)
    (h : store.commitRun uuids report config now cutoff suppress = .ok committed) :
    committed.store.loadReports 1 none = .ok [committed.report] := by
  obtain ⟨latching, persisted, hcommitted⟩ := commitRun_eq_ok h
  rw [hcommitted.loadReports_eq retained, hcommitted.loadReport_eq assembled retained references]
  rfl

/-- A resolver's report with the largest count. -/
def fullTarget : TargetReport :=
  { reportOf "one" 18446744073709551615 with
    upstreams := [⟨"https://two", .ofNat 1, some 5⟩, ⟨"https://one", .ofNat 0, none⟩]
    filters := [⟨"https://a", 1, true, 7, some "2026-01-01T00:00:00Z", none⟩, ⟨"https://b", -1, false, 0, none, some 0⟩]
    rewrites := [⟨"a", "b", true⟩, ⟨"a", "c", false⟩] }

def fullReport : RunReport := { apiReport "first" .active 1 with targets := [fullTarget] }

theorem assembled_fullReport : fullReport.Assembled where
  schemaVersion := rfl
  targets := List.pairwise_singleton _ _
  normalized target ht := by
    obtain rfl := List.mem_singleton.mp ht
    refine ⟨by decide, by decide, fun value hv => ?_, by decide +kernel⟩
    obtain rfl := Option.some.inj hv
    exact ⟨by decide +kernel, by decide +kernel, by decide +kernel, by decide +kernel⟩
  aggregate _ ha := nomatch ha
  evaluations := List.pairwise_singleton _ _
  health := rfl
  exit := rfl

/-- A first run finds the API down; it is read back with its alert. -/
theorem loadReports_commitRun_alert : ∃ committed,
    StateStore.empty.commitRun (fun _ => "message") fullReport apiConfig 1 (second 0) false = .ok committed ∧
    committed.report.notifications.map (·.conditionIds) = [["target:one:api"]] ∧
    committed.store.loadReports 1 none = .ok [committed.report] := by
  have hany : (StateStore.empty.commitRun (fun _ => "message") fullReport apiConfig 1 (second 0) false).toOption.any
      (fun committed => decide (committed.report.notifications.map (·.conditionIds) = [["target:one:api"]])) = true := by
    decide +kernel
  obtain ⟨committed, h, hconditions⟩ := Fallible.ok_of_any hany
  exact ⟨committed, h, of_decide_eq_true hconditions, loadReports_commitRun assembled_fullReport
    (show second 0 ≤ second 1 by decide) (fun _ hrow => absurd hrow List.not_mem_nil) h⟩

end Sentinel
