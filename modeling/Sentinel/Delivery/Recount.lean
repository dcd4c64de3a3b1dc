/-
# Every stored run is read back

A logbook's stored runs are the reports that were committed, in their order.
Loading a run gives back the report its commit returned, delivery apart,
whatever has been committed, cancelled, delivered or pruned since. So the
newest reports are those of the logbook, newest first.

Key theorems: `Logbook.journal`, `Logbook.spared`, `Logbook.loadReport_eq`, `Logbook.loadReports_eq`.
-/
import Sentinel.Delivery.Logbook
import Sentinel.Delivery.Recollect

namespace Sentinel

open Collections CrashTxn

/-- **An operation leaves the report of a run** that it does not delete, delivery apart. -/
theorem Operation.loadReport_eq {store store' : StateStore} (op : Operation store store') (h : Recorded store)
    {runId : String} {run run' : RunRow} (before : store.runs.find? runId = some run)
    (after : store'.runs.find? runId = some run') :
    (store'.loadReport runId).map (·.withoutDelivery) = (store.loadReport runId).map (·.withoutDelivery) := by
  obtain ⟨hdelivered, hrows⟩ := op.keeps before after
  have hexit := h.exitCoded run (Table.find?_eq_some_iff.mp before).1
  exact loadReport_withoutDelivery before after hdelivered hexit (loadTransitions_keeps h hrows).1

/-- The run is reported as it was committed, delivery apart. -/
def StateStore.Reports (store : StateStore) (run : LoggedRun) : Prop :=
  (store.loadReport run.report.runId).map (·.withoutDelivery) = .ok run.stored.withoutDelivery

/-- What a check guarantees of the runs it commits. -/
structure LoggedRun.Checked (run : LoggedRun) : Prop where
  assembled : run.report.Assembled
  retained : run.cutoff ≤ run.report.completedAt

theorem HasRuns.references {store : StateStore} (h : HasRuns store) :
    ∀ row ∈ store.notificationOutbox.rows, ∃ run ∈ store.runs.rows, run.id = row.runId := by
  intro row hrow
  obtain ⟨run, hrun, hpair⟩ := List.mem_map.mp (h.created row hrow)
  exact ⟨run, hrun, (Prod.mk.inj hpair).1⟩

namespace Logbook

variable {log kept : List LoggedRun} {store : StateStore}

/-- A logbook is a journal. -/
theorem journal (h : Logbook log kept store) :
    Journal (log.map fun run => (run.report, run.cutoff)) (kept.map (·.report)) store := by
  induction h with
  | start => exact .start
  | @commit log kept store _ report _ _ cutoff suppress committed _ ok ih =>
    have hkept : ((kept ++ [LoggedRun.mk store report cutoff suppress committed.report]).filter fun run =>
          (committed.store.runs.find? run.report.runId).isSome).map (·.report) =
        (kept.map (·.report) ++ [report]).filter fun report => (committed.store.runs.find? report.runId).isSome := by
      show _ = (kept.map (·.report) ++ [LoggedRun.mk store report cutoff suppress committed.report].map (·.report)).filter _
      rw [← List.map_append, List.filter_map]
      rfl
    rw [hkept, List.map_append]
    exact ih.commit ok
  | claim _ ok ih => exact ih.claim ok
  | record _ ok ih => exact ih.record ok
  | refresh _ ok ih => exact ih.refresh ok

theorem sublist (h : Logbook log kept store) : kept.Sublist log := by
  induction h with
  | start => exact .slnil
  | commit _ _ ih => exact List.filter_sublist.trans (ih.append (.refl _))
  | claim _ _ ih | record _ _ ih | refresh _ _ ih => exact ih

/-- A kept run is stored. -/
theorem find?_of_mem (h : Logbook log kept store) {run : LoggedRun} (hm : run ∈ kept) :
    ∃ row, store.runs.find? run.report.runId = some row := by
  have hrecords := List.forall₂_map_left_iff.mp h.journal.transcribed.records
  obtain ⟨row, hrow, hof⟩ := Fallible.exists_of_forall₂_left hrecords run hm
  exact ⟨row, Table.find?_eq_some_iff.mpr ⟨hrow, hof.id⟩⟩

/-- **Retention keeps a run** that completed after every cutoff. -/
theorem spared (h : Logbook log kept store) : ∀ run ∈ log, (∀ other ∈ log, other.cutoff ≤ run.report.completedAt) →
    run ∈ kept := by
  induction h with
  | start => exact fun run hm => absurd hm List.not_mem_nil
  | @commit log kept store _ report _ _ cutoff suppress committed hlogbook ok ih =>
    obtain ⟨latching, persisted, hcommitted⟩ := commitRun_eq_ok ok
    intro run hm hlate
    refine List.mem_filter.mpr ⟨?_, ?_⟩
    · rw [List.mem_append] at hm ⊢
      exact hm.imp_left fun hm => ih run hm fun other ho => hlate other (List.mem_append_left _ ho)
    -- the run's row was there before retention, and its time is not before the cutoff
    have hrow : ∃ row ∈ persisted.runs.rows, RunRow.Records run.report row := by
      obtain ⟨new, hruns, hnew⟩ := hcommitted.records
      rw [hruns]
      rcases List.mem_append.mp hm with hm | hm
      · have hkept := ih run hm fun other ho => hlate other (List.mem_append_left _ ho)
        have hrecords := List.forall₂_map_left_iff.mp hlogbook.journal.transcribed.records
        obtain ⟨row, hrow, hof⟩ := Fallible.exists_of_forall₂_left hrecords run hkept
        exact ⟨row, List.mem_append_left _ hrow, hof⟩
      · obtain rfl := List.mem_singleton.mp hm
        exact ⟨new, List.mem_append_right _ List.mem_cons_self, hnew⟩
    obtain ⟨row, hrow, hof⟩ := hrow
    have hcutoff : cutoff ≤ row.completedAt :=
      hof.completedAt ▸ hlate ⟨store, report, cutoff, suppress, committed.report⟩ (by simp)
    rw [← hof.id, hcommitted.isSome_find?_iff hrow, StateStore.isReleased, decide_eq_false (not_lt.mpr hcutoff),
      Bool.false_and, Bool.false_and]
  | claim _ _ ih | record _ _ ih | refresh _ _ ih => exact ih

/-- The kept runs are reported as before after an operation that keeps them. -/
theorem reports_of_operation {store' : StateStore} {kept' : List LoggedRun} (h : Logbook log kept store)
    (op : Operation store store') (hreports : ∀ run ∈ kept, store.Reports run) (hsub : kept'.Sublist kept)
    (hfound : ∀ run ∈ kept', ∃ row, store'.runs.find? run.report.runId = some row) :
    ∀ run ∈ kept', store'.Reports run := by
  obtain ⟨events, hhistory⟩ := h.history
  intro run hm
  obtain ⟨row, hrow⟩ := h.find?_of_mem (hsub.subset hm)
  obtain ⟨row', hrow'⟩ := hfound run hm
  exact (op.loadReport_eq (recorded_of_history hhistory) hrow hrow').trans (hreports run (hsub.subset hm))

/-- **A kept run is read back as it was committed**, delivery apart. -/
theorem loadReport_eq (h : Logbook log kept store) (checked : ∀ run ∈ log, run.Checked) :
    ∀ run ∈ kept, store.Reports run := by
  induction h with
  | start => exact fun run hm => absurd hm List.not_mem_nil
  | @commit log kept store _ report _ _ cutoff suppress committed hlogbook ok ih =>
    have hearlier := ih fun run hm => checked run (List.mem_append_left _ hm)
    intro run hm
    obtain ⟨hm, hfound⟩ := List.mem_filter.mp hm
    rcases List.mem_append.mp hm with hm | hm
    · refine hlogbook.reports_of_operation (.commit ok) hearlier (List.singleton_sublist.mpr hm) (fun other ho => ?_) run
        List.mem_cons_self
      obtain rfl := List.mem_singleton.mp ho
      exact Option.isSome_iff_exists.mp hfound
    · obtain rfl := List.mem_singleton.mp hm
      obtain ⟨latching, persisted, hcommitted⟩ := commitRun_eq_ok ok
      obtain ⟨events, hhistory⟩ := hlogbook.history
      have hchecked := checked _ (List.mem_append_right _ List.mem_cons_self)
      have hload := hcommitted.loadReport_eq hchecked.assembled hchecked.retained
        (recorded_of_history hhistory).hasRuns.references
      unfold StateStore.Reports
      rw [hload]
      rfl
  | claim hlogbook ok ih =>
    exact hlogbook.reports_of_operation (.claim ok) (ih checked) (.refl _) fun run hm => (hlogbook.claim ok).find?_of_mem hm
  | record hlogbook ok ih =>
    exact hlogbook.reports_of_operation (.record ok) (ih checked) (.refl _) fun run hm =>
      (hlogbook.record ok).find?_of_mem hm
  | refresh hlogbook ok ih =>
    exact hlogbook.reports_of_operation (.refresh ok) (ih checked) (.refl _) fun run hm =>
      (hlogbook.refresh ok).find?_of_mem hm

/-- The runs that completed since an instant, newest first. -/
def newest (since : Option Timestamp) (runs : List LoggedRun) : List LoggedRun :=
  (runs.filter fun run => since.all (· ≤ run.report.completedAt)).reverse

/-- **The newest reports are those of the logbook**, newest first, delivery apart. -/
theorem loadReports_eq (h : Logbook log kept store) (checked : ∀ run ∈ log, run.Checked) (limit : ℕ)
    {since : Option Timestamp} (canonical : ∀ instant ∈ since, Timestamp.yearZero ≤ instant.nanoseconds) :
    (store.loadReports limit since).map (List.map (·.withoutDelivery)) =
      .ok (((newest since kept).take (min limit i64Maximum.toNat)).map (·.stored.withoutDelivery)) := by
  have hsince : since.mapM canonicalTimestamp = .ok since := by
    cases since with
    | none => rfl
    | some instant =>
      rw [Option.mapM_some, canonicalTimestamp_of_le (canonical instant rfl)]
      rfl
  have htranscribed := h.journal.transcribed
  have hreports := h.loadReport_eq checked
  -- a kept run and its row, which have one time and one report
  have hrows : List.Forall₂ (fun run row => (store.loadReport row.id).map (·.withoutDelivery) =
      (Except.ok run.stored : Except StoreError RunReport).map (·.withoutDelivery) ∧
        row.completedAt = run.report.completedAt) kept store.runs.rows := by
    refine ((List.forall₂_and_left _ _).mpr ⟨hreports, List.forall₂_map_left_iff.mp htranscribed.records⟩).imp ?_
    rintro run row ⟨hreported, hof⟩
    refine ⟨?_, hof.completedAt⟩
    rw [hof.id]
    exact hreported
  have hselected : List.Forall₂ (fun run row => (store.loadReport row.id).map (·.withoutDelivery) =
      (Except.ok run.stored : Except StoreError RunReport).map (·.withoutDelivery)) (newest since kept)
      (store.runs.rows.reverse.filter fun row => since.all (· ≤ row.completedAt)) := by
    rw [newest, ← List.filter_reverse]
    refine (List.rel_filter (fun run row hrow => ?_) (List.rel_reverse hrows)).imp fun _ _ hrow => hrow.1
    dsimp only
    rw [hrow.2]
  have hall : ∀ runs : List LoggedRun, (runs.mapM fun run => (Except.ok run.stored : Except StoreError RunReport)) =
      .ok (runs.map (·.stored)) := fun runs =>
    Fallible.mapM_eq_ok_iff.mpr (List.forall₂_map_right_iff.mpr (List.forall₂_same.mpr fun _ _ => rfl))
  have hloaded := Fallible.map_mapM_congr (fun run row hrow => hrow.symm)
    (List.forall₂_take (min limit i64Maximum.toNat) hselected)
  rw [hall, Except.map, List.map_map] at hloaded
  rw [StateStore.loadReports, hsince, Fallible.ok_bind, orderBy_eq_self htranscribed.sorted]
  exact hloaded.symm

end Logbook

end Sentinel
