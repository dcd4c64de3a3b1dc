/-
# Migrated history is reported as it was recorded

The runs of a file of version 1 or 2, row by row in the current layout, are
what the file recorded: its texts as instants, its integers as text, its
upstreams without counts. A migrated file loads the same reports from them,
apart from what the migration says of notifications and of health.

Key theorems: `loadReport_sameRecord`, `loadReports_sameRecord`, `sameRecord_of_carriedTo`,
`migration_preserves`.
-/
import Sentinel.Delivery.Immutable
import Sentinel.Migration.Carried

namespace Sentinel

open Collections

/-! ### What a file recorded -/

theorem epoch_lower : -377705023201 * nanosecondsPerSecond ≤ 0 := by decide

theorem epoch_upper : 0 < 253402207201 * nanosecondsPerSecond := by decide

/-- The instant of a text; a file with a text that has none does not migrate. -/
def instantOf (packages : Packages) (text : String) : Timestamp :=
  (packages.parseTimestamp text).getD ⟨0, epoch_lower, epoch_upper⟩

section Recorded

variable (packages : Packages)

def RunColumns.recorded (row : RunColumns String) : RunRecord Timestamp :=
  { row with
    startedAt := instantOf packages row.startedAt
    completedAt := instantOf packages row.completedAt
    healthIssues := []
    deliveryActivity := [] }

def LegacyObservation.recorded (row : LegacyObservation) : ObservationRecord :=
  { row with queries := row.queries.map countText, blocked := row.blocked.map countText, countersExact := true }

def LegacyFilter.recorded (row : LegacyFilter) : FilterRecord := { row with rulesCount := countText row.rulesCount }

def LegacyAggregate.recorded (row : LegacyAggregate) : AggregateRecord :=
  { row with combinedQueries := countText row.combinedQueries }

/-- The runs of a file of version 1 in the current layout; its notifications
are left out. -/
def LegacyTables.recorded (source : LegacyTables UpstreamTable) : Tables Timestamp CountedUpstreamTable where
  schemaMigrations := .empty
  stateIdentity := none
  runs := source.runs.image (RunColumns.recorded packages) fun _ => rfl
  targetObservations := source.targetObservations.image LegacyObservation.recorded fun _ => rfl
  upstreamObservations := source.upstreamObservations.image UpstreamColumns.rebuild fun _ => rfl
  filterObservations := source.filterObservations.image LegacyFilter.recorded fun _ => rfl
  rewriteObservations := source.rewriteObservations
  aggregateObservations := source.aggregateObservations.image LegacyAggregate.recorded fun _ => rfl
  conditionEvaluations := source.conditionEvaluations.image EvaluationColumns.rebuild fun _ => rfl
  conditionState := .empty
  targetRuntimeState := .empty
  notificationOutbox := .empty
  notificationConditions := .empty
  notificationAttempts := .empty

/-- A file of version 2 in the current layout. -/
def Tables.recorded (source : Tables Timestamp UpstreamTable) : Tables Timestamp CountedUpstreamTable :=
  { source with upstreamObservations := source.upstreamObservations.image UpstreamColumns.rebuild fun _ => rfl }

/-- What a file recorded, in the current layout. -/
def StateFile.recorded (file : StateFile) : Tables Timestamp CountedUpstreamTable :=
  match file with
  | .v1 source => source.recorded packages
  | .v2 source => source.recorded
  | .v3 tables => tables

end Recorded

/-! ### The same record -/

def RunRecord.withoutHealth (run : RunRecord Timestamp) : RunRecord Timestamp := { run with healthIssues := [] }

/-- The observation, whether its counters are exact or not. -/
def ObservationRecord.asCounted (row : ObservationRecord) : ObservationRecord := { row with countersExact := true }

/-- The tables recorded the same of every run, apart from notifications and
health. -/
structure SameRecord (tables tables' : Tables Timestamp CountedUpstreamTable) : Prop where
  runs : tables'.runs.rows.map (·.withoutHealth) = tables.runs.rows.map (·.withoutHealth)
  targetObservations : tables'.targetObservations.rows.map (·.asCounted) =
    tables.targetObservations.rows.map (·.asCounted)
  upstreamObservations : tables'.upstreamObservations = tables.upstreamObservations
  filterObservations : tables'.filterObservations = tables.filterObservations
  rewriteObservations : tables'.rewriteObservations = tables.rewriteObservations
  aggregateObservations : tables'.aggregateObservations = tables.aggregateObservations
  conditionEvaluations : tables'.conditionEvaluations.rows.map (·.toEvaluationColumns.withoutDelivery) =
    tables.conditionEvaluations.rows.map (·.toEvaluationColumns.withoutDelivery)

/-- A report without what the migration decides: the delivery states of
evaluations and findings, the notifications and the health issues. -/
def RunReport.withoutNotifications (report : RunReport) : RunReport :=
  { report with
    evaluations := report.evaluations.map (·.withoutDelivery)
    findings := report.findings.map (·.withoutDelivery)
    transitions := []
    notifications := []
    health := { report.health with issues := [] } }

section SameRecord

variable {tables tables' : Tables Timestamp CountedUpstreamTable}

/-! ### Observations -/

theorem targetsOf_sameRecord (h : SameRecord tables tables') (runId : String) :
    (orderBy (·.targetId) (tables'.targetsOf runId).rows).mapM (·.load) =
      (orderBy (·.targetId) (tables.targetsOf runId).rows).mapM (·.load) := by
  let exact (row : TargetRow) : TargetRow := { row with countersExact := true }
  have hnested : tables'.nestedTarget = tables.nestedTarget := by
    funext row
    unfold Tables.nestedTarget Tables.upstreamsOf Tables.filtersOf Tables.rewritesOf
    rw [h.upstreamObservations, h.filterObservations, h.rewriteObservations]
  have hrows : ∀ tables : Tables Timestamp CountedUpstreamTable, (tables.targetsOf runId).rows.map exact =
      ((tables.targetObservations.rows.map (·.asCounted)).filter (·.runId = runId)).map tables.nestedTarget := by
    intro tables
    rw [Tables.targetsOf, Table.rows_under, List.filterMap_eq_map', List.filter_map, List.map_map, List.map_map]
    rfl
  have hloads : ∀ rows : List TargetRow, (orderBy (·.targetId) rows).mapM (·.load) =
      (orderBy (·.targetId) (rows.map exact)).mapM (·.load) := by
    intro rows
    rw [orderBy_map (fun _ => rfl), List.mapM_map]
    rfl
  rw [hloads, hloads (tables.targetsOf runId).rows, hrows, hrows, h.targetObservations, hnested]

theorem readTargets_sameRecord (h : SameRecord tables tables') (runId : String) :
    tables'.readTargets runId = tables.readTargets runId := by
  have hread : ∀ tables : Tables Timestamp CountedUpstreamTable, tables.readTargets runId =
      ((tables.targetObservations.rows.map (·.asCounted)).filter (·.runId = runId)).forM
        (fun row => row.dnsUpstream.forM fun json => do let _ ← readJson json : ObservationRecord → Except StoreError Unit) := by
    intro tables
    unfold Tables.readTargets
    rw [List.filter_map, List.forM_eq_forM, List.forM_map]
    rfl
  rw [hread, hread tables, h.targetObservations]

/-! ### Evaluations -/

/-- The evaluations of a run, delivery apart, are those of its columns. -/
theorem loadEvaluations_sameRecord (h : SameRecord tables tables') (run run' : RunRecord Timestamp) (hid : run'.id = run.id) :
    (StateStore.loadEvaluations (tables'.nestedRun run')).map (·.withoutDelivery) =
      (StateStore.loadEvaluations (tables.nestedRun run)).map (·.withoutDelivery) := by
  let entry (row : EvaluationColumns) : Option (String × ConditionEvaluation) :=
    row.evidence.toOption.map fun evidence => (row.conditionId, evidence)
  have hrows : ∀ tables : Tables Timestamp CountedUpstreamTable,
      (tables.evaluationsOf run.id).rows.map (fun row => (row.conditionId, row.evidence.withoutDelivery)) =
        ((tables.conditionEvaluations.rows.map (·.toEvaluationColumns.withoutDelivery)).filter
          (·.runId = run.id)).filterMap entry := by
    intro tables
    rw [Tables.evaluationsOf, Table.rows_under, List.map_filterMap, List.filter_map, List.filterMap_map]
    refine List.filterMap_congr fun row _ => ?_
    show _ = ((row.evidence.map (·.withoutDelivery)).toOption).map fun evidence => (row.conditionId, evidence)
    unfold EvaluationRecord.nested
    cases row.evidence <;> rfl
  have hload : ∀ rows : List EvaluationRow, ((orderBy (·.conditionId) rows).map (·.evidence)).map (·.withoutDelivery) =
      (orderBy Prod.fst (rows.map fun row => (row.conditionId, row.evidence.withoutDelivery))).map Prod.snd := by
    intro rows
    rw [orderBy_map (fun _ => rfl), List.map_map, List.map_map]
    rfl
  show ((orderBy (·.conditionId) (tables'.evaluationsOf run'.id).rows).map (·.evidence)).map (·.withoutDelivery) =
    ((orderBy (·.conditionId) (tables.evaluationsOf run.id).rows).map (·.evidence)).map (·.withoutDelivery)
  rw [hid, hload, hload, hrows, hrows, h.conditionEvaluations]

theorem readRun_sameRecord (h : SameRecord tables tables') (runId : String) : tables'.readRun runId = tables.readRun runId := by
  have hevidence : ∀ tables : Tables Timestamp CountedUpstreamTable,
      ((tables.conditionEvaluations.rows.filter (·.runId = runId)).forM
        (fun row => do let _ ← readJson row.evidence : EvaluationRecord → Except StoreError Unit)) =
      ((tables.conditionEvaluations.rows.map (·.toEvaluationColumns.withoutDelivery)).filter (·.runId = runId)).forM
        (fun row => do let _ ← readJson row.evidence : EvaluationColumns → Except StoreError Unit) := by
    intro tables
    rw [List.filter_map, List.forM_eq_forM, List.forM_eq_forM, List.forM_map]
    refine congrArg (forM _) (funext fun row => ?_)
    show (do let _ ← readJson row.evidence) = (do let _ ← readJson (row.evidence.map (·.withoutDelivery)))
    cases row.evidence <;> rfl
  unfold Tables.readRun
  rw [hevidence, hevidence tables, h.conditionEvaluations, readTargets_sameRecord h, h.aggregateObservations]

/-! ### Reports -/

/-- **A run that two records hold alike** is reported alike. -/
theorem loadReport_sameRecord (h : SameRecord tables tables') {run run' : RunRecord Timestamp}
    (hrun : run ∈ tables.runs.rows) (hrun' : run' ∈ tables'.runs.rows) (hsame : run'.withoutHealth = run.withoutHealth) :
    (tables'.store.loadReport run'.id).map (·.withoutNotifications) =
      (tables.store.loadReport run.id).map (·.withoutNotifications) := by
  have hfind : tables.store.runs.find? run.id = some (tables.nestedRun run) :=
    Table.find?_eq_some_iff.mpr ⟨List.mem_map_of_mem hrun, rfl⟩
  simp only [RunRecord.withoutHealth, RunRecord.mk.injEq, true_and] at hsame
  obtain ⟨hcolumns, hactivity⟩ := hsame
  have hid : run'.id = run.id := congrArg (·.id) hcolumns
  have hfind' : tables'.store.runs.find? run.id = some (tables'.nestedRun run') :=
    Table.find?_eq_some_iff.mpr ⟨List.mem_map_of_mem hrun', hid⟩
  have hevaluations := loadEvaluations_sameRecord h run run' hid
  have hfindings : (findingsOf (StateStore.loadEvaluations (tables'.nestedRun run'))).map (·.withoutDelivery) =
      (findingsOf (StateStore.loadEvaluations (tables.nestedRun run))).map (·.withoutDelivery) := by
    rw [findingsOf_withoutDelivery, hevaluations, ← findingsOf_withoutDelivery]
  have htargets : (orderBy (·.targetId) (tables'.nestedRun run').targets.rows).mapM (·.load) =
      (orderBy (·.targetId) (tables.nestedRun run).targets.rows).mapM (·.load) := by
    show (orderBy (·.targetId) (tables'.targetsOf run'.id).rows).mapM (·.load) =
      (orderBy (·.targetId) (tables.targetsOf run.id).rows).mapM (·.load)
    rw [hid]
    exact targetsOf_sameRecord h run.id
  have hfields : ({ tables'.nestedRun run' with healthIssues := [], targets := .empty, evaluations := .empty } : RunRow) =
      { tables.nestedRun run with healthIssues := [], targets := .empty, evaluations := .empty } := by
    unfold Tables.nestedRun
    simp only [hcolumns, hactivity, h.aggregateObservations]
  simp only [RunRow.mk.injEq, and_true, true_and] at hfields
  obtain ⟨-, hstarted, hcompleted, hmode, hconfig, hstatus, hexpected, hcomplete, hminimum, hexit, hactivity, haggregate⟩ :=
    hfields
  simp only [StateStore.loadReport, hfind, hfind', constraint, Fallible.demand, Fallible.ok_bind, hid, hstarted, hcompleted,
    hmode, hconfig, hstatus, hexpected, hcomplete, hminimum, hexit, hactivity, haggregate, htargets]
  cases usizeFromI64 (tables.nestedRun run).expectedTargets "expected target count" with
  | error => rfl
  | ok expectedTargets =>
    cases usizeFromI64 (tables.nestedRun run).completeTargets "complete target count" with
    | error => rfl
    | ok completeTargets =>
      cases usizeFromI64 (tables.nestedRun run).minimumTargets "minimum target count" with
      | error => rfl
      | ok minimumTargets =>
        cases u8FromI64 (tables.nestedRun run).exitCode "exit code out of range" with
        | error => rfl
        | ok exitCode =>
          cases (orderBy (·.targetId) (tables.nestedRun run).targets.rows).mapM (·.load) with
          | error => rfl
          | ok targets =>
            cases (tables.nestedRun run).aggregate.mapM (·.load) with
            | error => rfl
            | ok aggregate =>
              refine congrArg Except.ok ?_
              simp only [RunReport.withoutNotifications, hevaluations, hfindings]

/-- The rows two records nest of one run. -/
def SameRun (tables tables' : Tables Timestamp CountedUpstreamTable) (row row' : RunRow) : Prop :=
  ∃ run ∈ tables.runs.rows, ∃ run' ∈ tables'.runs.rows,
    row = tables.nestedRun run ∧ row' = tables'.nestedRun run' ∧ run'.withoutHealth = run.withoutHealth

theorem SameRun.completedAt {row row' : RunRow} (h : SameRun tables tables' row row') :
    row'.completedAt = row.completedAt := by
  obtain ⟨run, -, run', -, rfl, rfl, hsame⟩ := h
  show run'.withoutHealth.completedAt = run.withoutHealth.completedAt
  rw [hsame]

theorem forall₂_sameRun (h : SameRecord tables tables') :
    List.Forall₂ (SameRun tables tables') tables.store.runs.rows tables'.store.runs.rows := by
  have hsame : List.Forall₂ (fun run run' : RunRecord Timestamp => run.withoutHealth = run'.withoutHealth)
      tables.runs.rows tables'.runs.rows := by
    rw [← List.forall₂_map_right_iff, ← List.forall₂_map_left_iff, List.forall₂_eq_eq_eq]
    exact h.runs.symm
  show List.Forall₂ _ (tables.runs.rows.map tables.nestedRun) (tables'.runs.rows.map tables'.nestedRun)
  rw [List.forall₂_map_left_iff, List.forall₂_map_right_iff]
  exact (Fallible.forall₂_mem hsame).imp fun run run' ⟨hrun, hrun', hwithout⟩ =>
    ⟨run, hrun, run', hrun', rfl, rfl, hwithout.symm⟩

theorem storeReports_sameRecord (h : SameRecord tables tables') (limit : ℕ) (since : Option Timestamp) :
    (tables'.store.loadReports limit since).map (List.map (·.withoutNotifications)) =
      (tables.store.loadReports limit since).map (List.map (·.withoutNotifications)) := by
  unfold StateStore.loadReports
  cases since.mapM canonicalTimestamp with
  | error => rfl
  | ok since =>
    have hordered := List.rel_reverse (forall₂_orderBy (fun _ _ hrow => hrow.completedAt) (forall₂_sameRun h))
    have hnewest := List.rel_filter (p := fun run : RunRow => since.all (· ≤ run.completedAt))
      (q := fun run : RunRow => since.all (· ≤ run.completedAt)) (fun row row' hrow => ?_) hordered
    · refine (Fallible.map_mapM_congr (fun row row' hrow => ?_)
        (List.forall₂_take (min limit i64Maximum.toNat) hnewest)).symm
      obtain ⟨run, hrun, run', hrun', rfl, rfl, hsame⟩ := hrow
      exact (loadReport_sameRecord h hrun hrun' hsame).symm
    · show since.all (· ≤ row.completedAt) = true ↔ since.all (· ≤ row'.completedAt) = true
      rw [hrow.completedAt]

/-- **Two records of the same runs load the same reports**, notifications and
health apart, in the same order. -/
theorem loadReports_sameRecord (h : SameRecord tables tables') (limit : ℕ) (since : Option Timestamp) :
    (tables'.loadReports limit since).map (List.map (·.withoutNotifications)) =
      (tables.loadReports limit since).map (List.map (·.withoutNotifications)) := by
  have hstore := storeReports_sameRecord h limit since
  unfold Tables.loadReports
  cases hload : tables.store.loadReports limit since with
  | error error =>
    cases hload' : tables'.store.loadReports limit since with
    | error error' =>
      rw [hload, hload'] at hstore
      exact hstore
    | ok reports' =>
      rw [hload, hload'] at hstore
      cases hstore
  | ok reports =>
    cases hload' : tables'.store.loadReports limit since with
    | error error' =>
      rw [hload, hload'] at hstore
      cases hstore
    | ok reports' =>
      rw [hload, hload'] at hstore
      have hsame := Except.ok.inj hstore
      have hread : reports'.forM (fun report => tables'.readRun report.runId) =
          reports.forM fun report => tables.readRun report.runId := by
        have hids : ∀ reports : List RunReport, (reports.forM fun report => tables.readRun report.runId) =
            (reports.map (·.withoutNotifications)).forM fun report => tables.readRun report.runId := by
          intro reports
          rw [List.forM_eq_forM, List.forM_map]
          rfl
        simp only [readRun_sameRecord h]
        rw [hids, hids reports, hsame]
      show Except.map _ (do reports'.forM (fun report => tables'.readRun report.runId); return reports') =
        Except.map _ (do reports.forM (fun report => tables.readRun report.runId); return reports)
      rw [hread]
      cases reports.forM fun report => tables.readRun report.runId with
      | error => rfl
      | ok => exact congrArg Except.ok hsame

end SameRecord

/-! ### Migrated files -/

theorem instantOf_eq {packages : Packages} {text : String} {instant : Timestamp}
    (h : packages.parseTimestamp text = some instant) : instantOf packages text = instant := by
  rw [instantOf, h, Option.getD_some]

theorem Carried.sameRecord {packages : Packages} {source : LegacyTables UpstreamTable}
    {result : Tables Timestamp CountedUpstreamTable} (h : Carried packages source result) :
    SameRecord (source.recorded packages) result where
  runs := by
    show _ = (source.runs.rows.map (·.recorded packages)).map _
    rw [List.map_map]
    refine (Fallible.map_eq_map_of_forall₂ (h.runs.imp fun row row' hrow => ?_)).symm
    obtain ⟨hstarted, hcompleted, hcolumns, hactivity⟩ := hrow
    show RunRecord.mk { row with startedAt := _, completedAt := _ } [] [] = ⟨row'.toRunColumns, [], row'.deliveryActivity⟩
    rw [instantOf_eq hstarted, instantOf_eq hcompleted, hactivity, hcolumns]
  targetObservations := by
    show _ = (source.targetObservations.rows.map (·.recorded)).map _
    rw [List.map_map]
    refine (Fallible.map_eq_map_of_forall₂ (h.targetObservations.imp fun row row' hrow => ?_)).symm
    show ObservationRecord.mk row.toObservationColumns _ _ _ = ⟨row'.toObservationColumns, row'.queries, row'.blocked, true⟩
    rw [hrow.columns, hrow.queries, hrow.blocked]
    rfl
  upstreamObservations := Table.ext h.upstreamObservations
  filterObservations := Table.ext h.filterObservations
  rewriteObservations := h.rewriteObservations
  aggregateObservations := Table.ext h.aggregateObservations
  conditionEvaluations := by
    show _ = (source.conditionEvaluations.rows.map (·.rebuild)).map _
    rw [h.conditionEvaluations, List.map_map]
    rfl

theorem CountsAdded.sameRecord {source : Tables Timestamp UpstreamTable} {result : Tables Timestamp CountedUpstreamTable}
    (h : CountsAdded source result) : SameRecord source.recorded result := by
  have hframe := h.frame
  constructor
  · rw [hframe]; rfl
  · rw [hframe]; rfl
  · exact Table.ext h.upstreamObservations
  all_goals rw [hframe]; rfl

/-- **What a migrated file records is what the file recorded.** -/
theorem sameRecord_of_carriedTo {packages : Packages} {file : StateFile} {result : Tables Timestamp CountedUpstreamTable}
    (h : file.CarriedTo packages result) : SameRecord (file.recorded packages) result := by
  cases file with
  | v1 source => exact h.sameRecord
  | v2 source => exact h.sameRecord
  | v3 tables => exact h.elim

/-- **Migration preserves what was observed.** A migration fails and leaves the
file as it was, version included, or makes it one of version 3 that holds every
row of every table in its place; its reports are those of the runs the file
recorded, apart from notifications and health. -/
theorem migration_preserves (packages : Packages) (checksum : ℤ → String) (appliedAt : ℤ → Timestamp) (version : ℤ)
    (file : StateFile) :
    (∃ error, migrate packages checksum appliedAt version file = ([], .error error)) ∨
      ∃ result, migrate packages checksum appliedAt version file = ([.v3 result], .ok ((), .v3 result)) ∧
        file.CarriedTo packages result ∧
        ∀ limit since, (result.loadReports limit since).map (List.map (·.withoutNotifications)) =
          ((file.recorded packages).loadReports limit since).map (List.map (·.withoutNotifications)) := by
  rcases migrate_cases packages checksum appliedAt version file with herror | ⟨result, hmigrated, htransaction⟩
  · exact .inl herror
  · have hcarried := carriedTo_migrateTransaction htransaction
    exact .inr ⟨result, hmigrated, hcarried, loadReports_sameRecord (sameRecord_of_carriedTo hcarried)⟩

end Sentinel
