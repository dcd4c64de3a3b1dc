/-
# Unknown counts and the readings they make

A response list that may be truncated leaves its upstreams without counts, and
so does the migration. One unknown count ends a reading; but an observation of
no upstreams has no count that could be unknown, so its reading is there, and
empty. That is so while a check observes it, as long as its run is stored, and
after it was migrated.

Key theorems: `currentUpstreamSample_eq_none_iff`, `hasReading_recorded_iff`, `hasReading_migrated_iff`,
`unknownCounts_iff`.
-/
import Sentinel.Adguard.Normalize
import Sentinel.Core.GroupWindow
import Sentinel.Core.Latency
import Sentinel.Delivery.Recollect
import Sentinel.Migration.Carried

namespace Sentinel

open Collections StateStore

/-! ### While a check observes -/

/-- A target whose counts are all unknown has a reading just when it has no
upstreams. -/
theorem currentUpstreamSample_eq_none_iff {target : TargetReport}
    (h : ∀ upstream ∈ target.upstreams, upstream.responses = none) (observationStarted timestamp : ℤ) :
    currentUpstreamSample target observationStarted timestamp = none ↔ target.upstreams ≠ [] := by
  rw [currentUpstreamSample_eq, Option.map_eq_none_iff]
  cases hu : target.upstreams with
  | nil => simp
  | cons upstream upstreams =>
    have hunknown : observedCounter upstream = none := by
      rw [observedCounter, h upstream (hu ▸ List.mem_cons_self)]
      rfl
    rw [List.mapM_cons, hunknown]
    simp

/-- A list that may be truncated leaves no upstreams just when it has no averages. -/
theorem normalizeUpstreams_ne_nil_iff {averages : List (SortedMap Binary64)} {responses : List (SortedMap UInt64)}
    {upstreams : List UpstreamObservation} (h : normalizeUpstreams averages responses = .ok upstreams)
    (htruncated : upstreamListLimit ≤ responses.length) : upstreams ≠ [] ↔ averages ≠ [] := by
  obtain ⟨hlength, -⟩ := (normalizeUpstreams_spec h).unknown htruncated
  rw [← List.length_pos_iff, ← List.length_pos_iff, hlength]

/-! ### As long as the run is stored -/

/-- An operation after which the run is still stored. -/
def KeepsRun (runId : String) (store store' : StateStore) : Prop :=
  Operation store store' ∧ (store'.runs.find? runId).isSome

/-- Operations that keep a run keep what it observed. -/
theorem delivered_of_keepsRun {runId : String} {store store' : StateStore}
    (h : Relation.ReflTransGen (KeepsRun runId) store store') {run : RunRow} (before : store.runs.find? runId = some run) :
    ∃ run', store'.runs.find? runId = some run' ∧ run.Delivered run' := by
  induction h with
  | refl => exact ⟨run, before, .refl run⟩
  | tail _ hstep ih =>
    obtain ⟨mid, hmid, hdelivered⟩ := ih
    obtain ⟨run', after⟩ := Option.isSome_iff_exists.mp hstep.2
    exact ⟨run', after, hdelivered.trans (hstep.1.keeps hmid after).1⟩

/-- The target has a reading of the run. -/
def HasReading (readings : List UpstreamReading) (runId targetId : String) : Prop :=
  ∃ sample, ((runId, targetId), some sample) ∈ readings

/-- **A committed observation has a reading** just when its report has one. -/
theorem hasReading_recorded_iff {store : StateStore} {sinceUnixSeconds : ℤ} {readings : List UpstreamReading}
    (hload : store.keyedReadings sinceUnixSeconds = .ok readings) {report : RunReport} {run : RunRow}
    (hrun : run ∈ store.runs.rows) (hrecords : RunRow.Records report run) {target : TargetReport}
    (hm : target ∈ report.targets) (hcomplete : target.complete) :
    HasReading readings report.runId target.id ↔
      sinceUnixSeconds * nanosecondsPerSecond ≤ report.completedAt.nanoseconds ∧
        currentUpstreamSample target report.startedAt.asSecond report.completedAt.asSecond ≠ none := by
  obtain ⟨row, hrow, hobserves⟩ := Fallible.exists_of_forall₂_left hrecords.observations target (mem_orderBy.mpr hm)
  have hreading := mem_keyedReadings_iff hload hrun (mem_orderBy.mp hrow)
  rw [hobserves.targetId, hrecords.id, hrecords.completedAt, hobserves.complete, hobserves.counters] at hreading
  rw [HasReading, hreading, currentUpstreamSample_eq, ne_eq, Option.map_eq_none_iff, ← ne_eq, Option.ne_none_iff_exists']
  constructor
  · rintro ⟨-, hsince, known, hknown⟩
    exact ⟨hsince, known, Except.ok.inj hknown⟩
  · rintro ⟨hsince, known, hknown⟩
    exact ⟨hcomplete, hsince, known, congrArg Except.ok hknown⟩

/-- The run a commit stored records its report. -/
theorem IsCommitted.records_find? {report : RunReport} {suppress : Bool} {cutoff : Timestamp} {store : StateStore}
    {committed : Committed} {latching : Latching} {persisted : StateStore}
    (h : IsCommitted report suppress cutoff store committed latching persisted) {run : RunRow}
    (hrun : committed.store.runs.find? report.runId = some run) : RunRow.Records report run := by
  obtain ⟨new, hrows, hrecords⟩ := h.records
  obtain ⟨hrun, hid⟩ := Table.find?_eq_some_iff.mp hrun
  rw [h.pruned] at hrun
  have hstored : run ∈ persisted.runs.rows := List.mem_of_mem_filter hrun
  have hnew : new ∈ persisted.runs.rows := by
    rw [hrows]
    exact List.mem_append_right _ List.mem_cons_self
  obtain rfl := persisted.runs.eq_of_key_eq hstored hnew (hid.trans hrecords.id.symm)
  exact hrecords

/-! ### After a migration -/

/-- The observations of a file, in the columns of every version. -/
def StateFile.observations : StateFile → List ObservationColumns
  | .v1 source => source.targetObservations.rows.map (·.toObservationColumns)
  | .v2 source => source.targetObservations.rows.map (·.toObservationColumns)
  | .v3 tables => tables.targetObservations.rows.map (·.toObservationColumns)

/-- The upstreams of a file, in the columns of every version. -/
def StateFile.upstreams : StateFile → List UpstreamColumns
  | .v1 source => source.upstreamObservations.rows
  | .v2 source => source.upstreamObservations.rows
  | .v3 tables => tables.upstreamObservations.rows.map (·.toUpstreamColumns)

section Migrated

variable {packages : Packages} {file : StateFile} {result : Tables Timestamp CountedUpstreamTable}

theorem StateFile.CarriedTo.observations (h : file.CarriedTo packages result) :
    result.targetObservations.rows.map (·.toObservationColumns) = file.observations := by
  cases file with
  | v1 source => exact (Fallible.map_eq_map_of_forall₂ (h.targetObservations.imp fun _ _ hrow => hrow.columns.symm)).symm
  | v2 source =>
    rw [h.frame]
    rfl
  | v3 tables => exact h.elim

theorem StateFile.CarriedTo.upstreams (h : file.CarriedTo packages result) :
    result.upstreamObservations.rows = file.upstreams.map (·.rebuild) := by
  cases file with
  | v1 source => exact h.upstreamObservations
  | v2 source => exact h.upstreamObservations
  | v3 tables => exact h.elim

/-- **A migrated observation** has its counters known just when it had no
upstreams. -/
theorem StateFile.CarriedTo.counters (h : file.CarriedTo packages result) {observation : ObservationColumns}
    (hm : observation ∈ file.observations) {run : RunRow}
    (hrun : result.store.runs.find? observation.runId = some run) :
    ∃ row ∈ run.targets.rows, row.targetId = observation.targetId ∧ row.complete = observation.complete ∧
      ((∃ known, row.counters = .ok (some known)) ↔ ∀ upstream ∈ file.upstreams, upstream.parent ≠ observation.key) := by
  rw [← h.observations] at hm
  obtain ⟨record, hrecord, rfl⟩ := List.mem_map.mp hm
  obtain ⟨hrun, hid⟩ := Table.find?_eq_some_iff.mp hrun
  obtain ⟨stored, -, rfl⟩ := List.mem_map.mp hrun
  have hid : stored.id = record.runId := hid
  have hrow : result.nestedTarget record ∈ (result.targetsOf stored.id).rows := by
    rw [Tables.targetsOf, Table.rows_under]
    exact List.mem_filterMap.mpr ⟨record, List.mem_filter.mpr ⟨hrecord, decide_eq_true hid.symm⟩, rfl⟩
  refine ⟨result.nestedTarget record, hrow, rfl, rfl, ?_⟩
  have hupstreams : (result.nestedTarget record).upstreams.rows =
      ((file.upstreams.filter (·.parent = record.key)).map (·.rebuild)).map (·.nested) := by
    show (result.upstreamsOf record.key).rows = _
    rw [Tables.upstreamsOf, Table.rows_under, h.upstreams, List.filter_map, List.filterMap_eq_map']
    rfl
  have hunknown : ∀ upstream ∈ (result.nestedTarget record).upstreams.rows, upstream.responses = none := by
    intro upstream hu
    rw [hupstreams] at hu
    obtain ⟨rebuilt, hrebuilt, rfl⟩ := List.mem_map.mp hu
    obtain ⟨columns, -, rfl⟩ := List.mem_map.mp hrebuilt
    rfl
  rw [counters_of_unknown hunknown, hupstreams, List.map_eq_nil_iff, List.map_eq_nil_iff, List.filter_eq_nil_iff]
  simp only [decide_eq_true_eq]

/-- **A migrated observation has a reading** just when it had no upstreams. -/
theorem hasReading_migrated_iff (h : file.CarriedTo packages result) {observation : ObservationColumns}
    (hm : observation ∈ file.observations) (hcomplete : observation.complete) {store : StateStore}
    (hlater : Relation.ReflTransGen (KeepsRun observation.runId) result.store store) {run : RunRow}
    (hstored : result.store.runs.find? observation.runId = some run) {sinceUnixSeconds : ℤ}
    {readings : List UpstreamReading} (hload : store.keyedReadings sinceUnixSeconds = .ok readings) :
    HasReading readings observation.runId observation.targetId ↔
      sinceUnixSeconds * nanosecondsPerSecond ≤ run.completedAt.nanoseconds ∧
        ∀ upstream ∈ file.upstreams, upstream.parent ≠ observation.key := by
  obtain ⟨row, hrow, htargetId, hrowComplete, hcounters⟩ := h.counters hm hstored
  obtain ⟨run', after, hdelivered⟩ := delivered_of_keepsRun hlater hstored
  obtain ⟨hrun', hid⟩ := Table.find?_eq_some_iff.mp after
  have hsame := congrArg (fun run : RunRow => (run.completedAt, run.targets)) hdelivered.1
  obtain ⟨hcompleted, htargets⟩ := Prod.mk.inj hsame
  have hcompleted : run'.completedAt = run.completedAt := hcompleted
  have htargets : run'.targets = run.targets := htargets
  have hreading := mem_keyedReadings_iff hload hrun' (htargets ▸ hrow)
  rw [hid, htargetId, hrowComplete, hcounters, hcompleted] at hreading
  rw [HasReading, hreading]
  exact ⟨fun hread => hread.2, fun hread => ⟨hcomplete, hread⟩⟩

end Migrated

/-- A migrated file has the run of every observation. -/
theorem exists_run_migrated {packages : Packages} {checksum : ℤ → String} {appliedAt : ℤ → Timestamp} {file : StateFile}
    {result : Tables Timestamp CountedUpstreamTable} (h : migrateTransaction packages checksum appliedAt file = .ok result)
    {observation : ObservationColumns} (hm : observation ∈ file.observations) :
    ∃ run, result.store.runs.find? observation.runId = some run := by
  have hruns : ∀ row ∈ result.targetObservations.rows, (result.runs.find? row.runId).isSome := by
    cases file with
    | v1 source =>
      simp only [migrateTransaction, Fallible.bind_eq_ok_iff] at h
      obtain ⟨_, -, _, -, hfinish⟩ := h
      exact runs_finishMigration hfinish
    | v2 source =>
      simp only [migrateTransaction, Fallible.bind_eq_ok_iff] at h
      obtain ⟨_, -, hfinish⟩ := h
      exact runs_finishMigration hfinish
    | v3 tables => cases h
  rw [← (carriedTo_migrateTransaction h).observations] at hm
  obtain ⟨record, hrecord, rfl⟩ := List.mem_map.mp hm
  obtain ⟨stored, hstored⟩ := Option.isSome_iff_exists.mp (hruns record hrecord)
  obtain ⟨hstored, hid⟩ := Table.find?_eq_some_iff.mp hstored
  exact ⟨result.nestedRun stored, Table.find?_eq_some_iff.mpr ⟨List.mem_map_of_mem hstored, hid⟩⟩

/-! ### Where windows end -/

/-- A window's ends are the current reading and loaded ones. -/
theorem ends_of_lookbackWindows {report : TargetReport} {history : List UpstreamSample} {current : Option UpstreamSample}
    {now : ℤ} {window : UpstreamSample × UpstreamSample} (h : window ∈ lookbackWindows report history current now) :
    (current = some window.1 ∨ window.1 ∈ history) ∧ (current = some window.2 ∨ window.2 ∈ history) := by
  have hends : ∀ sample ∈ upstreamReadings report history current now, current = some sample ∨ sample ∈ history := by
    intro sample hm
    rcases List.mem_append.mp hm with hm | hm
    · exact .inr (List.mem_of_mem_filter hm)
    · exact .inl (Option.mem_toList.mp hm)
  unfold lookbackWindows at h
  split at h
  · cases h
  · obtain ⟨hfirst, hlast⟩ := mem_of_mem_pairs (List.mem_of_mem_filter h)
    exact ⟨hends _ hfirst, hends _ hlast⟩

/-- **Unknown counts make no reading, unless there are no upstreams at all**:
not the current one, nor a stored one, nor one of a migrated observation. What
a check's windows begin and end with are such readings. -/
theorem unknownCounts_iff {averages : List (SortedMap Binary64)} {responses : List (SortedMap UInt64)}
    {upstreams : List UpstreamObservation} {target : TargetReport} {store : StateStore} {sinceUnixSeconds : ℤ} :
    (normalizeUpstreams averages responses = .ok upstreams → upstreamListLimit ≤ responses.length →
      target.upstreams = upstreams → target.complete →
        (∀ started now, currentUpstreamSample target started now = none ↔ averages ≠ []) ∧
        ∀ {earlier : StateStore} {uuids : ℕ → String} {report : RunReport} {config : Config} {now : ℤ} {cutoff : Timestamp}
          {suppress : Bool} {committed : Committed} {readings : List UpstreamReading},
          earlier.commitRun uuids report config now cutoff suppress = .ok committed → target ∈ report.targets →
          (committed.store.runs.find? report.runId).isSome →
          Relation.ReflTransGen (KeepsRun report.runId) committed.store store →
          sinceUnixSeconds * nanosecondsPerSecond ≤ report.completedAt.nanoseconds →
          store.keyedReadings sinceUnixSeconds = .ok readings →
            (¬HasReading readings report.runId target.id ↔ averages ≠ [])) ∧
    (∀ {packages : Packages} {checksum : ℤ → String} {appliedAt : ℤ → Timestamp} {version : ℤ} {file : StateFile}
      {written : List StateFile} {result : Tables Timestamp CountedUpstreamTable},
      migrate packages checksum appliedAt version file = (written, .ok ((), .v3 result)) →
      ∀ observation ∈ file.observations, observation.complete →
        ∃ run, result.store.runs.find? observation.runId = some run ∧ ∀ {readings : List UpstreamReading},
          Relation.ReflTransGen (KeepsRun observation.runId) result.store store →
          sinceUnixSeconds * nanosecondsPerSecond ≤ run.completedAt.nanoseconds →
          store.keyedReadings sinceUnixSeconds = .ok readings →
            (¬HasReading readings observation.runId observation.targetId ↔
              ∃ upstream ∈ file.upstreams, upstream.parent = observation.key)) ∧
    ∀ {samples : List UpstreamSample}, store.loadUpstreamSamples sinceUnixSeconds = .ok samples →
      ∃ readings, store.keyedReadings sinceUnixSeconds = .ok readings ∧ samples = readings.reverse.filterMap (·.2) ∧
        ∀ {report : TargetReport} {current : Option UpstreamSample} {now : ℤ},
          ∀ window ∈ lookbackWindows report samples current now,
            (current = some window.1 ∨ ∃ key, (key, some window.1) ∈ readings) ∧
            (current = some window.2 ∨ ∃ key, (key, some window.2) ∈ readings) := by
  refine ⟨?_, ?_, ?_⟩
  · intro hnormalize htruncated htarget hcomplete
    subst htarget
    have hunknown := ((normalizeUpstreams_spec hnormalize).unknown htruncated).2
    have hcurrent : ∀ started now, currentUpstreamSample target started now = none ↔ averages ≠ [] := fun started now =>
      (currentUpstreamSample_eq_none_iff hunknown started now).trans (normalizeUpstreams_ne_nil_iff hnormalize htruncated)
    refine ⟨hcurrent, ?_⟩
    intro earlier uuids report config now cutoff suppress committed readings hcommit hm hstored hlater hsince hload
    obtain ⟨run, hrun⟩ := Option.isSome_iff_exists.mp hstored
    obtain ⟨latching, persisted, hcommitted⟩ := commitRun_eq_ok hcommit
    obtain ⟨run', after, hdelivered⟩ := delivered_of_keepsRun hlater hrun
    have hrecords := (hcommitted.records_find? hrun).delivered hdelivered
    rw [hasReading_recorded_iff hload (Table.find?_eq_some_iff.mp after).1 hrecords hm hcomplete, not_and, ne_eq, not_not,
      ← hcurrent report.startedAt.asSecond report.completedAt.asSecond]
    exact ⟨fun h => h hsince, fun h _ => h⟩
  · intro packages checksum appliedAt version file written result hmigrate observation hm hcomplete
    rcases migrate_cases packages checksum appliedAt version file with ⟨error, herror⟩ | ⟨result', hresult, htransaction⟩
    · rw [herror] at hmigrate
      cases hmigrate
    · rw [hresult] at hmigrate
      obtain rfl : result' = result := by simpa using (Prod.mk.inj hmigrate).2
      obtain ⟨run, hrun⟩ := exists_run_migrated htransaction hm
      refine ⟨run, hrun, ?_⟩
      intro readings hlater hsince hload
      rw [hasReading_migrated_iff (carriedTo_migrateTransaction htransaction) hm hcomplete hlater hrun hload, not_and]
      constructor
      · intro h
        by_contra hnone
        exact h hsince fun upstream hu hparent => hnone ⟨upstream, hu, hparent⟩
      · rintro ⟨upstream, hu, hparent⟩ - hnone
        exact hnone upstream hu hparent
  · intro samples hload
    simp only [StateStore.loadUpstreamSamples, Fallible.bind_eq_ok_iff] at hload
    obtain ⟨readings, hreadings, hload⟩ := hload
    obtain rfl := Except.ok.inj hload
    refine ⟨readings, hreadings, rfl, ?_⟩
    intro report current now window hwindow
    have hloaded : ∀ sample ∈ readings.reverse.filterMap (·.2), ∃ key, (key, some sample) ∈ readings := by
      intro sample hs
      obtain ⟨⟨key, entry⟩, hentry, hsome⟩ := List.mem_filterMap.mp hs
      obtain rfl : entry = some sample := hsome
      exact ⟨key, List.mem_reverse.mp hentry⟩
    obtain ⟨hfirst, hlast⟩ := ends_of_lookbackWindows hwindow
    exact ⟨hfirst.imp_right (hloaded _), hlast.imp_right (hloaded _)⟩

/-- As many upstreams as a response list holds, with one response each. -/
def fullResponses : List (SortedMap UInt64) :=
  (List.range upstreamListLimit).reverse.map fun n => ⟨[(toString n, 1)], List.pairwise_singleton _ _⟩

/-- The first run, of one complete target with these upstreams. -/
def commitOne (upstreams : List UpstreamObservation) : Except StoreError Committed :=
  StateStore.empty.commitRun (fun _ => "") (observingReport "run" [upstreamTarget "one" upstreams]) apiConfig 5 (second 0) true

/-- One average beside a full response list makes no reading. -/
theorem unknownCounts_iff_averaged : ∃ upstreams committed readings,
    normalizeUpstreams [⟨[("dns", .ofNat 1)], List.pairwise_singleton _ _⟩] fullResponses = .ok upstreams ∧
    commitOne upstreams = .ok committed ∧ currentUpstreamSample (upstreamTarget "one" upstreams) 5 5 = none ∧
    committed.store.keyedReadings 0 = .ok readings ∧ ¬HasReading readings "run" "one" := by
  have hlists : (normalizeUpstreams [⟨[("dns", .ofNat 1)], List.pairwise_singleton _ _⟩] fullResponses).toOption.any
      (fun upstreams => decide (upstreams = [⟨"dns", .ofNat 1, none⟩])) = true := by decide +kernel
  obtain ⟨upstreams, hnormalize, hupstreams⟩ := Fallible.ok_of_any hlists
  obtain rfl := of_decide_eq_true hupstreams
  have hrun : (commitOne [⟨"dns", .ofNat 1, none⟩]).toOption.any (fun committed =>
      decide (committed.store.runs.find? "run").isSome && (committed.store.keyedReadings 0).toBool) = true := by decide +kernel
  obtain ⟨committed, hcommit, hstored⟩ := Fallible.ok_of_any hrun
  obtain ⟨hstored, hread⟩ := (Bool.and_eq_true_iff ..).mp hstored
  have htarget : (upstreamTarget "one" [⟨"dns", .ofNat 1, none⟩]).upstreams = [⟨"dns", .ofNat 1, none⟩] := rfl
  obtain ⟨readings, hload⟩ := Fallible.ok_of_toBool hread
  obtain ⟨hcurrent, hreading⟩ := unknownCounts_iff.1 hnormalize (by decide) htarget rfl
  refine ⟨_, committed, readings, hnormalize, hcommit, (hcurrent 5 5).mpr (by simp), hload, ?_⟩
  exact (hreading hcommit List.mem_cons_self (of_decide_eq_true hstored) .refl (by decide) hload).mpr (by simp)

/-- No average beside a full response list makes an empty reading, and the next
window counts every response of the hour. -/
theorem emptyReading_starts : upstreamListLimit ≤ fullResponses.length ∧
    ∃ upstreams committed, normalizeUpstreams [] fullResponses = .ok upstreams ∧ commitOne upstreams = .ok committed ∧
      (currentUpstreamSample (upstreamTarget "one" upstreams) 5 5).isSome ∧
      committed.store.loadUpstreamSamples 0 = .ok [⟨"one", 5, 5, []⟩] ∧
      upstreamWindows (upstreamTarget "one" [⟨"dns", .ofNat 1, some 1000⟩]) [⟨"one", 5, 5, []⟩]
        (currentUpstreamSample (upstreamTarget "one" [⟨"dns", .ofNat 1, some 1000⟩]) 300 300) 300 =
          [(295, [("dns", ⟨1000, 1000000000⟩)])] := by
  have hlists : (normalizeUpstreams [] fullResponses).toOption.any (fun upstreams => decide (upstreams = [])) = true := by
    decide +kernel
  obtain ⟨upstreams, hnormalize, hupstreams⟩ := Fallible.ok_of_any hlists
  obtain rfl := of_decide_eq_true hupstreams
  have hrun : (commitOne []).toOption.any (fun committed => (committed.store.loadUpstreamSamples 0).toOption.any
      fun samples => decide (samples = [⟨"one", 5, 5, []⟩])) = true := by decide +kernel
  obtain ⟨committed, hcommit, hload⟩ := Fallible.ok_of_any hrun
  obtain ⟨samples, hload, hsamples⟩ := Fallible.ok_of_any hload
  obtain rfl := of_decide_eq_true hsamples
  exact ⟨by decide, _, committed, hnormalize, hcommit, by decide, hload, by decide +kernel⟩

end Sentinel
