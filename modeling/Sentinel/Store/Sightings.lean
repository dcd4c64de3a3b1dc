/-
# What is stored of one target

A target's sightings are its observations with the runs they belong to. All
targets' observations are read by one query, numbered against their barriers
and grouped; what comes back of a target is what its own sightings say.

Key theorems: `observations_of_target`, `samples_eq_of_sightings`, `upstreamSamples_eq_of_sightings`.
-/
import Sentinel.Store.Barriers
import Sentinel.Store.Readings

namespace Sentinel

open Collections

/-- One observation of a target: of which run, at which times. -/
structure Sighting where
  runId : String
  startedAt : Timestamp
  completedAt : Timestamp
  row : TargetRow

/-- The sighting of an observation. -/
def sightingOf (entry : RunRow × TargetRow) : Sighting := ⟨entry.1.id, entry.1.startedAt, entry.1.completedAt, entry.2⟩

/-- The sighting of a target in a run. -/
def RunRow.sighting (targetId : String) (run : RunRow) : Option Sighting :=
  (run.targets.find? targetId).map fun row => sightingOf (run, row)

/-- The sightings of a target, in the order they were stored. -/
def StateStore.sightings (targetId : String) (store : StateStore) : List Sighting :=
  store.runs.rows.filterMap (RunRow.sighting targetId)

/-- The sighting comes after every ambiguous one. -/
def pastSightings (sightings : List Sighting) (sighting : Sighting) : Bool :=
  sightings.all fun other => other.row.countersExact ||
    decide (toLex (other.completedAt, sightings.findIdx (·.runId = other.runId)) <
      toLex (sighting.completedAt, sightings.findIdx (·.runId = sighting.runId)))

/-- The sample of a sighting. -/
def Sighting.sample (sighting : Sighting) : Except StoreError TargetSample := do
  let queries ← parseCounter (sighting.row.queries.getD "") "query count"
  let blocked ← parseCounter (sighting.row.blocked.getD "") "blocked count"
  return ⟨sighting.runId, sighting.row.targetId, sighting.completedAt.asSecond, queries, blocked⟩

/-- The latency reading of a sighting. -/
def Sighting.reading (sighting : Sighting) : Except StoreError UpstreamReading := do
  return ((sighting.runId, sighting.row.targetId), (← sighting.row.counters).map fun upstreams =>
    ⟨sighting.row.targetId, sighting.startedAt.asSecond, sighting.completedAt.asSecond, upstreams⟩)

namespace StateStore

variable {store : StateStore} {targetId : String}

theorem sighting_eq_some_iff {run : RunRow} {sighting : Sighting} :
    run.sighting targetId = some sighting ↔
      ∃ row ∈ run.targets.rows, row.targetId = targetId ∧ sightingOf (run, row) = sighting := by
  unfold RunRow.sighting
  rw [Option.map_eq_some_iff]
  constructor
  · rintro ⟨row, hrow, hof⟩
    obtain ⟨hmem, hid⟩ := Table.find?_eq_some_iff.mp hrow
    exact ⟨row, hmem, hid, hof⟩
  · rintro ⟨row, hmem, hid, hof⟩
    exact ⟨row, Table.find?_eq_some_iff.mpr ⟨hmem, hid⟩, hof⟩

/-- **A target's observations are its sightings**, in the order they are read. -/
theorem observations_of_target (store : StateStore) (targetId : String) :
    ((observations store).filter fun entry => entry.2.targetId = targetId).map sightingOf =
      orderBy (·.completedAt) (store.sightings targetId) := by
  have hrun : ∀ run : RunRow, (((orderBy (·.targetId) run.targets.rows).map fun row => (run, row)).filter fun entry =>
      entry.2.targetId = targetId).map sightingOf = (run.sighting targetId).toList := by
    intro run
    rw [List.filter_map, List.map_map]
    have hfilter : (orderBy (·.targetId) run.targets.rows).filter (fun row => row.targetId = targetId) =
        (run.targets.find? targetId).toList := by
      rw [← orderBy_filter, run.targets.filter_key]
      cases run.targets.find? targetId <;> rfl
    show ((orderBy (·.targetId) run.targets.rows).filter fun row => row.targetId = targetId).map _ = _
    rw [hfilter]
    unfold RunRow.sighting
    cases run.targets.find? targetId <;> rfl
  have hcompleted : ∀ (run : RunRow) (sighting : Sighting), run.sighting targetId = some sighting →
      sighting.completedAt = run.completedAt := by
    intro run sighting h
    obtain ⟨row, -, -, rfl⟩ := sighting_eq_some_iff.mp h
    rfl
  unfold observations sightings
  rw [orderBy_filterMap hcompleted, List.filter_flatMap, List.map_flatMap, List.filterMap_eq_flatMap_toList]
  exact congrArg (List.flatMap · _) (funext hrun)

theorem mem_sightings {sighting : Sighting} :
    sighting ∈ store.sightings targetId ↔ ∃ run ∈ store.runs.rows, run.sighting targetId = some sighting :=
  List.mem_filterMap

/-- The run of a sighting is ambiguous when the sighting is. -/
theorem isAmbiguous_iff {run : RunRow} :
    run.isAmbiguous targetId ↔ ∃ sighting, run.sighting targetId = some sighting ∧ sighting.row.countersExact = false := by
  unfold RunRow.isAmbiguous
  rw [List.any_eq_true]
  constructor
  · rintro ⟨row, hrow, hinexact⟩
    simp only [Bool.and_eq_true, decide_eq_true_eq, Bool.not_eq_true'] at hinexact
    exact ⟨sightingOf (run, row), sighting_eq_some_iff.mpr ⟨row, hrow, hinexact.1, rfl⟩, hinexact.2⟩
  · rintro ⟨sighting, hsighting, hinexact⟩
    obtain ⟨row, hrow, hid, rfl⟩ := sighting_eq_some_iff.mp hsighting
    have hinexact : row.countersExact = false := hinexact
    exact ⟨row, hrow, by simp [hid, hinexact]⟩

/-- The sightings are numbered like their runs. -/
theorem sightings_numbered (store : StateStore) (targetId : String) :
    ((store.sightings targetId).Pairwise fun a b =>
      store.runs.rows.findIdx (·.id = a.runId) < store.runs.rows.findIdx (·.id = b.runId)) ∧
    (store.sightings targetId).Pairwise fun a b =>
      (store.sightings targetId).findIdx (·.runId = a.runId) < (store.sightings targetId).findIdx (·.runId = b.runId) := by
  have hrunId : ∀ {run : RunRow} {sighting : Sighting}, run.sighting targetId = some sighting → sighting.runId = run.id := by
    intro run sighting h
    obtain ⟨row, -, -, rfl⟩ := sighting_eq_some_iff.mp h
    rfl
  have hnumbered : (store.sightings targetId).Pairwise fun a b =>
      store.runs.rows.findIdx (·.id = a.runId) < store.runs.rows.findIdx (·.id = b.runId) := by
    refine List.pairwise_filterMap.mpr ((numbered_findIdx store.runs).imp fun hlt a ha b hb => ?_)
    rw [hrunId ha, hrunId hb]
    exact hlt
  refine ⟨hnumbered, pairwise_findIdx (List.pairwise_map.mpr (hnumbered.imp fun hlt he => ?_))⟩
  rw [he] at hlt
  exact lt_irrefl _ hlt

/-- **Barriers are a target's own**: a run is past them when its sighting is
past the ambiguous sightings. -/
theorem pastBarrier_eq {run : RunRow} (hrun : run ∈ store.runs.rows) {sighting : Sighting}
    (hsighting : run.sighting targetId = some sighting) :
    pastBarrier store.runs.rows run targetId = pastSightings (store.sightings targetId) sighting := by
  obtain ⟨hnumbered, hown⟩ := sightings_numbered store targetId
  have hmem : sighting ∈ store.sightings targetId := mem_sightings.mpr ⟨run, hrun, hsighting⟩
  have hplaces : ∀ {barrier : RunRow} {other : Sighting}, other ∈ store.sightings targetId →
      barrier.sighting targetId = some other →
      (placeOf (fun id => store.runs.rows.findIdx (·.id = id)) barrier <
          placeOf (fun id => store.runs.rows.findIdx (·.id = id)) run ↔
        toLex (other.completedAt, (store.sightings targetId).findIdx (·.runId = other.runId)) <
          toLex (sighting.completedAt, (store.sightings targetId).findIdx (·.runId = sighting.runId))) := by
    intro barrier other hother hof
    have hindex := place_lt_place hnumbered hown hother hmem
    obtain ⟨_, -, -, rfl⟩ := sighting_eq_some_iff.mp hof
    obtain ⟨_, -, -, rfl⟩ := sighting_eq_some_iff.mp hsighting
    unfold placeOf
    rw [Prod.Lex.toLex_lt_toLex, Prod.Lex.toLex_lt_toLex]
    exact or_congr_right (and_congr_right fun _ => hindex)
  rw [Bool.eq_iff_iff, pastBarrier_iff (numbered_findIdx store.runs) hrun, pastSightings, List.all_eq_true]
  constructor
  · intro hpast other hother
    rw [Bool.or_eq_true, decide_eq_true_eq]
    by_cases hexact : other.row.countersExact = true
    · exact .inl hexact
    · obtain ⟨barrier, hbarrier, hof⟩ := mem_sightings.mp hother
      refine .inr ((hplaces hother hof).mp (hpast barrier hbarrier ?_))
      exact isAmbiguous_iff.mpr ⟨other, hof, Bool.not_eq_true _ ▸ hexact⟩
  · intro hall barrier hbarrier hambiguous
    obtain ⟨other, hof, hinexact⟩ := isAmbiguous_iff.mp hambiguous
    have hother : other ∈ store.sightings targetId := mem_sightings.mpr ⟨barrier, hbarrier, hof⟩
    have hpast := hall other hother
    rw [hinexact, Bool.false_or, decide_eq_true_eq] at hpast
    exact (hplaces hother hof).mpr hpast

/-- **A target's samples are read off its sightings.** -/
theorem samples_eq_of_sightings {cutoffUnixSeconds : ℤ} {samples : List TargetSample}
    (h : store.loadTargetSamples cutoffUnixSeconds = .ok samples) (targetId : String) :
    ((orderBy (·.completedAt) (store.sightings targetId)).filter fun sighting => sighting.row.isExact &&
      pastSightings (store.sightings targetId) sighting &&
        decide (cutoffUnixSeconds ≤ sighting.completedAt.asSecond)).mapM Sighting.sample =
      .ok (samples.filter (·.targetId = targetId)) := by
  have hrows : ((store.learningRows.filter fun entry => cutoffUnixSeconds ≤ entry.1.completedAt.asSecond).filter
      fun entry => entry.2.targetId = targetId).map sightingOf =
      (orderBy (·.completedAt) (store.sightings targetId)).filter fun sighting => sighting.row.isExact &&
        pastSightings (store.sightings targetId) sighting &&
          decide (cutoffUnixSeconds ≤ sighting.completedAt.asSecond) := by
    rw [← observations_of_target, List.filter_map]
    refine congrArg (List.map sightingOf) ?_
    unfold learningRows exactRows
    rw [List.filter_filter, List.filter_filter, List.filter_filter, List.filter_filter]
    refine List.filter_congr fun entry hentry => ?_
    by_cases htarget : entry.2.targetId = targetId
    · obtain ⟨hrun, hrow⟩ := mem_observations.mp hentry
      have hsighting : entry.1.sighting targetId = some (sightingOf entry) :=
        sighting_eq_some_iff.mpr ⟨entry.2, hrow, htarget, rfl⟩
      rw [htarget, pastBarrier_eq hrun hsighting]
      simp only [decide_true, Bool.true_and, Bool.and_true, Function.comp_apply]
      rw [Bool.and_comm, Bool.and_comm (decide _), ← Bool.and_assoc]
      rfl
    · simp [htarget]
  rw [← hrows, Fallible.mapM_eq_ok_iff, List.forall₂_map_left_iff]
  exact samples_of_target h targetId

/-- **A target's latency readings are read off its sightings.** -/
theorem upstreamSamples_eq_of_sightings {sinceUnixSeconds : ℤ} {samples : List UpstreamSample}
    (h : store.loadUpstreamSamples sinceUnixSeconds = .ok samples) (targetId : String) :
    ∃ readings, ((orderBy (·.completedAt) (store.sightings targetId)).filter fun sighting => sighting.row.complete &&
        decide (sinceUnixSeconds * nanosecondsPerSecond ≤ sighting.completedAt.nanoseconds)).mapM Sighting.reading =
        .ok readings ∧
      samples.filter (·.targetId = targetId) = readings.filterMap (·.2) := by
  obtain ⟨readings, hkeyed, h⟩ := Fallible.bind_eq_ok_iff.mp h
  obtain rfl := Except.ok.inj h
  have hall := keyedReadings_eq_ok hkeyed
  have hkey : ∀ {entry : RunRow × TargetRow} {reading : UpstreamReading}, readingOf entry = .ok reading →
      reading.1.2 = entry.2.targetId ∧ ∀ sample, reading.2 = some sample → sample.targetId = entry.2.targetId := by
    intro entry reading hof
    obtain ⟨counters, -, hof⟩ := Fallible.bind_eq_ok_iff.mp hof
    obtain rfl := Except.ok.inj hof
    refine ⟨rfl, fun sample hsample => ?_⟩
    obtain ⟨upstreams, -, rfl⟩ := Option.map_eq_some_iff.mp hsample
    rfl
  refine ⟨readings.reverse.filter (·.1.2 = targetId), ?_, ?_⟩
  · have hof : List.Forall₂ (fun entry reading => readingOf entry = .ok reading)
        ((store.completeObservations sinceUnixSeconds).filter fun entry => entry.2.targetId = targetId)
        (readings.reverse.filter (·.1.2 = targetId)) := by
      refine List.rel_filter (fun entry reading hreading => ?_) hall
      show decide (entry.2.targetId = targetId) = true ↔ decide (reading.1.2 = targetId) = true
      rw [(hkey hreading).1]
    rw [← observations_of_target, List.filter_map, Fallible.mapM_eq_ok_iff, List.forall₂_map_left_iff]
    rw [completeObservations, List.filter_comm] at hof
    exact hof
  · rw [List.filter_filterMap, List.filterMap_filter]
    refine List.filterMap_congr fun reading hreading => ?_
    obtain ⟨entry, -, hof⟩ := Fallible.exists_of_forall₂_right hall reading hreading
    obtain ⟨hid, hsample⟩ := hkey hof
    cases hread : reading.2 with
    | none => simp
    | some sample =>
      have hsame : sample.targetId = reading.1.2 := (hsample sample hread).trans hid.symm
      by_cases htarget : reading.1.2 = targetId
      · simp [htarget, hsame]
      · simp [htarget, hsame]

end StateStore

end Sentinel
