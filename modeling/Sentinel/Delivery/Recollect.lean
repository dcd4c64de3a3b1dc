/-
# What was observed is read again

A `Journal` is a sequence of commits, with messages delivered in between: what
was committed and until when retention may have deleted it, the reports of the
runs still stored, and the database. The rows of those runs are in the order
of the commits, which is the order of their completion, and each holds what its
report observed. So the join of observations and upstreams gives back, run by
run and target by target, the readings the reports have, and the exact counts
as well.

Key theorems: `readingOf_recorded`, `Journal.transcribed`, `Transcribed.loadTargetSamples`,
`loadUpstreamSamples_journal`.
-/
import Sentinel.Core.Window
import Sentinel.Delivery.Immutable
import Sentinel.Store.Readings
import Sentinel.Store.Samples

namespace Sentinel

open Collections CrashTxn

/-! ### A stored observation -/

/-- The counter of an observed upstream, as the current reading takes it. -/
def observedCounter (upstream : UpstreamObservation) : Option UpstreamCounter := do
  UpstreamCounter.fromAverage upstream.identity upstream.averageSeconds (← upstream.responses)

theorem currentUpstreamSample_eq (target : TargetReport) (observationStarted timestamp : ℤ) :
    currentUpstreamSample target observationStarted timestamp =
      (target.upstreams.mapM observedCounter).map (⟨target.id, observationStarted, timestamp, ·⟩) := by
  show (target.upstreams.mapM observedCounter).bind (fun upstreams =>
    some (⟨target.id, observationStarted, timestamp, upstreams⟩ : UpstreamSample)) = _
  cases target.upstreams.mapM observedCounter <;> rfl

theorem counter_upstreamRow {upstream : UpstreamObservation} {ordinal : ℕ} {row : UpstreamRow}
    (h : upstreamRow upstream ordinal = .ok row) : row.counter = .ok (observedCounter upstream) := by
  simp only [upstreamRow, Fallible.bind_eq_ok_iff, constraint_eq_ok_iff] at h
  obtain ⟨stored, -, average, haverage, _, -, _, -, h⟩ := h
  obtain rfl := Except.ok.inj h
  have hvalue : average = upstream.averageSeconds := bindReal_eq_some haverage
  unfold UpstreamRow.counter observedCounter
  rw [hvalue]
  cases upstream.responses with
  | none => rfl
  | some responses =>
    simp only [Option.map_some, parseCounter_toText]
    rfl

/-- What the sample queries read of an observation's row. -/
structure TargetRow.Observes (row : TargetRow) (target : TargetReport) : Prop where
  targetId : row.targetId = target.id
  complete : row.complete = target.complete
  exact : row.countersExact = true
  queries : row.queries = target.operational.map fun value => Text.toText value.queries
  blocked : row.blocked = target.operational.map fun value => Text.toText value.blocked
  counters : row.counters = .ok (target.upstreams.mapM observedCounter)

/-- **A stored observation is read as it was observed.** -/
theorem observes_targetRow {target : TargetReport} {row : TargetRow} (h : targetRow target = .ok row) :
    row.Observes target := by
  simp only [targetRow, Fallible.bind_eq_ok_iff, constraint_eq_ok_iff] at h
  obtain ⟨_, -, upstreamRows, hupstreams, _, -, upstreams, hu, _, -, _, -, h⟩ := h
  obtain rfl := Except.ok.inj h
  refine ⟨rfl, rfl, rfl, rfl, rfl, ?_⟩
  have hrows := (Table.insertAll_eq_some_iff.mp hu).2
  rw [Table.rows_empty, List.nil_append] at hrows
  have hcounters := mapM_upstreamRows (fun _ _ _ hrow => counter_upstreamRow hrow) hupstreams
  simp only [TargetRow.counters, hrows, hcounters]
  show Except.ok ((target.upstreams.map observedCounter).mapM id) = _
  rw [List.mapM_map]
  rfl

/-- The row of a run, which stores what its report observed. -/
structure RunRow.Records (report : RunReport) (run : RunRow) : Prop where
  id : run.id = report.runId
  startedAt : run.startedAt = report.startedAt
  completedAt : run.completedAt = report.completedAt
  targets : StateStore.targetTable report.targets = .ok run.targets

/-- Delivery leaves what a run observed. -/
theorem RunRow.Records.delivered {report : RunReport} {run run' : RunRow} (h : RunRow.Records report run)
    (hdelivered : run.Delivered run') : RunRow.Records report run' := by
  have hsame := congrArg (fun run : RunRow => (run.id, run.startedAt, run.completedAt, run.targets)) hdelivered.1
  obtain ⟨hid, hrest⟩ := Prod.mk.inj hsame
  obtain ⟨hstarted, hrest⟩ := Prod.mk.inj hrest
  obtain ⟨hcompleted, htargets⟩ := Prod.mk.inj hrest
  exact ⟨hid.trans h.id, hstarted.trans h.startedAt, hcompleted.trans h.completedAt, h.targets.trans (congrArg _ htargets.symm)⟩

/-- The observations of a run, in the order they are read. -/
theorem RunRow.Records.observations {report : RunReport} {run : RunRow} (h : RunRow.Records report run) :
    List.Forall₂ (fun target row => row.Observes target) (orderBy (·.id) report.targets)
      (orderBy (·.targetId) run.targets.rows) :=
  forall₂_orderBy (fun _ _ hrow => hrow.targetId) ((targetTable_eq_ok h.targets).imp fun _ _ => observes_targetRow)

/-- **The reading of a stored observation** is the one its report has. -/
theorem readingOf_recorded {report : RunReport} {run : RunRow} (h : RunRow.Records report run) {target : TargetReport}
    {row : TargetRow} (hrow : row.Observes target) :
    readingOf (run, row) = .ok ((report.runId, target.id),
      currentUpstreamSample target report.startedAt.asSecond report.completedAt.asSecond) := by
  rw [currentUpstreamSample_eq]
  simp only [readingOf, hrow.counters, readingKey, h.id, hrow.targetId, h.startedAt, h.completedAt]
  rfl

/-! ### Journals -/

/-- **A journal**: the commits, each with its retention cutoff, the reports of
the runs that are still stored, and the database they left. -/
inductive Journal : List (RunReport × Timestamp) → List RunReport → StateStore → Prop
  | start : Journal [] [] .empty
  | commit {commits : List (RunReport × Timestamp)} {kept : List RunReport} {store : StateStore} {uuids : ℕ → String}
      {report : RunReport} {config : Config} {now : ℤ} {cutoff : Timestamp} {suppress : Bool} {committed : Committed}
      (journal : Journal commits kept store)
      (ok : store.commitRun uuids report config now cutoff suppress = .ok committed) :
      Journal (commits ++ [(report, cutoff)])
        ((kept ++ [report]).filter fun report => (committed.store.runs.find? report.runId).isSome) committed.store
  | claim {commits : List (RunReport × Timestamp)} {kept : List RunReport} {store store' : StateStore}
      {uuid messageId executingRunId : String} {startedAt : Timestamp} {attempt : NotificationAttempt}
      (journal : Journal commits kept store)
      (ok : store.beginNotificationAttempt uuid messageId startedAt executingRunId = .ok (store', attempt)) :
      Journal commits kept store'
  | record {commits : List (RunReport × Timestamp)} {kept : List RunReport} {store store' : StateStore}
      {attempt : NotificationAttempt} {completedAt : Timestamp} {outcome : NotificationAttemptOutcome}
      {report : NotificationReport} (journal : Journal commits kept store)
      (ok : store.recordNotificationAttempt attempt completedAt outcome = .ok (store', report)) :
      Journal commits kept store'
  | recover {commits : List (RunReport × Timestamp)} {kept : List RunReport} {store store' : StateStore}
      {recoveredAt : Timestamp} (journal : Journal commits kept store)
      (left : store' ∈ crashStates (StateStore.recoverInterruptedAttempts recoveredAt) store) :
      Journal commits kept store'
  | refresh {commits : List (RunReport × Timestamp)} {kept : List RunReport} {store store' : StateStore}
      {runId : String} (journal : Journal commits kept store) (ok : store.refreshRunDelivery runId = .ok store') :
      Journal commits kept store'

/-- The stored runs hold what the kept reports observed, in the order of their
completion, and retention deleted no run that completed after every cutoff. -/
structure Transcribed (commits : List (RunReport × Timestamp)) (kept : List RunReport) (store : StateStore) : Prop where
  records : List.Forall₂ RunRow.Records kept store.runs.rows
  sorted : store.runs.rows.Pairwise fun a b => a.completedAt ≤ b.completedAt
  sublist : kept.Sublist (commits.map Prod.fst)
  spared : ∀ p : RunReport → Bool, (∀ report, p report = true → ∀ commit ∈ commits, commit.2 ≤ report.completedAt) →
    kept.filter p = (commits.map Prod.fst).filter p

theorem Transcribed.delivered {commits : List (RunReport × Timestamp)} {kept : List RunReport}
    {store store' : StateStore} (h : Transcribed commits kept store) (hsame : SameHistory store store') :
    Transcribed commits kept store' := by
  refine ⟨?_, ?_, h.sublist, h.spared⟩
  · exact Fallible.forall₂_trans (fun hrun hdelivered => hrun.delivered hdelivered) h.records hsame
  · have hcompleted : store.runs.rows.map (·.completedAt) = store'.runs.rows.map (·.completedAt) :=
      Fallible.map_eq_map_of_forall₂ (hsame.imp fun _ _ hrun => hrun.observed.2.1.symm)
    exact List.pairwise_map.mp (hcompleted ▸ List.pairwise_map.mpr h.sorted)

/-- Retention deletes nothing if every run completed after every cutoff. -/
theorem Transcribed.kept_eq {commits : List (RunReport × Timestamp)} {kept : List RunReport} {store : StateStore}
    (h : Transcribed commits kept store)
    (hretained : ∀ commit ∈ commits, ∀ later ∈ commits, commit.2 ≤ later.1.completedAt) :
    kept = commits.map Prod.fst := by
  have hall : (commits.map Prod.fst).filter (fun report => ∀ commit ∈ commits, commit.2 ≤ report.completedAt) =
      commits.map Prod.fst := by
    refine List.filter_eq_self.mpr fun report hreport => decide_eq_true fun commit hcommit => ?_
    obtain ⟨later, hlater, rfl⟩ := List.mem_map.mp hreport
    exact hretained commit hcommit later hlater
  have hspared := h.spared (fun report => ∀ commit ∈ commits, commit.2 ≤ report.completedAt)
    fun report hlate => of_decide_eq_true hlate
  rw [hall] at hspared
  exact h.sublist.antisymm (hspared ▸ List.filter_sublist)

section Commit

variable {report : RunReport} {suppress : Bool} {cutoff : Timestamp} {store : StateStore}
  {committed : Committed} {latching : Latching} {persisted : StateStore}

/-- The committed run holds what its report observed. -/
theorem IsCommitted.records (h : IsCommitted report suppress cutoff store committed latching persisted) :
    ∃ run, persisted.runs.rows = store.runs.rows ++ [run] ∧ RunRow.Records report run := by
  obtain ⟨run, hruns, hid, hcompleted, hstored⟩ := h.storedRun
  have hreport := h.report_eq
  obtain ⟨base, hbase, hrun⟩ := hstored.header
  obtain ⟨-, hstarted, -, -⟩ := runRow_eq_ok hbase
  refine ⟨run, hruns, hid, ?_, hcompleted, ?_⟩
  · rw [hrun]
    show base.startedAt = _
    rw [hstarted, hreport]
  · rw [← hstored.targets, hreport]

/-- **A commit transcribes its report.** -/
theorem IsCommitted.transcribed (h : IsCommitted report suppress cutoff store committed latching persisted)
    {commits : List (RunReport × Timestamp)} {kept : List RunReport} (hbefore : Transcribed commits kept store) :
    Transcribed (commits ++ [(report, cutoff)])
      ((kept ++ [report]).filter fun report => (committed.store.runs.find? report.runId).isSome) committed.store := by
  obtain ⟨run, hruns, hrecords⟩ := h.records
  have hall : List.Forall₂ RunRow.Records (kept ++ [report]) persisted.runs.rows := by
    rw [hruns]
    exact List.rel_append hbefore.records (.cons hrecords .nil)
  -- a run is still stored just when retention has not released it
  have hfound : ∀ report run, RunRow.Records report run → run ∈ persisted.runs.rows →
      ((committed.store.runs.find? report.runId).isSome ↔ persisted.isReleased cutoff run = false) := by
    intro report run hof hmem
    rw [← hof.id]
    exact h.isSome_find?_iff hmem
  have hmembers : List.Forall₂ (fun report run => run ∈ persisted.runs.rows ∧ RunRow.Records report run)
      (kept ++ [report]) persisted.runs.rows :=
    ((List.forall₂_and_left _ _).mpr ⟨fun _ hmem => hmem, hall.flip⟩).flip
  refine ⟨?_, ?_, ?_, fun p hp => ?_⟩
  · rw [h.pruned]
    refine (List.rel_filter (fun report run hof => ?_) hmembers).imp fun _ _ hof => hof.2
    show (Table.find? _ _).isSome = true ↔ (!persisted.isReleased cutoff run) = true
    rw [← h.pruned, Bool.not_eq_true']
    exact hfound report run hof.2 hof.1
  · rw [h.pruned]
    refine List.Pairwise.sublist List.filter_sublist ?_
    rw [hruns, List.pairwise_append]
    refine ⟨hbefore.sorted, List.pairwise_singleton _ _, fun old hold new hnew => ?_⟩
    obtain rfl := List.mem_singleton.mp hnew
    rw [hrecords.completedAt]
    exact (h.clock.2 old hold).trans h.clock.1
  · rw [List.map_append]
    exact List.filter_sublist.trans (hbefore.sublist.append (.refl _))
  · have hspared : ∀ old ∈ kept ++ [report], p old = true →
        (committed.store.runs.find? old.runId).isSome = true := by
      intro old hold hlate
      obtain ⟨run, hrun, hmem, hof⟩ := Fallible.exists_of_forall₂_left hmembers old hold
      rw [hfound old run hof hmem]
      have hcutoff : cutoff ≤ old.completedAt := hp old hlate (report, cutoff) (List.mem_append_right _ List.mem_cons_self)
      have hlate : ¬run.completedAt < cutoff := by
        rw [hof.completedAt]
        exact not_lt.mpr hcutoff
      rw [StateStore.isReleased, decide_eq_false hlate, Bool.false_and, Bool.false_and]
    have hearlier := hbefore.spared p fun old hlate commit hm => hp old hlate commit (List.mem_append_left _ hm)
    rw [List.filter_comm, List.filter_eq_self.mpr fun old hold => ?_, List.map_append, List.filter_append,
      List.filter_append, hearlier]
    · rfl
    · obtain ⟨hold, hlate⟩ := List.mem_filter.mp hold
      exact hspared old hold hlate

end Commit

/-- **Every journal is a transcript.** -/
theorem Journal.transcribed {commits : List (RunReport × Timestamp)} {kept : List RunReport} {store : StateStore}
    (journal : Journal commits kept store) : Transcribed commits kept store := by
  induction journal with
  | start => exact ⟨.nil, .nil, .slnil, fun _ _ => rfl⟩
  | commit _ ok ih =>
    obtain ⟨latching, persisted, hcommitted⟩ := commitRun_eq_ok ok
    exact hcommitted.transcribed ih
  | claim _ ok ih => exact ih.delivered (keeps_of_claim ok).1
  | record _ ok ih => exact ih.delivered (keeps_of_record ok).1
  | recover _ left ih => exact ih.delivered (keeps_of_recover left).1
  | refresh _ ok ih => exact ih.delivered (keeps_of_refresh ok).1

/-! ### Observations of a journal -/

/-- What reports observed, in the order of the reports, then of the targets' ids. -/
def reported (reports : List RunReport) : List (RunReport × TargetReport) :=
  reports.flatMap fun report => (orderBy (·.id) report.targets).map fun target => (report, target)

/-- A stored observation holds a reported one. -/
structure StoredAs (entry : RunReport × TargetReport) (stored : RunRow × TargetRow) : Prop where
  run : RunRow.Records entry.1 stored.1
  row : stored.2.Observes entry.2

theorem filter_reported (p : RunReport → Bool) (q : TargetReport → Bool) (reports : List RunReport) :
    (reported reports).filter (fun entry => q entry.2 && p entry.1) =
      (reported (reports.filter p)).filter fun entry => q entry.2 := by
  induction reports with
  | nil => rfl
  | cons report reports ih =>
    have hcons : ∀ reports : List RunReport, reported (report :: reports) =
        ((orderBy (·.id) report.targets).map fun target => (report, target)) ++ reported reports :=
      fun reports => List.flatMap_cons ..
    rw [hcons, List.filter_append, ih, List.filter_map]
    cases hp : p report with
    | true =>
      rw [List.filter_cons_of_pos hp, hcons, List.filter_append, List.filter_map]
      refine congrArg₂ _ (congrArg _ (List.filter_congr fun target _ => ?_)) rfl
      simp [hp]
    | false =>
      rw [List.filter_cons_of_neg (by simp [hp]), List.filter_eq_nil_iff.mpr fun target _ => by simp [hp]]
      rfl

/-- **A journal's observations are stored in their order.** -/
theorem Transcribed.observed {commits : List (RunReport × Timestamp)} {kept : List RunReport} {store : StateStore}
    (h : Transcribed commits kept store) : List.Forall₂ StoredAs (reported kept) (observations store) := by
  have hflat : ∀ {reports : List RunReport} {rows : List RunRow}, List.Forall₂ RunRow.Records reports rows →
      List.Forall₂ StoredAs (reported reports)
        (rows.flatMap fun run => (orderBy (·.targetId) run.targets.rows).map fun row => (run, row)) := by
    intro reports rows hall
    refine List.rel_flatMap hall fun report run hrun => ?_
    rw [List.forall₂_map_left_iff, List.forall₂_map_right_iff]
    exact hrun.observations.imp fun target row hrow => ⟨hrun, hrow⟩
  rw [observations, orderBy_eq_self h.sorted]
  exact hflat h.records

/-! ### Readings -/

/-- The samples the reports have since an instant: the reading of each complete
target that has one, in order. -/
def observedSamples (sinceUnixSeconds : ℤ) (reports : List RunReport) : List UpstreamSample :=
  ((reported reports).filter fun (report, target) => target.complete &&
    decide (sinceUnixSeconds * nanosecondsPerSecond ≤ report.completedAt.nanoseconds)).filterMap fun (report, target) =>
      currentUpstreamSample target report.startedAt.asSecond report.completedAt.asSecond

/-- The readings are there if every stored counter can be read. -/
theorem exists_keyedReadings {store : StateStore} {sinceUnixSeconds : ℤ}
    (hsince : -62167219200 ≤ sinceUnixSeconds ∧ sinceUnixSeconds ≤ 253402207200)
    (h : ∀ entry ∈ observations store, ∃ counters, entry.2.counters = .ok counters) :
    ∃ readings, store.keyedReadings sinceUnixSeconds = .ok readings := by
  obtain ⟨since, hnew, hnanoseconds⟩ : ∃ since, Timestamp.new sinceUnixSeconds 0 = some since ∧
      since.nanoseconds = sinceUnixSeconds * nanosecondsPerSecond := by
    unfold Timestamp.new
    dsimp only
    rw [dif_pos (by unfold nanosecondsPerSecond; omega)]
    exact ⟨_, rfl, Int.add_zero _⟩
  have hcanonical : canonicalTimestamp since = .ok since := by
    refine canonicalTimestamp_of_le ?_
    rw [hnanoseconds]
    unfold Timestamp.yearZero nanosecondsPerSecond
    omega
  simp only [StateStore.keyedReadings, hnew, Fallible.demand, Fallible.ok_bind, hcanonical]
  refine Fallible.exists_foldlM_eq_ok (fun readings join hjoin => ?_) []
  obtain ⟨⟨run, row⟩, hentry, hjoin⟩ := List.mem_flatMap.mp hjoin
  obtain ⟨counters, hcounters⟩ := h (run, row) (List.mem_of_mem_filter hentry)
  simp only [TargetRow.counters, Fallible.bind_eq_ok_iff] at hcounters
  obtain ⟨read, hread, -⟩ := hcounters
  unfold addReading
  cases hu : join.upstream with
  | none => exact ⟨_, rfl⟩
  | some upstream =>
    have hmem : upstream ∈ orderBy (·.ordinal) row.upstreams.rows := by
      unfold joinUpstreams at hjoin
      split at hjoin
      · obtain rfl := List.mem_singleton.mp hjoin
        cases hu
      · obtain ⟨other, hother, rfl⟩ := List.mem_map.mp hjoin
        obtain rfl := Option.some.inj hu
        exact hother
    obtain ⟨counter, -, hcounter⟩ := Fallible.exists_of_forall₂_left (Fallible.mapM_eq_ok_iff.mp hread) upstream hmem
    simp only [hcounter]
    exact ⟨_, rfl⟩

/-- An instant that is out of range is refused. -/
theorem keyedReadings_out_of_range {store : StateStore} {sinceUnixSeconds : ℤ}
    (hsince : ¬(-62167219200 ≤ sinceUnixSeconds ∧ sinceUnixSeconds ≤ 253402207200)) :
    ∃ error, store.keyedReadings sinceUnixSeconds = .error error := by
  cases hread : store.keyedReadings sinceUnixSeconds with
  | error error => exact ⟨error, rfl⟩
  | ok readings =>
    simp only [StateStore.keyedReadings, Fallible.bind_eq_ok_iff, Fallible.demand_eq_ok_iff] at hread
    obtain ⟨since, hnew, since', hcanonical, -⟩ := hread
    have hle := le_of_canonicalTimestamp hcanonical
    unfold Timestamp.new at hnew
    dsimp only at hnew
    split at hnew
    · rename_i hrange
      rw [← Option.some.inj hnew] at hle
      have hle : Timestamp.yearZero ≤ sinceUnixSeconds * nanosecondsPerSecond + 0 := hle
      unfold Timestamp.yearZero nanosecondsPerSecond at hle
      unfold nanosecondsPerSecond at hrange
      exact absurd ⟨by omega, by omega⟩ hsince
    · cases hnew

/-- **A transcript's readings** are those its reports have. -/
theorem Transcribed.loadUpstreamSamples {commits : List (RunReport × Timestamp)} {kept : List RunReport}
    {store : StateStore} (h : Transcribed commits kept store) {sinceUnixSeconds : ℤ}
    (hsince : -62167219200 ≤ sinceUnixSeconds ∧ sinceUnixSeconds ≤ 253402207200) :
    store.loadUpstreamSamples sinceUnixSeconds = .ok (observedSamples sinceUnixSeconds kept) := by
  have hobserved := h.observed
  have hcounters : ∀ stored ∈ observations store, ∃ counters, stored.2.counters = .ok counters := by
    intro stored hstored
    obtain ⟨entry, -, hof⟩ := Fallible.exists_of_forall₂_right hobserved stored hstored
    exact ⟨_, hof.row.counters⟩
  obtain ⟨readings, hkeyed⟩ := exists_keyedReadings hsince hcounters
  have hcomplete : List.Forall₂ StoredAs ((reported kept).filter fun (report, target) => target.complete &&
      decide (sinceUnixSeconds * nanosecondsPerSecond ≤ report.completedAt.nanoseconds))
      (store.completeObservations sinceUnixSeconds) := by
    refine List.rel_filter (fun entry stored hof => ?_) hobserved
    obtain ⟨report, target⟩ := entry
    obtain ⟨run, row⟩ := stored
    show (target.complete && _) = true ↔ (row.complete && _) = true
    rw [hof.row.complete, hof.run.completedAt]
  have hread := Fallible.forall₂_trans (T := fun (entry : RunReport × TargetReport) (reading : UpstreamReading) =>
      currentUpstreamSample entry.2 entry.1.startedAt.asSecond entry.1.completedAt.asSecond = reading.2)
    (fun hof hreading => by
      rw [readingOf_recorded hof.run hof.row] at hreading
      rw [← Except.ok.inj hreading]) hcomplete (StateStore.keyedReadings_eq_ok hkeyed)
  simp only [StateStore.loadUpstreamSamples, hkeyed]
  refine congrArg Except.ok ?_
  have hmapped := congrArg (List.filterMap id) (Fallible.map_eq_map_of_forall₂ hread)
  rw [List.filterMap_map, List.filterMap_map] at hmapped
  exact hmapped.symm

/-- Nothing observed since an instant is deleted by cutoffs up to it. -/
theorem Transcribed.observedSamples_spared {commits : List (RunReport × Timestamp)} {kept : List RunReport}
    {store : StateStore} (h : Transcribed commits kept store) {sinceUnixSeconds : ℤ}
    (hcutoffs : ∀ commit ∈ commits, commit.2.nanoseconds ≤ sinceUnixSeconds * nanosecondsPerSecond) :
    observedSamples sinceUnixSeconds kept = observedSamples sinceUnixSeconds (commits.map Prod.fst) := by
  have hfilter := filter_reported (fun report =>
    decide (sinceUnixSeconds * nanosecondsPerSecond ≤ report.completedAt.nanoseconds)) (·.complete)
  have hspared := h.spared
    (fun report => decide (sinceUnixSeconds * nanosecondsPerSecond ≤ report.completedAt.nanoseconds))
    fun report hlate commit hm => Timestamp.le_iff.mpr ((hcutoffs commit hm).trans (of_decide_eq_true hlate))
  unfold observedSamples
  rw [hfilter, hfilter, hspared]

/-- **A reading loaded later is the reading judged live.** After any commits,
with any deliveries in between, the samples since an instant are the current
samples of the complete targets of the runs that are stored, run by run and
target by target; retention deletes none of them with cutoffs up to the
instant. -/
theorem loadUpstreamSamples_journal {commits : List (RunReport × Timestamp)} {kept : List RunReport}
    {store : StateStore} (journal : Journal commits kept store) (sinceUnixSeconds : ℤ) :
    (-62167219200 ≤ sinceUnixSeconds ∧ sinceUnixSeconds ≤ 253402207200 →
      store.loadUpstreamSamples sinceUnixSeconds = .ok (observedSamples sinceUnixSeconds kept)) ∧
    (¬(-62167219200 ≤ sinceUnixSeconds ∧ sinceUnixSeconds ≤ 253402207200) →
      ∃ error, store.loadUpstreamSamples sinceUnixSeconds = .error error) ∧
    ((∀ commit ∈ commits, commit.2.nanoseconds ≤ sinceUnixSeconds * nanosecondsPerSecond) →
      observedSamples sinceUnixSeconds kept = observedSamples sinceUnixSeconds (commits.map Prod.fst)) := by
  have htranscribed := journal.transcribed
  refine ⟨htranscribed.loadUpstreamSamples, fun hsince => ?_, htranscribed.observedSamples_spared⟩
  obtain ⟨error, herror⟩ : ∃ error, store.keyedReadings sinceUnixSeconds = .error error :=
    keyedReadings_out_of_range hsince
  simp only [StateStore.loadUpstreamSamples, herror]
  exact ⟨error, rfl⟩

/-! ### Counts -/

/-- The counts of a complete target, as a sample of its run. -/
def countedSample (report : RunReport) (target : TargetReport) : Option TargetSample :=
  if target.complete then target.operational.map fun value =>
    ⟨report.runId, target.id, report.completedAt.asSecond, value.queries, value.blocked⟩
  else none

/-- The samples of the counts the reports have, in order. -/
def countedSamples (reports : List RunReport) : List TargetSample :=
  (reported reports).filterMap fun (report, target) => countedSample report target

/-- **A stored observation's counts** are those its report has. -/
theorem sampleOf_recorded {entry : RunReport × TargetReport} {stored : RunRow × TargetRow} (h : StoredAs entry stored) :
    stored.2.isExact = (countedSample entry.1 entry.2).isSome ∧
      ∀ sample, countedSample entry.1 entry.2 = some sample → StateStore.sampleOf stored = .ok sample := by
  unfold TargetRow.isExact countedSample
  rw [h.row.complete, h.row.exact, h.row.queries, h.row.blocked]
  cases entry.2.complete with
  | false => exact ⟨rfl, fun _ hsample => nomatch hsample⟩
  | true =>
    cases hoperational : entry.2.operational with
    | none => exact ⟨rfl, fun _ hsample => nomatch hsample⟩
    | some value =>
      refine ⟨rfl, fun sample hsample => ?_⟩
      obtain rfl := Option.some.inj hsample
      simp only [StateStore.sampleOf, h.row.queries, h.row.blocked, hoperational, Option.map_some, Option.getD_some,
        parseCounter_toText, Fallible.ok_bind, h.run.id, h.row.targetId, h.run.completedAt]
      rfl

/-- **A transcript's counts** are those its reports have: no count is ambiguous. -/
theorem Transcribed.loadTargetSamples {commits : List (RunReport × Timestamp)} {kept : List RunReport}
    {store : StateStore} (h : Transcribed commits kept store) (cutoffUnixSeconds : ℤ) :
    store.loadTargetSamples cutoffUnixSeconds =
      .ok ((countedSamples kept).filter fun sample => cutoffUnixSeconds ≤ sample.timestamp) := by
  have hobserved := h.observed
  have hpast : ∀ (run : RunRow) (targetId : String), pastBarrier store.runs.rows run targetId = true := by
    intro run targetId
    have hnone : StateStore.latestBarrier store.runs.rows targetId = none := by
      rw [← Option.not_isSome_iff_eq_none, StateStore.latestBarrier, findLast_isSome_iff]
      rintro ⟨barrier, hbarrier, hambiguous⟩
      obtain ⟨row, hrow, hinexact⟩ := List.any_eq_true.mp hambiguous
      obtain ⟨entry, -, hof⟩ := Fallible.exists_of_forall₂_right hobserved (barrier, row)
        (mem_observations.mpr ⟨mem_orderBy.mp hbarrier, hrow⟩)
      rw [hof.row.exact, Bool.not_true, Bool.and_false] at hinexact
      cases hinexact
    rw [pastBarrier, hnone]
    rfl
  rw [StateStore.loadTargetSamples_eq, StateStore.learningRows, StateStore.exactRows, List.filter_filter,
    List.filter_filter, countedSamples, List.filter_filterMap]
  refine Fallible.mapM_filter_eq_ok (fun entry stored hof => ?_) hobserved
  obtain ⟨hexact, hsample⟩ := sampleOf_recorded hof
  obtain ⟨report, target⟩ := entry
  have hcompleted : stored.1.completedAt = report.completedAt := hof.run.completedAt
  rw [hpast, hexact, hcompleted, Bool.and_true]
  show _ = ((countedSample report target).filter _).isSome ∧ ∀ read, (countedSample report target).filter _ = some read → _
  cases hcounted : countedSample report target with
  | none => simp
  | some sample =>
    have htime : sample.timestamp = report.completedAt.asSecond := by
      have hstored := (StateStore.sampleOf_eq_ok (hsample sample hcounted)).2.2
      rw [hstored, hcompleted]
    constructor
    · by_cases hlate : cutoffUnixSeconds ≤ report.completedAt.asSecond <;> simp [hlate, htime]
    · intro read hread
      obtain ⟨hread, -⟩ := Option.filter_eq_some_iff.mp hread
      rw [← Option.some.inj hread]
      exact hsample sample hcounted

/-! ### Two runs of one second -/

/-- A run of the fifth second that observed these targets. -/
def observingReport (runId : String) (targets : List TargetReport) : RunReport :=
  { apiReport runId .clear 5 with evaluations := [], targets }

/-- A complete target with these upstreams. -/
def upstreamTarget (id : String) (upstreams : List UpstreamObservation) : TargetReport :=
  { reportOf id 7 with upstreams }

/-- Two runs complete in one second; the first knows a count of one target, the
second of none, and an incomplete target and an unknown count are between. -/
def observeTwice : Except StoreError Committed := do
  let committed ← StateStore.empty.commitRun (fun _ => "") (observingReport "first" [
    upstreamTarget "two" [⟨"dns", .ofNat 1, some 4⟩],
    { upstreamTarget "one" [⟨"dns", .ofNat 1, some 4⟩] with complete := false }]) apiConfig 5 (second 0) true
  committed.store.commitRun (fun _ => "") (observingReport "next" [
    upstreamTarget "one" [], upstreamTarget "two" [⟨"dns", .ofNat 1, none⟩]]) apiConfig 5 (second 0) true

theorem loadUpstreamSamples_journal_twice : ∃ commits kept store, Journal commits kept store ∧
    store.loadUpstreamSamples 0 = .ok [⟨"two", 5, 5, [⟨"dns", 4, 4000000⟩]⟩, ⟨"one", 5, 5, []⟩] := by
  have hrun : observeTwice.toBool = true := by decide +kernel
  obtain ⟨committed, htwice⟩ := Fallible.ok_of_toBool hrun
  obtain ⟨earlier, hfirst, hnext⟩ := Fallible.bind_eq_ok_iff.mp htwice
  have hjournal := (Journal.start.commit hfirst).commit hnext
  obtain ⟨hload, -, hspared⟩ := loadUpstreamSamples_journal hjournal 0
  refine ⟨_, _, _, hjournal, (hload (by decide)).trans (congrArg Except.ok ?_)⟩
  rw [hspared (by decide)]
  decide +kernel

end Sentinel
