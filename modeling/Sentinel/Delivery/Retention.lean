/-
# Barriers hold forever

Runs come and go: a commit adds one, retention deletes those it releases. An
`Archive` numbers the stored runs in the order they were inserted and keeps
every run that was ever stored; of the ambiguous counts in it, each is
followed by a stored one, since retention keeps the latest barrier of every
target. So nothing at or before an ambiguous count is read again.

Key theorems: `Archive.Guarded.advance`, `precision_barriers`.
-/
import Sentinel.Store.Barriers
import Sentinel.Delivery.Immutable

namespace Sentinel

open Collections StateStore

/-! ### What an operation does to the runs -/

/-- The runs stay, delivery apart, and at most one follows them. -/
def Grows (store grown : StateStore) : Prop :=
  ∃ old, ∃ new : Option RunRow, List.Forall₂ RunRow.Delivered store.runs.rows old ∧
    grown.runs.rows = old ++ new.toList

/-- Runs are deleted, but no latest barrier. -/
def KeepsBarriers (grown store' : StateStore) : Prop :=
  store'.runs.rows.Sublist grown.runs.rows ∧
    ∀ targetId barrier, latestBarrier grown.runs.rows targetId = some barrier → barrier ∈ store'.runs.rows

theorem SameHistory.grows {store store' : StateStore} (h : SameHistory store store') : Grows store store' :=
  ⟨store'.runs.rows, none, h, by simp⟩

theorem KeepsBarriers.refl (store : StateStore) : KeepsBarriers store store :=
  ⟨.refl _, fun _ _ h => (latestBarrier_eq_some (numbered_findIdx store.runs) h).1⟩

theorem keepsBarriers_pruneRuns (cutoff : Timestamp) (store : StateStore) :
    KeepsBarriers store (store.pruneRuns cutoff) :=
  ⟨List.filter_sublist, fun _ _ h => pruneRuns_keeps_barrier cutoff store h⟩

/-- **What an operation does to the runs**: it grows them, then deletes some
that are no barriers. -/
theorem Operation.runs {store store' : StateStore} (op : Operation store store') :
    ∃ grown, Grows store grown ∧ KeepsBarriers grown store' := by
  cases op with
  | commit ok =>
    obtain ⟨latching, persisted, hcommitted⟩ := commitRun_eq_ok ok
    obtain ⟨run, hruns, -⟩ := hcommitted.storedRun
    refine ⟨persisted, ⟨store.runs.rows, some run, List.forall₂_same.mpr fun run _ => .refl run, hruns⟩, ?_⟩
    rw [hcommitted.pruned]
    exact keepsBarriers_pruneRuns _ persisted
  | claim ok => exact ⟨store', (keeps_of_claim ok).1.grows, .refl _⟩
  | record ok => exact ⟨store', (keeps_of_record ok).1.grows, .refl _⟩
  | recover left => exact ⟨store', (keeps_of_recover left).1.grows, .refl _⟩
  | refresh ok => exact ⟨store', (keeps_of_refresh ok).1.grows, .refl _⟩

/-! ### Every run ever stored -/

/-- A database, the numbers of its runs by their ids, the next number, and
every run that was ever stored with its number. -/
structure Archive where
  store : StateStore
  number : String → ℕ
  next : ℕ
  ever : List (ℕ × RunRow)

namespace Archive

/-- An archive begins with a database. -/
def start (origin : StateStore) : Archive where
  store := origin
  number id := origin.runs.rows.findIdx (·.id = id)
  next := origin.runs.rows.length
  ever := origin.runs.rows.map fun run => (origin.runs.rows.findIdx (·.id = run.id), run)

/-- The number of a run in the next database: a new run gets the next number. -/
def renumber (archive : Archive) (id : String) : ℕ :=
  if (archive.store.runs.find? id).isSome then archive.number id else archive.next

/-- The archive goes on with the next database. -/
def advance (archive : Archive) (store' : StateStore) : Archive where
  store := store'
  number := archive.renumber
  next := archive.next + 1
  ever := archive.ever ++ store'.runs.rows.map fun run => (archive.renumber run.id, run)

/-- Every ambiguous count that was ever stored is followed by a stored one. -/
structure Guarded (archive : Archive) : Prop where
  numbered : Numbered archive.number archive.store.runs.rows
  bounded : ∀ run ∈ archive.store.runs.rows, archive.number run.id < archive.next
  guarded : ∀ entry ∈ archive.ever, ∀ targetId, entry.2.isAmbiguous targetId →
    ∃ barrier ∈ archive.store.runs.rows, barrier.isAmbiguous targetId ∧
      toLex (entry.2.completedAt, entry.1) ≤ placeOf archive.number barrier
  recorded : ∀ run ∈ archive.store.runs.rows, (archive.number run.id, run) ∈ archive.ever

theorem guarded_start (origin : StateStore) : (start origin).Guarded where
  numbered := numbered_findIdx origin.runs
  bounded run hrun := List.findIdx_lt_length_of_exists ⟨run, hrun, decide_eq_true rfl⟩
  guarded entry hentry targetId hambiguous := by
    obtain ⟨run, hrun, rfl⟩ := List.mem_map.mp hentry
    exact ⟨run, hrun, hambiguous, le_rfl⟩
  recorded run hrun := List.mem_map.mpr ⟨run, hrun, rfl⟩

variable {archive : Archive} {grown store' : StateStore}

/-- A grown database is numbered, and its new run comes last. -/
theorem Guarded.renumbered (h : archive.Guarded) (hgrow : Grows archive.store grown) :
    Numbered archive.renumber grown.runs.rows ∧ ∀ run ∈ grown.runs.rows, archive.renumber run.id < archive.next + 1 := by
  obtain ⟨old, new, hold, hrows⟩ := hgrow
  have hids : old.map RunRow.id = archive.store.runs.rows.map RunRow.id :=
    (Fallible.map_eq_map_of_forall₂ (hold.imp fun run run' hd => hd.observed.1.symm)).symm
  have hstored : ∀ run ∈ old, archive.renumber run.id = archive.number run.id ∧ archive.number run.id < archive.next := by
    intro run hrun
    obtain ⟨stored, hmem, hid⟩ := List.mem_map.mp (hids ▸ List.mem_map_of_mem hrun)
    have hsome : archive.store.runs.find? run.id = some stored := by
      rw [← hid]
      exact Table.find?_key hmem
    refine ⟨if_pos (by rw [hsome]; rfl), ?_⟩
    rw [← hid]
    exact h.bounded stored hmem
  have hnew : ∀ run ∈ new.toList, archive.renumber run.id = archive.next := by
    intro run hrun
    refine if_neg fun hsome => ?_
    obtain ⟨stored, hfound⟩ := Option.isSome_iff_exists.mp hsome
    obtain ⟨hmem, hid⟩ := Table.find?_eq_some_iff.mp hfound
    obtain ⟨run', hrun', hid'⟩ := List.mem_map.mp (hids ▸ List.mem_map_of_mem hmem)
    have hdistinct := grown.runs.distinct
    rw [hrows, List.map_append] at hdistinct
    exact (List.disjoint_of_nodup_append hdistinct) (List.mem_map_of_mem hrun')
      (List.mem_map.mpr ⟨run, hrun, (hid'.trans hid).symm⟩)
  rw [hrows]
  constructor
  · refine List.pairwise_append.mpr ⟨?_, ?_, fun run hrun run' hrun' => ?_⟩
    · have hnumbers := h.numbered
      have hpairs : (old.map RunRow.id).Pairwise fun id id' => archive.number id < archive.number id' := by
        rw [hids]
        exact List.pairwise_map.mpr hnumbers
      refine (List.pairwise_map.mp hpairs).imp_of_mem fun hrun hrun' hlt => ?_
      rw [(hstored _ hrun).1, (hstored _ hrun').1]
      exact hlt
    · cases new with
      | none => exact .nil
      | some run => exact List.pairwise_singleton ..
    · rw [(hstored run hrun).1, hnew run' hrun']
      exact (hstored run hrun).2
  · intro run hrun
    rcases List.mem_append.mp hrun with hrun | hrun
    · rw [(hstored run hrun).1]
      exact Nat.lt_succ_of_lt (hstored run hrun).2
    · rw [hnew run hrun]
      exact Nat.lt_succ_self _

/-- **One step keeps every ambiguous count guarded.** -/
theorem Guarded.advance (h : archive.Guarded) (hgrow : Grows archive.store grown) (hkeep : KeepsBarriers grown store') :
    (archive.advance store').Guarded := by
  obtain ⟨hnumbered, hbounded⟩ := h.renumbered hgrow
  -- an ambiguous run is followed by the latest barrier, which is kept
  have hlatest : ∀ run ∈ grown.runs.rows, ∀ targetId, run.isAmbiguous targetId →
      ∃ barrier ∈ store'.runs.rows, barrier.isAmbiguous targetId ∧
        placeOf archive.renumber run ≤ placeOf archive.renumber barrier := by
    intro run hrun targetId hambiguous
    obtain ⟨barrier, hbarrier⟩ := Option.isSome_iff_exists.mp (latestBarrier_isSome_iff.mpr ⟨run, hrun, hambiguous⟩)
    obtain ⟨-, hb, hlast⟩ := latestBarrier_eq_some hnumbered hbarrier
    exact ⟨barrier, hkeep.2 targetId barrier hbarrier, hb, hlast run hrun hambiguous⟩
  refine ⟨hnumbered.sublist hkeep.1, fun run hrun => hbounded run (hkeep.1.subset hrun), ?_, fun run hrun =>
    List.mem_append_right _ (List.mem_map.mpr ⟨run, hrun, rfl⟩)⟩
  intro entry hentry targetId hambiguous
  rcases List.mem_append.mp hentry with hentry | hentry
  · obtain ⟨barrier, hbarrier, hb, hle⟩ := h.guarded entry hentry targetId hambiguous
    obtain ⟨old, new, hold, hrows⟩ := hgrow
    obtain ⟨run, hrun, hdelivered⟩ := Fallible.exists_of_forall₂_left hold barrier hbarrier
    obtain ⟨hid, hcompleted, htargets⟩ := hdelivered.observed
    have hplace : placeOf archive.renumber run = placeOf archive.number barrier := by
      have hnumber : archive.renumber run.id = archive.number run.id := by
        refine if_pos ?_
        rw [hid, Table.find?_key hbarrier]
        rfl
      rw [placeOf, placeOf, hnumber, hid, hcompleted]
    have hmem : run ∈ grown.runs.rows := by
      rw [hrows]
      exact List.mem_append_left _ hrun
    have hrunAmbiguous : run.isAmbiguous targetId := by
      rw [RunRow.isAmbiguous, htargets]
      exact hb
    obtain ⟨latest, hlatest, hl, hle'⟩ := hlatest run hmem targetId hrunAmbiguous
    exact ⟨latest, hlatest, hl, hle.trans (hplace ▸ hle')⟩
  · obtain ⟨run, hrun, rfl⟩ := List.mem_map.mp hentry
    exact hlatest run (hkeep.1.subset hrun) targetId hambiguous

end Archive

/-- The archives of the databases that follow from one: by any operation, or
by retention with any cutoff. -/
inductive Archived (origin : StateStore) : Archive → Prop
  | start : Archived origin (.start origin)
  | operate {archive : Archive} {store' : StateStore} (before : Archived origin archive)
      (op : Operation archive.store store') : Archived origin (archive.advance store')
  | prune {archive : Archive} (before : Archived origin archive) (cutoff : Timestamp) :
      Archived origin (archive.advance (archive.store.pruneRuns cutoff))

theorem guarded_of_archived {origin : StateStore} {archive : Archive} (h : Archived origin archive) :
    archive.Guarded := by
  induction h with
  | start => exact Archive.guarded_start origin
  | operate _ op ih =>
    obtain ⟨grown, hgrow, hkeep⟩ := op.runs
    exact ih.advance hgrow hkeep
  | @prune archive _ cutoff ih =>
    exact ih.advance (SameHistory.refl archive.store).grows (keepsBarriers_pruneRuns cutoff archive.store)

/-- **Precision barriers hold forever.** Whatever followed from a database, a
sample that is read comes from a run after every ambiguous count of its target
that was ever stored, and a target that never had one has all its exact
observations since the cutoff read. -/
theorem precision_barriers {origin : StateStore} {archive : Archive} (h : Archived origin archive) {cutoffUnixSeconds : ℤ}
    {samples : List TargetSample} (hload : archive.store.loadTargetSamples cutoffUnixSeconds = .ok samples) :
    (∀ sample ∈ samples, ∃ run ∈ archive.store.runs.rows, run.id = sample.runId ∧
      ∀ entry ∈ archive.ever, entry.2.isAmbiguous sample.targetId →
        toLex (entry.2.completedAt, entry.1) < placeOf archive.number run) ∧
    ∀ targetId, (∀ entry ∈ archive.ever, ¬entry.2.isAmbiguous targetId) →
      List.Forall₂ (fun entry sample => sampleOf entry = .ok sample)
        ((archive.store.exactRows.filter fun entry => cutoffUnixSeconds ≤ entry.1.completedAt.asSecond).filter fun entry =>
          entry.2.targetId = targetId) (samples.filter (·.targetId = targetId)) := by
  have hguarded := guarded_of_archived h
  constructor
  · intro sample hsample
    obtain ⟨⟨run, row⟩, hentry, -, hpast, hof⟩ := mem_samples hload hsample
    obtain ⟨hid, htarget, -⟩ := sampleOf_eq_ok hof
    have hrun : run ∈ archive.store.runs.rows := by
      obtain ⟨stored, hstored, hrow⟩ := List.mem_flatMap.mp hentry
      obtain ⟨_, _, heq⟩ := List.mem_map.mp hrow
      rw [← (Prod.mk.inj heq).1]
      exact mem_orderBy.mp hstored
    refine ⟨run, hrun, hid.symm, fun entry hever hambiguous => ?_⟩
    obtain ⟨barrier, hbarrier, hb, hle⟩ := hguarded.guarded entry hever sample.targetId hambiguous
    rw [htarget] at hb
    exact hle.trans_lt ((pastBarrier_iff hguarded.numbered hrun).mp hpast barrier hbarrier hb)
  · intro targetId hexact
    refine samples_of_no_barrier hload (Option.not_isSome_iff_eq_none.mp fun hsome => ?_)
    obtain ⟨run, hrun, hambiguous⟩ := latestBarrier_isSome_iff.mp hsome
    exact hexact _ (hguarded.recorded run hrun) hambiguous

/-- Four runs, the third ambiguous; a message of the first is unresolved. -/
def evidenceStore : StateStore :=
  { readingsStore [(300, true), (600, true), (900, false), (1500, true)] with
    notificationOutbox := ⟨[{
      id := "message"
      runId := numberedId 0
      transition := .alert
      title := ""
      message := ""
      priority := 0
      status := .unknown
      createdAt := daySecond 300
      nextRetryAt := none
      deliveredAt := none
      remoteRequestId := none
      errorClass := none
      attemptId := none
      conditions := .empty
      attempts := .empty }], List.nodup_singleton _⟩ }

/-- Retention has released the first three runs, and keeps the first for its
message and the third for its ambiguous count: only the last is read. -/
theorem precision_barriers_kept : ∃ archive samples, Archived evidenceStore archive ∧
    archive.store.loadTargetSamples 0 = .ok samples ∧
    archive.store.runs.rows.map (·.completedAt.asSecond) = [300, 900, 1500] ∧ samples.map (·.timestamp) = [1500] ∧
    ∀ sample ∈ samples, ∃ run ∈ archive.store.runs.rows, run.id = sample.runId ∧
      ∀ entry ∈ archive.ever, entry.2.isAmbiguous sample.targetId →
        toLex (entry.2.completedAt, entry.1) < placeOf archive.number run := by
  have hruns : (evidenceStore.pruneRuns (daySecond 1200)).runs.rows.map (·.completedAt.asSecond) = [300, 900, 1500] := by
    decide +kernel
  have hread : ((evidenceStore.pruneRuns (daySecond 1200)).loadTargetSamples 0).toOption.any (fun samples =>
      decide (samples.map (·.timestamp) = [1500])) = true := by decide +kernel
  obtain ⟨samples, hload, hsamples⟩ := Fallible.ok_of_any hread
  exact ⟨_, samples, .prune .start (daySecond 1200), hload, hruns, of_decide_eq_true hsamples,
    (precision_barriers (.prune .start (daySecond 1200)) hload).1⟩

end Sentinel
