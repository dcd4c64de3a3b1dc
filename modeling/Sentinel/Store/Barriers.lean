/-
# Precision barriers

A count a schema migration could not read exactly makes every earlier count of
its target useless: the run that holds it is a barrier. Runs are numbered in
the order they were inserted; among the barriers of a target the latest by
completion, then by number, is what reading and retention go by.

Key theorems: `latestBarrier_eq_some`, `pastBarrier_iff`, `pruneRuns_keeps_barrier`.
-/
import Sentinel.Store.Samples

namespace Sentinel

open Collections

/-- The run has an ambiguous count of the target. -/
def RunRow.isAmbiguous (run : RunRow) (targetId : String) : Bool :=
  run.targets.rows.any fun row => row.targetId = targetId && !row.countersExact

/-- The place of a numbered run in the order of completion, then of insertion. -/
def placeOf (number : String → ℕ) (run : RunRow) : Timestamp ×ₗ ℕ := toLex (run.completedAt, number run.id)

/-- The numbers follow the order the runs were inserted in. -/
def Numbered (number : String → ℕ) (runs : List RunRow) : Prop :=
  runs.Pairwise fun run run' => number run.id < number run'.id

theorem numbered_findIdx (runs : Table RunRow.id) :
    Numbered (fun id => runs.rows.findIdx (·.id = id)) runs.rows := pairwise_findIdx runs.distinct

namespace StateStore

variable {number : String → ℕ} {targetId : String}

theorem latestBarrier_isSome_iff {runs : List RunRow} :
    (latestBarrier runs targetId).isSome ↔ ∃ run ∈ runs, run.isAmbiguous targetId := by
  unfold latestBarrier
  rw [findLast_isSome_iff]
  simp only [mem_orderBy]
  rfl

/-- **What the latest barrier is**: an ambiguous run that no other follows. -/
theorem latestBarrier_eq_some {runs : List RunRow} (hnumbered : Numbered number runs) {barrier : RunRow}
    (h : latestBarrier runs targetId = some barrier) :
    barrier ∈ runs ∧ barrier.isAmbiguous targetId ∧
      ∀ run ∈ runs, run.isAmbiguous targetId → placeOf number run ≤ placeOf number barrier := by
  have hsorted := pairwise_orderBy_place (fun run : RunRow => run.completedAt) hnumbered
  obtain ⟨hmem, hambiguous, hlast⟩ := findLast_eq_some hsorted h
  refine ⟨mem_orderBy.mp hmem, hambiguous, fun run hrun hrunAmbiguous => ?_⟩
  rcases hlast run (mem_orderBy.mpr hrun) hrunAmbiguous with rfl | hlt
  · exact le_rfl
  · exact hlt.le

/-- **A run is past its barriers** when it comes after every ambiguous run. -/
theorem pastBarrier_iff {runs : Table RunRow.id} (hnumbered : Numbered number runs.rows) {run : RunRow}
    (hrun : run ∈ runs.rows) :
    pastBarrier runs.rows run targetId = true ↔
      ∀ barrier ∈ runs.rows, barrier.isAmbiguous targetId → placeOf number barrier < placeOf number run := by
  -- the index of a run in the table numbers it as well
  have horder : ∀ barrier ∈ runs.rows,
      runOrder runs.rows barrier < runOrder runs.rows run ↔ placeOf number barrier < placeOf number run := by
    intro barrier hbarrier
    unfold runOrder placeOf
    rw [Prod.Lex.toLex_lt_toLex, Prod.Lex.toLex_lt_toLex]
    exact or_congr_right (and_congr_right fun _ => place_lt_place (numbered_findIdx runs) hnumbered hbarrier hrun)
  unfold pastBarrier
  cases hlatest : latestBarrier runs.rows targetId with
  | none =>
    rw [Option.all_none]
    refine iff_of_true rfl fun barrier hbarrier hambiguous => ?_
    have hsome := latestBarrier_isSome_iff.mpr ⟨barrier, hbarrier, hambiguous⟩
    rw [hlatest] at hsome
    cases hsome
  | some latest =>
    obtain ⟨hmem, hambiguous, hlast⟩ := latestBarrier_eq_some hnumbered hlatest
    rw [Option.all_some, decide_eq_true_iff, horder latest hmem]
    constructor
    · intro hlt barrier hbarrier hb
      exact (hlast barrier hbarrier hb).trans_lt hlt
    · intro hall
      exact hall latest hmem hambiguous

/-- **Retention keeps barriers**: of what it releases, none is the latest
barrier of a target. -/
theorem pruneRuns_keeps_barrier (cutoff : Timestamp) (store : StateStore) {barrier : RunRow}
    (h : latestBarrier store.runs.rows targetId = some barrier) : barrier ∈ (store.pruneRuns cutoff).runs.rows := by
  obtain ⟨hmem, hambiguous, -⟩ := latestBarrier_eq_some (numbered_findIdx store.runs) h
  obtain ⟨row, hrow, hinexact⟩ := List.any_eq_true.mp hambiguous
  obtain ⟨htarget, hinexact⟩ := Bool.and_eq_true_iff.mp hinexact
  have hbarrier : isPrecisionBarrier store.runs.rows barrier = true := by
    refine List.any_eq_true.mpr ⟨row, hrow, Bool.and_eq_true_iff.mpr ⟨hinexact, ?_⟩⟩
    rw [of_decide_eq_true htarget, h]
    exact decide_eq_true rfl
  refine List.mem_filter.mpr ⟨hmem, ?_⟩
  unfold isReleased
  rw [hbarrier]
  simp

end StateStore

end Sentinel
