/-
# The evaluation phase of a check

Between observing its targets and reporting, a check sorts their reports, reads
the samples that rates and latencies are built from, and evaluates. The order
in which the observations finished is an input.

Key theorems: `evaluationPhase_eq_ok`.
-/
import Sentinel.Cli.Report

namespace Sentinel

open Collections
open Fallible (demand ensure)

section Phase

variable (packages : Packages) (config : Config) (observed : List TargetReport) (store : StateStore)
  (started completed : Timestamp)

/-- The samples of the declared group, which are read once its local hour is
known. -/
def loadGroupSamples : Except CommandError (List TargetSample) :=
  match config.behavioralBaseline with
  | none => return []
  | some baseline => do
    let _ ← demand (.invocation "invalid behavior time zone") (localTimeBucket packages completed baseline.timeZone)
    (store.loadTargetSamples (cutoffUnixSeconds config completed)).mapError .ofStore

/-- `check_with_sink`, from its observations to its evaluations. -/
def evaluationPhase : Except CommandError (Option AggregateObservation × List ConditionEvaluation) := do
  let targets := orderBy (·.id) observed
  -- the targets are evaluated before the clock is read again
  let _ ← forTargets config targets fun target profile report =>
    evaluateTarget packages target (config.policyOf target) profile report started.asSecond
  ensure (started ≤ completed) (.state "wall clock regressed during observation; state was not advanced")
  let upstreamSamples ← (store.loadUpstreamSamples
    (saturatingSub completed.asSecond upstreamHistorySeconds)).mapError .ofStore
  let targetSamples ← loadGroupSamples packages config store completed
  assembleEvaluations packages config targets upstreamSamples targetSamples started completed

variable {packages config observed store started completed}

/-- What a phase that succeeds has read and assembled. -/
theorem evaluationPhase_eq_ok {result : Option AggregateObservation × List ConditionEvaluation}
    (h : evaluationPhase packages config observed store started completed = .ok result) :
    ∃ upstreamSamples targetSamples,
      store.loadUpstreamSamples (saturatingSub completed.asSecond upstreamHistorySeconds) = .ok upstreamSamples ∧
      (∀ baseline, config.behavioralBaseline = some baseline →
        store.loadTargetSamples (cutoffUnixSeconds config completed) = .ok targetSamples) ∧
      assembleEvaluations packages config (orderBy (·.id) observed) upstreamSamples targetSamples started completed =
        .ok result := by
  simp only [evaluationPhase, Fallible.bind_eq_ok_iff, Fallible.mapError_eq_ok_iff] at h
  obtain ⟨_, -, _, -, upstreamSamples, hupstreams, targetSamples, hsamples, h⟩ := h
  refine ⟨upstreamSamples, targetSamples, hupstreams, fun baseline hbaseline => ?_, h⟩
  simp only [loadGroupSamples, hbaseline, Fallible.bind_eq_ok_iff, Fallible.mapError_eq_ok_iff] at hsamples
  obtain ⟨_, -, hsamples⟩ := hsamples
  exact hsamples

end Phase

end Sentinel
