/-
# The report of a check

What a check passes to the store besides the evaluations: the report with
its counts, its health and its exit code, and the instant before which
retention may delete a run. The report is in the shape that is read back
(`RunReport.Assembled`), and retention never reaches the run itself.

Key theorems: `assembled_assembleReport`, `retentionCutoff_le`, `retentionCutoff_iff`.
-/
import Sentinel.Cli.Check
import Sentinel.Store.RoundTrip

namespace Sentinel

open Collections

/-- The findings that make a check fail. -/
inductive FailOn where
  | never
  | warning
  | error
  | critical
  deriving DecidableEq, Repr

def FailOn.matches : FailOn → Severity → Bool
  | never, _ => false
  | warning, _ => true
  | error, severity => Severity.error.rank ≤ severity.rank
  | critical, severity => Severity.critical.rank ≤ severity.rank

/-- What a check has observed and evaluated. -/
structure Observed where
  runId : String
  mode : RunMode
  started : Timestamp
  completed : Timestamp
  configSha256 : String
  recoveredAttempts : List DeliveryActivity
  targets : List TargetReport
  aggregate : Option AggregateObservation
  evaluations : List ConditionEvaluation

section Report

variable (config : Config) (failOn : FailOn) (observed : Observed)

def completeTargets : ℕ := observed.targets.countP (·.complete)

def healthMet : Bool := config.observation.minimumCompleteTargets ≤ completeTargets observed

def healthIssues : List String :=
  ((observed.targets.filter fun target => !target.complete).map fun target =>
    "target " ++ target.id ++ " incomplete: " ++ target.errorKind.getD "unknown") ++
  if healthMet config observed then [] else ["minimum complete target count was not met"]

/-- An active condition is as severe as the check fails on. -/
def failOnMatch : Bool :=
  observed.evaluations.any fun evaluation => evaluation.outcome = .active && failOn.matches evaluation.severity

def initialExit : UInt8 :=
  if !observed.recoveredAttempts.isEmpty then 4
  else if healthMet config observed then if failOnMatch failOn observed then 1 else 0
  else 3

def runStatus : RunStatus :=
  if !healthMet config observed then .unhealthy
  else if completeTargets observed = config.targets.length then .complete
  else .partly

/-- The report that `check_with_sink` commits. -/
def assembleReport : RunReport where
  schemaVersion := reportSchemaVersion
  runId := observed.runId
  mode := observed.mode
  startedAt := observed.started
  completedAt := observed.completed
  configSha256 := observed.configSha256
  stateSchemaVersion
  runStatus := runStatus config observed
  expectedTargets := config.targets.length
  completeTargets := completeTargets observed
  minimumCompleteTargets := config.observation.minimumCompleteTargets
  targets := observed.targets
  aggregate := observed.aggregate
  evaluations := observed.evaluations
  findings := []
  transitions := []
  notifications := []
  deliveryActivity := observed.recoveredAttempts
  health := {
    minimumCompleteTargets := config.observation.minimumCompleteTargets
    completeTargets := completeTargets observed
    met := healthMet config observed
    issues := healthIssues config observed }
  exit := ⟨initialExit config failOn observed, exitReason (initialExit config failOn observed)⟩

/-- **A check assembles its report in the shape that is read back**, when its
targets and evaluations are sorted and its observations normalized. -/
theorem assembled_assembleReport (htargets : observed.targets.Pairwise fun a b => a.id ≤ b.id)
    (hnormalized : ∀ target ∈ observed.targets, target.Normalized)
    (haggregate : ∀ aggregate ∈ observed.aggregate, aggregate.Normalized)
    (hevaluations : observed.evaluations.Pairwise fun a b => a.id ≤ b.id) :
    (assembleReport config failOn observed).Assembled :=
  ⟨rfl, htargets, hnormalized, haggregate, hevaluations, rfl, rfl⟩

/-- The second before which retention may delete runs. -/
def cutoffUnixSeconds (completed : Timestamp) : ℤ :=
  saturatingSub completed.asSecond ((config.state.retentionDays.toNat : ℤ) * 86400)

/-- The instant before which retention may delete runs; the error's text is
the time library's. -/
def retentionCutoff (completed : Timestamp) : Except CommandError Timestamp :=
  Fallible.demand (.state "invalid timestamp") (Timestamp.new (cutoffUnixSeconds config completed) 0)

/-- Retention of at least a day does not reach the run itself. -/
theorem retentionCutoff_le {config : Config} {completed cutoff : Timestamp} (hdays : config.state.retentionDays ≠ 0)
    (h : retentionCutoff config completed = .ok cutoff) : cutoff ≤ completed := by
  have hpositive : 0 < config.state.retentionDays.toNat := by
    rw [Nat.pos_iff_ne_zero]
    exact fun hzero => hdays (UInt32.toNat_inj.mp hzero)
  have hlower := completed.lower
  have hsecond := Int.mul_tdiv_add_tmod completed.nanoseconds nanosecondsPerSecond
  have hmod := Int.lt_tmod_of_pos completed.nanoseconds (show (0 : ℤ) < nanosecondsPerSecond by decide)
  have hnew := Fallible.demand_eq_ok_iff.mp h
  unfold Timestamp.new at hnew
  dsimp only at hnew
  split at hnew
  case isTrue =>
    obtain rfl := Option.some.inj hnew
    rw [Timestamp.le_iff]
    simp only [cutoffUnixSeconds, saturatingSub, saturate, i64Minimum, i64Maximum, Timestamp.asSecond,
      nanosecondsPerSecond] at hlower hsecond hmod ⊢
    omega
  case isFalse => cases hnew

/-- From 1970 on the cutoff is the difference itself: neither operand is near
the bounds of the integers. -/
theorem cutoffUnixSeconds_of_nonneg {config : Config} {completed : Timestamp} (hepoch : 0 ≤ completed.nanoseconds) :
    0 ≤ completed.asSecond ∧
      cutoffUnixSeconds config completed = completed.asSecond - (config.state.retentionDays.toNat : ℤ) * 86400 := by
  have hsecond : 0 ≤ completed.asSecond := Int.tdiv_nonneg hepoch (by decide)
  have hbounds := completed.asSecond_bounds
  have hdays := config.state.retentionDays.toNat_lt
  refine ⟨hsecond, ?_⟩
  simp only [cutoffUnixSeconds, saturatingSub, saturate, i64Minimum, i64Maximum]
  omega

/-- **When retention lets a run be committed**: just when its cutoff is not
before the year zero. The arithmetic saturates, but an instant is refused
long before it would. -/
theorem retentionCutoff_iff (config : Config) (completed : Timestamp) (hepoch : 0 ≤ completed.nanoseconds) :
    (∃ cutoff, retentionCutoff config completed = .ok cutoff ∧ canonicalTimestamp cutoff = .ok cutoff) ↔
      (config.state.retentionDays.toNat : ℤ) * 86400 ≤ completed.asSecond + 62167219200 := by
  obtain ⟨hsecond, hcutoff⟩ := @cutoffUnixSeconds_of_nonneg config _ hepoch
  have hbounds := completed.asSecond_bounds
  simp only [retentionCutoff, Fallible.demand_eq_ok_iff, hcutoff, Timestamp.new]
  constructor
  · rintro ⟨cutoff, hnew, hcanonical⟩
    have hyear := le_of_canonicalTimestamp hcanonical
    split at hnew
    case isTrue =>
      rw [← Option.some.inj hnew] at hyear
      simp only [Timestamp.yearZero, nanosecondsPerSecond] at hyear
      omega
    case isFalse => cases hnew
  · intro hdays
    have hrange : -377705023201 * nanosecondsPerSecond ≤
          (completed.asSecond - (config.state.retentionDays.toNat : ℤ) * 86400) * nanosecondsPerSecond + 0 ∧
        (completed.asSecond - (config.state.retentionDays.toNat : ℤ) * 86400) * nanosecondsPerSecond + 0 <
          253402207201 * nanosecondsPerSecond := by
      simp only [nanosecondsPerSecond]
      omega
    rw [dif_pos hrange]
    refine ⟨_, rfl, canonicalTimestamp_of_le ?_⟩
    simp only [Timestamp.yearZero, nanosecondsPerSecond]
    omega

/-- A valid configuration that retains runs for a number of days. -/
def retainingConfig (retentionDays : UInt32) : Config :=
  { rewritesConfig [] with state := { retentionDays } }

/-- 2026-01-01T00:00:00Z. -/
def newYear : Timestamp := ⟨1767225600 * nanosecondsPerSecond, by decide, by decide⟩

theorem retentionCutoff_iff_threeWeeks :
    ∃ cutoff, retentionCutoff (retainingConfig 21) newYear = .ok cutoff ∧ canonicalTimestamp cutoff = .ok cutoff :=
  (retentionCutoff_iff (retainingConfig 21) newYear (by decide)).mpr (by decide)

/-- A million days are accepted, and then no run can be committed. -/
theorem millionDays_refused : (retainingConfig 1000000).validate (packagesWith []) false = .ok () ∧
    ¬∃ cutoff, retentionCutoff (retainingConfig 1000000) newYear = .ok cutoff ∧
      canonicalTimestamp cutoff = .ok cutoff := by
  refine ⟨by decide +kernel, ?_⟩
  rintro ⟨cutoff, hcutoff, hcanonical⟩
  have hrefused : (retentionCutoff (retainingConfig 1000000) newYear).toOption.all
      fun cutoff => decide (cutoff.nanoseconds < Timestamp.yearZero) := by decide +kernel
  have hyear := le_of_canonicalTimestamp hcanonical
  rw [hcutoff] at hrefused
  have hbefore : cutoff.nanoseconds < Timestamp.yearZero := of_decide_eq_true hrefused
  omega

end Report

end Sentinel
