/-
# A check in its circumstances

Everything `check_with_sink` meets outside the state database: a valid
configuration, the clock, what the resolvers answer and the order they finish
in, and what comes of sending. Given these a check is a program over the
database: its observation reads the pauses of the targets, and its evaluation
the stored samples.

Key theorems: `observation_eq_ok`, `checkWithSink_of_behind`, `checkWithSink_of_unobserved`.
-/
import Sentinel.Cli.Observe
import Sentinel.Delivery.Checks

namespace Sentinel

open Collections CrashTxn

structure Circumstances where
  packages : Packages
  versions : VersionPackage
  config : Config
  valid : config.validate packages false = .ok ()
  dryRun : Bool
  failOn : FailOn
  started : Timestamp
  completed : Timestamp
  selectedAt : Timestamp
  answers : TargetConfig → Answers
  /-- The reports in the order their targets finished. -/
  finished : List TargetReport → List TargetReport
  finished_perm : ∀ reports, (finished reports).Perm reports
  runId : String
  /-- The fingerprint of the configuration. -/
  configSha256 : String
  uuids : ℕ → String
  providerError : Option String
  send : OutboxMessage → Sending

namespace Circumstances

variable (c : Circumstances)

def mode : RunMode := if c.dryRun then .dryRun else .live

def suppressNotifications : Bool := c.dryRun || c.config.notifications.provider = .disabled

/-- What is observed of the targets, in the order they finished. -/
def observed (store : StateStore) : List TargetReport :=
  c.finished (c.config.targets.map fun target =>
    observeTarget c.packages c.versions c.config (store.targetRuntimeState.find? target.id) c.started.asSecond target
      (c.answers target))

/-- What has been observed and evaluated when the report is put together. -/
def assembled (recovered : List DeliveryActivity) (store : StateStore)
    (evaluated : Option AggregateObservation × List ConditionEvaluation) : Observed where
  runId := c.runId
  mode := c.mode
  started := c.started
  completed := c.completed
  configSha256 := c.configSha256
  recoveredAttempts := recovered
  targets := orderBy (·.id) (c.observed store)
  aggregate := evaluated.1
  evaluations := evaluated.2

/-- `check_with_sink`, from its recovery to its commit: the report. -/
def observation (recovered : List DeliveryActivity) (store : StateStore) : Except CommandError RunReport := do
  let _ ← (newClient c.packages c.config.observation.adguardVersionRequirement).mapError fun error =>
    .invocation error.text
  let evaluated ← evaluationPhase c.packages c.config (c.observed store) store c.started c.completed
  let _ ← retentionCutoff c.config c.completed
  return assembleReport c.config c.failOn (c.assembled recovered store evaluated)

/-- The check, as it uses the state database. -/
def inputs : CheckInputs where
  mode := c.mode
  started := c.started
  observe := c.observation
  config := c.config
  completedUnixSeconds := c.completed.asSecond
  -- without a cutoff the observation has failed
  retentionCutoff := (retentionCutoff c.config c.completed).toOption.getD c.completed
  suppressNotifications := c.suppressNotifications
  uuids := c.uuids
  selectedAt := c.selectedAt
  providerError := c.providerError
  send := c.send

theorem observes (store : StateStore) :
    c.config.Observes c.packages c.versions store c.started.asSecond (c.observed store) :=
  ⟨c.answers, c.finished_perm _⟩

variable {c}

/-- **What an observation reports**: what was evaluated, between a start and an
end that follows it. -/
theorem observation_eq_ok {recovered : List DeliveryActivity} {store : StateStore} {report : RunReport}
    (h : c.observation recovered store = .ok report) : ∃ evaluated,
      evaluationPhase c.packages c.config (c.observed store) store c.started c.completed = .ok evaluated ∧
      c.started ≤ c.completed ∧ report = assembleReport c.config c.failOn (c.assembled recovered store evaluated) := by
  simp only [observation, Fallible.bind_eq_ok_iff] at h
  obtain ⟨_, -, evaluated, hphase, _, -, h⟩ := h
  refine ⟨evaluated, hphase, ?_, (Except.ok.inj h).symm⟩
  simp only [evaluationPhase, Fallible.bind_eq_ok_iff, Fallible.ensure_eq_ok_iff, decide_eq_true_eq] at hphase
  obtain ⟨_, -, _, horder, -⟩ := hphase
  exact horder

end Circumstances

/-! ### Checks that end early -/

/-- A check that starts behind the latest run ends there. -/
theorem checkWithSink_of_behind {inputs : CheckInputs} {store : StateStore} {latest : Timestamp}
    (hlatest : store.latestCompletedAt = some latest) (hbehind : inputs.started < latest) :
    Spec (fun left => left = store) (fun left => left = store) (checkWithSink inputs) fun _ _ => False := by
  unfold checkWithSink
  refine .bind (spec_readFor _) fun _ => ?_
  have hclock : Spec (fun left => left = store) (fun left => left = store) (CrashTxn.read (checkClock inputs.started))
      fun _ _ => False := by
    refine .read fun _ _ hs hread => ?_
    rw [hs, checkClock, hlatest, Fallible.ensure_eq_ok_iff, Option.all_some, decide_eq_true_eq] at hread
    exact absurd hread (not_le.mpr hbehind)
  exact .bind hclock fun _ => .impossible

/-- A check that observes nothing leaves what its recovery leaves. -/
theorem checkWithSink_of_unobserved {inputs : CheckInputs} (store : StateStore)
    (h : ∀ recovered now, ∃ error, inputs.observe recovered now = .error error) :
    Spec (fun left => left ∈ crashStates (StateStore.recoverInterruptedAttempts inputs.started) store)
      (fun left => left = store) (checkWithSink inputs) fun _ _ => False := by
  unfold checkWithSink
  refine .bind (spec_readFor _) fun _ => .bind .reads fun _ => ?_
  have hrecover : Spec (fun left => left ∈ crashStates (StateStore.recoverInterruptedAttempts inputs.started) store)
      (fun left => left = store)
      (CrashTxn.mapError CommandError.ofStore (StateStore.recoverInterruptedAttempts inputs.started))
      fun _ _ => True := by
    rintro _ rfl
    exact ⟨fun _ hleft => List.mem_cons_of_mem _ hleft, fun _ _ _ => trivial⟩
  refine .bind hrecover fun recovered => ?_
  have hobserve : Spec (fun left => left ∈ crashStates (StateStore.recoverInterruptedAttempts inputs.started) store)
      (fun _ => True) (CrashTxn.read (inputs.observe recovered)) fun _ _ => False := by
    refine .read fun now _ _ hread => ?_
    obtain ⟨error, herror⟩ := h recovered now
    rw [herror] at hread
    cases hread
  exact .bind hobserve fun _ => .impossible

end Sentinel
