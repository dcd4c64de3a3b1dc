/-
# A check's exit code is the one it stores

The code of a check is decided before its commit, and again when a delivery
fails; the stored code is written by the commit, and again by every result
that is not a delivery. A check that returns has the code of the run it
stored, which is the newest run, so it is the code that is printed; and the
run's activity has one entry for each message that was recovered and one for
each message that was sent.

Key theorems: `IsCommitted.accountOf`, `returns_finish`, `exit_agrees`.
-/
import Sentinel.Cli.Cooldown
import Sentinel.Delivery.Accounts

namespace Sentinel

open Collections CrashTxn Fallible

/-! ### The account a commit opens -/

section Commit

variable {report : RunReport} {suppress : Bool} {cutoff : Timestamp} {store : StateStore}
  {committed : Committed} {latching : Latching} {persisted : StateStore}

/-- A commit stores the code and the activity of its report. -/
theorem IsCommitted.accountOf (h : IsCommitted report suppress cutoff store committed latching persisted)
    (hcutoff : cutoff ≤ report.completedAt) :
    committed.store.accountOf report.runId = some ((report.exit.code.toNat : ℤ), report.deliveryActivity) ∧
      committed.report.runId = report.runId ∧ committed.report.exit = report.exit := by
  obtain ⟨before, run, hruns, hid, hstored, -⟩ := h.newest hcutoff
  refine ⟨?_, by rw [h.report_latched], by rw [h.report_latched]⟩
  have hfind : committed.store.runs.find? report.runId = some run := by
    refine Table.find?_eq_some_iff.mpr ⟨?_, hid⟩
    rw [hruns]
    exact List.mem_concat_self
  obtain ⟨base, hbase, hrun⟩ := hstored.header
  simp only [runRow, bind_eq_ok_iff] at hbase
  obtain ⟨_, -, _, -, _, -, _, -, hbase⟩ := hbase
  obtain rfl := Except.ok.inj hbase
  rw [StateStore.accountOf, hfind, Option.map_some, hrun, h.report_latched]

end Commit

/-- The report of a run has its account. -/
theorem loadReport_accountOf {store : StateStore} {runId : String} {report : RunReport} {code : UInt8}
    {activities : List DeliveryActivity} (h : store.loadReport runId = .ok report)
    (haccount : store.accountOf runId = some ((code.toNat : ℤ), activities)) :
    report.runId = runId ∧ report.exit = ⟨code, exitReason code⟩ ∧ report.deliveryActivity = activities := by
  simp only [StateStore.loadReport, bind_eq_ok_iff, constraint_eq_ok_iff] at h
  obtain ⟨run, hrun, _, -, _, -, _, -, exitCode, hcode, _, -, _, -, h⟩ := h
  rw [StateStore.accountOf, hrun, Option.map_some, Option.some.injEq, Prod.mk.injEq] at haccount
  obtain ⟨hexit, hactivities⟩ := haccount
  rw [hexit, u8FromI64_toNat] at hcode
  obtain rfl := Except.ok.inj hcode
  obtain rfl := Except.ok.inj h
  exact ⟨rfl, rfl, hactivities⟩

/-! ### The account a check closes -/

/-- The messages a check sends, once its run is committed. -/
def attemptsOf (inputs : CheckInputs) (store : StateStore) : List OutboxMessage :=
  if inputs.suppressNotifications then []
  else attempted inputs.send ((store.pendingOutbox inputs.selectedAt).toOption.getD [])

section Finish

variable {inputs : CheckInputs} {runId : String} {store left : StateStore} {code : ℤ} {activities : List DeliveryActivity}

theorem returns_deliver {failed : Bool} (h : Returns (deliver inputs runId) store failed left)
    (haccount : store.accountOf runId = some (code, activities)) (haccounted : Accounted store activities) :
    (failed ↔ ∃ message ∈ attemptsOf inputs store, (inputs.send message).outcome.status ≠ .delivered) ∧
      ∃ made, List.Forall₂ (IsAttempt inputs.send) (attemptsOf inputs store) made ∧
        left.attemptIds.Perm (store.attemptIds ++ made.map (·.attemptId)) ∧
        left.accountOf runId = some (if failed then 4 else code, activities ++ made) := by
  unfold deliver at h
  unfold attemptsOf
  split at h
  case isTrue hsuppressed =>
    obtain ⟨rfl, rfl⟩ := Returns.pure_iff.mp h
    rw [if_pos hsuppressed]
    refine ⟨by simp, [], .nil, by simp, ?_⟩
    rw [haccount, List.append_nil]
    rfl
  case isFalse hsends =>
    simp only [StateStore.readFor, Returns.bind_iff, Returns.mapError_iff, Returns.read_iff] at h
    obtain ⟨pending, _, ⟨hpending, rfl⟩, _, _, ⟨-, rfl⟩, h⟩ := h
    rw [if_neg hsends, hpending]
    exact returns_deliverPending h haccount haccounted

/-- **What a check that returns has done since its commit**: the account of its
run has its code and its attempts, and the report it prints is loaded. -/
theorem returns_finish {recovered : List DeliveryActivity} {report : RunReport} {exit : UInt8}
    (h : Returns (finishCheck inputs recovered report) store exit left)
    (haccount : store.accountOf report.runId = some ((report.exit.code.toNat : ℤ), activities))
    (haccounted : Accounted store activities) (hrecovered : recovered ≠ [] → report.exit.code = 4) :
    exit = (if ∃ message ∈ attemptsOf inputs store, (inputs.send message).outcome.status ≠ .delivered then 4
      else report.exit.code) ∧
      ∃ made, List.Forall₂ (IsAttempt inputs.send) (attemptsOf inputs store) made ∧
        left.attemptIds.Perm (store.attemptIds ++ made.map (·.attemptId)) ∧
        left.accountOf report.runId = some ((exit.toNat : ℤ), activities ++ made) ∧
        ∃ reports, left.loadReports 1 none = .ok reports := by
  unfold finishCheck at h
  simp only [StateStore.readFor, StateStore.commitFor, Returns.bind_iff, Returns.mapError_iff, Returns.read_iff,
    Returns.commit_iff, Returns.pure_iff, bind_eq_ok_iff] at h
  obtain ⟨failed, delivered, hdeliver, _, refreshed, ⟨_, hrefresh, hpair⟩, reports, _, ⟨hload, rfl⟩, hexit, rfl⟩ := h
  obtain ⟨rfl, -⟩ := Prod.mk.inj (Except.ok.inj hpair)
  obtain ⟨hfailed, made, hmade, hadds, hleft⟩ := returns_deliver hdeliver haccount haccounted
  rw [← StateStore.accountOf_refreshRunDelivery hrefresh] at hleft
  -- a recovery had the code of a failure before the commit already
  have hcode : exit = if failed then 4 else report.exit.code := by
    rw [← hexit]
    cases failed with
    | true => rfl
    | false =>
      by_cases hrecovery : recovered = []
      · rw [hrecovery]
        rfl
      · rw [hrecovered hrecovery, ite_self]
        rfl
  refine ⟨?_, made, hmade, ?_, ?_, reports, hload⟩
  · rw [hcode]
    exact if_congr hfailed rfl rfl
  · obtain ⟨⟨runs, rfl⟩, -⟩ := StateStore.refreshRunDelivery_eq_ok hrefresh
    exact hadds
  · rw [hleft, hcode]
    cases failed <;> rfl

end Finish

/-- No delivery changes more of a run than its account and its deliveries. -/
theorem keptByDelivery_sameHistory (store : StateStore) : KeptByDelivery (SameHistory store) where
  claim hs ok := hs.trans (keeps_of_claim ok).1
  record hs ok := hs.trans (keeps_of_record ok).1
  refresh hs ok := hs.trans (keeps_of_refresh ok).1

/-- **The run that was committed is the newest** when its check returns. -/
theorem loadReports_finish {inputs : CheckInputs} {recovered : List DeliveryActivity} {report : RunReport}
    {suppress : Bool} {cutoff : Timestamp} {store left : StateStore} {committed : Committed} {latching : Latching}
    {persisted : StateStore} {exit : UInt8}
    (h : IsCommitted report suppress cutoff store committed latching persisted) (hcutoff : cutoff ≤ report.completedAt)
    (hfinish : Returns (finishCheck inputs recovered committed.report) committed.store exit left) :
    left.loadReports 1 none = (left.loadReport report.runId).map fun loaded => [loaded] := by
  obtain ⟨before, run, hruns, hid, -, hbefore⟩ := h.newest hcutoff
  have hsame : SameHistory committed.store left :=
    hfinish.of_spec (spec_finish (keptByDelivery_sameHistory committed.store) inputs recovered committed.report) (.refl _)
  rw [SameHistory, hruns] at hsame
  obtain ⟨before', last, hruns', hbefores, hlast⟩ := forall₂_append_left hsame
  obtain ⟨run', _, hrun, hnil, rfl⟩ := List.forall₂_cons_left_iff.mp hlast
  obtain rfl := List.forall₂_nil_left_iff.mp hnil
  obtain ⟨hid', hcompleted, -⟩ := hrun.observed
  rw [StateStore.loadReports_of_newest hruns' fun old hold => ?_, hid', hid]
  obtain ⟨former, hformer, hold⟩ := exists_of_forall₂_right hbefores old hold
  rw [hcompleted, hold.observed.2.1]
  exact hbefore former hformer

/-! ### The code of a check -/

/-- The code before the commit. -/
theorem initialExit_eq (config : Config) (failOn : FailOn) (observed : Observed) :
    initialExit config failOn observed =
      if observed.recoveredAttempts ≠ [] then 4
      else if completeTargets observed < config.observation.minimumCompleteTargets then 3
      else if ∃ evaluation ∈ observed.evaluations, evaluation.outcome = .active ∧ failOn.matches evaluation.severity then 1
      else 0 := by
  have hunmet : (¬healthMet config observed) ↔ completeTargets observed < config.observation.minimumCompleteTargets := by
    rw [healthMet, decide_eq_true_eq, not_le]
  have hfails : failOnMatch failOn observed ↔
      ∃ evaluation ∈ observed.evaluations, evaluation.outcome = .active ∧ failOn.matches evaluation.severity := by
    simp only [failOnMatch, List.any_eq_true, Bool.and_eq_true, decide_eq_true_eq]
  simp only [initialExit, ← hunmet, ← hfails, Bool.not_eq_true', List.isEmpty_eq_false_iff, ite_not]

/-- Retention does not reach the run of the check. -/
theorem Circumstances.retentionCutoff_le (c : Circumstances) : c.inputs.retentionCutoff ≤ c.completed := by
  show (retentionCutoff c.config c.completed).toOption.getD c.completed ≤ c.completed
  cases h : retentionCutoff c.config c.completed with
  | ok cutoff => exact Sentinel.retentionCutoff_le (retentionDays_of_valid c.valid) h
  | error _ => exact le_refl _

/-- **The code of a check agrees with what it stores.** A check that returns has
the code of its recovery and its attempts, or else of its targets, or else of
its evaluations; the run it stored has that code, with one activity for each
recovered attempt and one, with its result, for each attempt that was made; and
so has the report that is printed. -/
theorem exit_agrees {c : Circumstances} {store left : StateStore} {code : UInt8}
    (h : Returns (checkWithSink c.inputs) store code left) :
    ∃ recovered now report committed made, Committing c.inputs store recovered now report committed ∧
      List.Forall₂ IsRecovered store.interruptedMessages recovered ∧
      List.Forall₂ (IsAttempt c.send) (attemptsOf c.inputs committed.store) made ∧
      left.attemptIds.Perm (committed.store.attemptIds ++ made.map (·.attemptId)) ∧
      code = (if store.interruptedMessages ≠ [] ∨
          ∃ message ∈ attemptsOf c.inputs committed.store, (c.send message).outcome.status ≠ .delivered then 4
        else if report.targets.countP (·.complete) < c.config.observation.minimumCompleteTargets then 3
        else if ∃ evaluation ∈ report.evaluations, evaluation.outcome = .active ∧ c.failOn.matches evaluation.severity
          then 1
        else 0) ∧
      (∃ run, left.runs.find? c.runId = some run ∧ run.exitCode = code.toNat ∧ run.deliveryActivity = recovered ++ made) ∧
      ∃ printed, left.loadReports 1 none = .ok [printed] ∧ printed.runId = c.runId ∧
        printed.exit = ⟨code, exitReason code⟩ ∧ printed.deliveryActivity = recovered ++ made := by
  obtain ⟨recovered, now, report, committed, hcommits, hfinish⟩ := returns_check_iff.mp h
  obtain ⟨hrecovered, hquarantined⟩ := recovered_quarantined hcommits.recovers
  obtain ⟨latching, persisted, hcommitted⟩ := commitRun_eq_ok hcommits.commits
  obtain ⟨evaluated, -, -, rfl⟩ := Circumstances.observation_eq_ok hcommits.observes
  obtain ⟨haccount, hid, hexit⟩ := hcommitted.accountOf c.retentionCutoff_le
  have haccounted : Accounted committed.store recovered := fun activity hactivity =>
    (hcommitted.quarantines (hquarantined activity hactivity)).mem_attemptIds
  have hnone : recovered ≠ [] ↔ store.interruptedMessages ≠ [] := by
    rw [← List.length_pos_iff, ← hrecovered.length_eq, List.length_pos_iff]
  have hbefore : recovered ≠ [] → committed.report.exit.code = 4 := by
    intro hrecovery
    rw [hexit]
    exact (initialExit_eq ..).trans (if_pos hrecovery)
  rw [← hid] at haccount
  rw [← hexit] at haccount
  obtain ⟨hcode, made, hmade, hadds, hleft, reports, hreports⟩ := returns_finish hfinish haccount haccounted hbefore
  rw [hid] at hleft
  refine ⟨recovered, now, _, committed, made, hcommits, hrecovered, hmade, hadds, ?_, ?_, ?_⟩
  · by_cases hfailed : ∃ message ∈ attemptsOf c.inputs committed.store, (c.send message).outcome.status ≠ .delivered
    · rw [hcode]
      exact (if_pos hfailed).trans (if_pos (.inr hfailed)).symm
    · calc code = committed.report.exit.code := hcode.trans (if_neg hfailed)
        _ = initialExit c.config c.failOn (c.assembled recovered now evaluated) := congrArg (·.code) hexit
        _ = _ := initialExit_eq ..
        _ = _ := if_congr (hnone.trans (or_iff_left hfailed).symm) rfl rfl
  · obtain ⟨run, hrun, haccount⟩ := Option.map_eq_some_iff.mp hleft
    obtain ⟨hrunCode, hactivity⟩ := Prod.mk.inj haccount
    exact ⟨run, hrun, hrunCode, hactivity⟩
  · have hnewest := loadReports_finish hcommitted c.retentionCutoff_le hfinish
    rw [hnewest] at hreports
    obtain ⟨printed, hprinted, -⟩ := map_eq_ok_iff.mp hreports
    refine ⟨printed, hnewest.trans ?_, loadReport_accountOf hprinted hleft⟩
    exact map_eq_ok_iff.mpr ⟨printed, hprinted, rfl⟩

/-- A check whose only resolver rejects the password, and whose alert the
network loses. -/
def lostCheck : Circumstances :=
  { rejectedCheck "first" 0 with
    config := { rewritesConfig [] with
      notifications := ⟨.pushover, some { applicationTokenFile := "/token", userKeyFile := "/user" }⟩ }
    valid := by decide +kernel
    dryRun := false }

/-- The check fails for its lost alert, not for its incomplete target. -/
theorem exit_agrees_lost : ∃ left run, Returns (checkWithSink lostCheck.inputs) .empty 4 left ∧
    left.runs.find? "first" = some run ∧ run.exitCode = 4 := by
  have hany : (checkWithSink lostCheck.inputs .empty).2.toOption.any (fun result => decide (result.1 = 4)) = true := by
    decide +kernel
  obtain ⟨⟨code, left⟩, hreturns, hcode⟩ := ok_of_any hany
  obtain rfl := of_decide_eq_true hcode
  have hreturns : Returns (checkWithSink lostCheck.inputs) .empty 4 left := hreturns
  obtain ⟨_, _, _, _, _, -, -, -, -, -, ⟨run, hrun, hexit, -⟩, -⟩ := exit_agrees hreturns
  exact ⟨left, run, hreturns, hrun, hexit⟩

end Sentinel
