/-
# The logbook of a database

A logbook is a history with the runs it committed: what each run found, what it
reported, what it stored. A latch is advanced by commits only, and between them
only its delivery state is written, so the stored latch of a condition is the
latch run over the evaluations that the logbook has of it. What its fields say
of the history, and in which runs it announces an alert, follows.

Key theorems: `Logbook.latch_eq`, `Logbook.committed`, `latches_follow`.
-/
import Sentinel.Core.LatchHistory
import Sentinel.Delivery.Immutable

namespace Sentinel

open Collections Trailing

/-- A run that was committed. -/
structure LoggedRun where
  /-- The database it found. -/
  found : StateStore
  report : RunReport
  cutoff : Timestamp
  suppress : Bool
  /-- The report it returned. -/
  stored : RunReport

/-- **A logbook**: the runs that were committed, those that are still stored,
and the database. -/
inductive Logbook : List LoggedRun → List LoggedRun → StateStore → Prop
  | start : Logbook [] [] .empty
  | commit {log kept : List LoggedRun} {store : StateStore} {uuids : ℕ → String} {report : RunReport} {config : Config}
      {now : ℤ} {cutoff : Timestamp} {suppress : Bool} {committed : Committed} (h : Logbook log kept store)
      (ok : store.commitRun uuids report config now cutoff suppress = .ok committed) :
      Logbook (log ++ [⟨store, report, cutoff, suppress, committed.report⟩])
        ((kept ++ [LoggedRun.mk store report cutoff suppress committed.report]).filter fun run =>
          (committed.store.runs.find? run.report.runId).isSome) committed.store
  | claim {log kept : List LoggedRun} {store store' : StateStore} {uuid messageId executingRunId : String}
      {startedAt : Timestamp} {attempt : NotificationAttempt} (h : Logbook log kept store)
      (ok : store.beginNotificationAttempt uuid messageId startedAt executingRunId = .ok (store', attempt)) :
      Logbook log kept store'
  | record {log kept : List LoggedRun} {store store' : StateStore} {attempt : NotificationAttempt}
      {completedAt : Timestamp} {outcome : NotificationAttemptOutcome} {report : NotificationReport}
      (h : Logbook log kept store)
      (ok : store.recordNotificationAttempt attempt completedAt outcome = .ok (store', report)) :
      Logbook log kept store'
  | refresh {log kept : List LoggedRun} {store store' : StateStore} {runId : String} (h : Logbook log kept store)
      (ok : store.refreshRunDelivery runId = .ok store') : Logbook log kept store'

/-- The database has a logbook. -/
def HasLogbook (store : StateStore) : Prop := ∃ log kept, Logbook log kept store

/-- **Every transaction extends a logbook.** -/
theorem kept_hasLogbook : Kept HasLogbook where
  commit hs _ ok := by
    obtain ⟨log, kept, hs⟩ := hs
    exact ⟨_, _, hs.commit ok⟩
  claim hs ok := by
    obtain ⟨log, kept, hs⟩ := hs
    exact ⟨_, _, hs.claim ok⟩
  record hs ok := by
    obtain ⟨log, kept, hs⟩ := hs
    exact ⟨_, _, hs.record ok⟩
  refresh hs ok := by
    obtain ⟨log, kept, hs⟩ := hs
    exact ⟨_, _, hs.refresh ok⟩

/-- **Checks keep a logbook**, wherever they die. -/
theorem CheckReachable.hasLogbook {store : StateStore} (h : CheckReachable store) : HasLogbook store :=
  h.kept kept_hasLogbook ⟨_, _, .start⟩

/-! ### Latches -/

/-- What a run does to a condition's latch, if it evaluates it: it finds the
delivery state that was last written. -/
def LoggedRun.latchStep (conditionId : String) (run : LoggedRun) : Option LatchStep :=
  (run.report.evaluations.find? fun evaluation => evaluation.id = conditionId).map fun evaluation =>
    ⟨evaluation, run.report.completedAt, run.report.runId, run.suppress,
      (priorState run.found evaluation).alertDeliveryState⟩

/-- The evaluations of a condition, in the order they were committed. -/
def latchSteps (conditionId : String) (log : List LoggedRun) : List LatchStep := log.filterMap (·.latchStep conditionId)

/-- The latch apart from its delivery state, which other transactions write. -/
def ConditionState.withoutDelivery (state : ConditionState) : ConditionState := { state with alertDeliveryState := .never }

theorem latchSteps_concat (conditionId : String) (log : List LoggedRun) (run : LoggedRun) :
    latchSteps conditionId (log ++ [run]) = latchSteps conditionId log ++ (run.latchStep conditionId).toList := by
  unfold latchSteps
  rw [List.filterMap_append, List.filterMap_cons, List.filterMap_nil]
  cases run.latchStep conditionId <;> rfl

/-- A step sets the delivery state it has found, so it does not read another. -/
theorem latchStep_withoutDelivery {state state' : ConditionState} (h : state.withoutDelivery = state'.withoutDelivery)
    (step : LatchStep) : latchStep state step = latchStep state' step := by
  have hfound : ∀ state : ConditionState, ({ state with alertDeliveryState := step.delivery } : ConditionState) =
      { state.withoutDelivery with alertDeliveryState := step.delivery } := fun _ => rfl
  unfold latchStep
  rw [hfound state, hfound state', h]

/-- A result settles the delivery state only. -/
theorem settledLatch_withoutDelivery (members : List NotificationCondition) (result : Option AlertDeliveryState)
    (latch : ConditionState) : (StateStore.settledLatch members result latch).withoutDelivery = latch.withoutDelivery := by
  unfold StateStore.settledLatch
  cases result with
  | none => rfl
  | some state =>
    dsimp only
    split <;> rfl

/-- A latch follows its history whatever its delivery state is. -/
theorem FollowsHistory.of_withoutDelivery {steps : List LatchStep} {state state' : ConditionState}
    (h : FollowsHistory steps state) (hsame : state.withoutDelivery = state'.withoutDelivery) :
    FollowsHistory steps state' := by
  have hactive : state'.consecutiveActive = state.consecutiveActive := (congrArg ConditionState.consecutiveActive hsame).symm
  have hclear : state'.consecutiveClear = state.consecutiveClear := (congrArg ConditionState.consecutiveClear hsame).symm
  have hlifecycle : state'.lifecycle = state.lifecycle := (congrArg ConditionState.lifecycle hsame).symm
  have hfirst : state'.firstObservedAt = state.firstObservedAt := (congrArg ConditionState.firstObservedAt hsame).symm
  constructor
  · rw [hactive, h.consecutiveActive]
  · rw [hclear, h.consecutiveClear]
  · rw [hlifecycle, h.firing]
  · rw [hlifecycle, h.clear]
  · rw [hlifecycle, hfirst, h.unobserved]
  · rw [hfirst]
    exact h.firstObservedAt

section Commit

variable {report : RunReport} {suppress : Bool} {cutoff : Timestamp} {store : StateStore}
  {committed : Committed} {latching : Latching} {persisted : StateStore}

/-- What an evaluation makes of its latch, delivery apart, is a step. -/
theorem latchOutcome_withoutDelivery (evaluation : ConditionEvaluation) (prior : ConditionState) :
    (latchOutcome report suppress evaluation prior).1.withoutDelivery =
        (latchStep prior ⟨evaluation, report.completedAt, report.runId, suppress, prior.alertDeliveryState⟩).1.withoutDelivery ∧
      (latchOutcome report suppress evaluation prior).2.2 =
        (latchStep prior ⟨evaluation, report.completedAt, report.runId, suppress, prior.alertDeliveryState⟩).2 := by
  unfold latchOutcome latchStep
  dsimp only
  split <;> exact ⟨rfl, rfl⟩

/-- **A commit advances a condition's latch** by the step that the run has of it. -/
theorem IsCommitted.latch_advances (h : IsCommitted report suppress cutoff store committed latching persisted)
    {conditionId : String} {step : LatchStep}
    (hstep : LoggedRun.latchStep conditionId ⟨store, report, cutoff, suppress, committed.report⟩ = some step) :
    (committed.store.conditionState.find? conditionId).map (·.withoutDelivery) =
        some (latchStep ((store.conditionState.find? conditionId).getD (.fromEvaluation step.evaluation)) step).1.withoutDelivery ∧
      committed.report.transitions.filter (fun transition => transition.conditionId = conditionId) =
        (latchStep ((store.conditionState.find? conditionId).getD (.fromEvaluation step.evaluation)) step).2.toList := by
  obtain ⟨evaluation, hfind, rfl⟩ := Option.map_eq_some_iff.mp hstep
  have hm := List.mem_of_find?_eq_some hfind
  obtain rfl : evaluation.id = conditionId := by simpa using List.find?_some hfind
  obtain ⟨hstate, htransition⟩ := @latchOutcome_withoutDelivery report suppress evaluation (priorState store evaluation)
  constructor
  · rw [h.find?_conditionState, hfind, Option.map_some, Option.some_or, Option.map_some]
    exact congrArg some hstate
  · rw [h.filter_transitions_of_mem hm]
    exact congrArg Option.toList htransition

/-- A condition that the run does not evaluate keeps its latch, and is not announced. -/
theorem IsCommitted.latch_kept (h : IsCommitted report suppress cutoff store committed latching persisted)
    {conditionId : String}
    (hstep : LoggedRun.latchStep conditionId ⟨store, report, cutoff, suppress, committed.report⟩ = none) :
    committed.store.conditionState.find? conditionId = store.conditionState.find? conditionId ∧
      committed.report.transitions.filter (fun transition => transition.conditionId = conditionId) = [] := by
  have hfind := Option.map_eq_none_iff.mp hstep
  constructor
  · rw [h.find?_conditionState]
    dsimp only at hfind
    rw [hfind, Option.map_none, Option.none_or]
  · rw [List.filter_eq_nil_iff]
    intro transition ht hid
    obtain ⟨evaluation, hm, -, hof⟩ := h.conditionId_mem_of_transition ht
    have hne := List.find?_eq_none.mp hfind evaluation hm
    exact hne (decide_eq_true (hof.symm.trans (of_decide_eq_true hid)))

end Commit

namespace Logbook

variable {log kept : List LoggedRun} {store : StateStore}

theorem history (h : Logbook log kept store) : ∃ events, History events store := by
  induction h with
  | start => exact ⟨_, .start⟩
  | commit _ ok ih =>
    obtain ⟨events, ih⟩ := ih
    exact ⟨_, ih.commit ok⟩
  | claim _ ok ih =>
    obtain ⟨events, ih⟩ := ih
    obtain ⟨row, _, _, _, found, -⟩ := StateStore.beginNotificationAttempt_eq_ok ok
    exact ⟨_, ih.claim found ok⟩
  | record _ ok ih =>
    obtain ⟨events, ih⟩ := ih
    obtain ⟨row, _, _, _, _, found, -⟩ := StateStore.recordNotificationAttempt_eq_ok ok
    exact ⟨_, ih.record found ok⟩
  | refresh _ ok ih =>
    obtain ⟨events, ih⟩ := ih
    exact ⟨_, ih.refresh ok⟩

/-- **A logged run was committed** to a database with the earlier runs' logbook. -/
theorem committed (h : Logbook log kept store) : ∀ before run after, log = before ++ run :: after →
    (∃ kept, Logbook before kept run.found) ∧ ∃ committed latching persisted,
      IsCommitted run.report run.suppress run.cutoff run.found committed latching persisted ∧
        committed.report = run.stored := by
  induction h with
  | start =>
    intro before run after hlog
    exact absurd hlog.symm (List.append_ne_nil_of_right_ne_nil _ (List.cons_ne_nil _ _))
  | @commit log kept store _ report _ _ cutoff suppress committed hlogbook ok ih =>
    intro before run after hlog
    rcases List.eq_nil_or_concat after with rfl | ⟨after, last, rfl⟩
    · obtain ⟨rfl, hrun⟩ := List.append_inj' hlog rfl
      obtain rfl := List.singleton_inj.mp hrun
      obtain ⟨latching, persisted, hcommitted⟩ := commitRun_eq_ok ok
      exact ⟨⟨kept, hlogbook⟩, committed, latching, persisted, hcommitted, rfl⟩
    · rw [List.concat_eq_append, ← List.cons_append, ← List.append_assoc] at hlog
      exact ih before run after (List.append_inj' hlog rfl).1
  | claim _ _ ih | record _ _ ih | refresh _ _ ih => exact ih

/-- **The stored latch is the latch run** over the logged evaluations of its
condition, delivery apart: what other transactions write of it is its delivery
state. -/
theorem latch_eq (h : Logbook log kept store) (conditionId : String) :
    (store.conditionState.find? conditionId).map (·.withoutDelivery) =
      (latchSteps conditionId log).head?.map fun first =>
        (latchRun (.fromEvaluation first.evaluation) (latchSteps conditionId log)).withoutDelivery := by
  induction h with
  | start => rfl
  | @commit log kept store _ report _ _ cutoff suppress committed _ ok ih =>
    obtain ⟨latching, persisted, hcommitted⟩ := commitRun_eq_ok ok
    rw [latchSteps_concat]
    cases hstep : LoggedRun.latchStep conditionId ⟨store, report, cutoff, suppress, committed.report⟩ with
    | none =>
      rw [(hcommitted.latch_kept hstep).1, ih, Option.toList_none, List.append_nil]
    | some step =>
      rw [(hcommitted.latch_advances hstep).1, Option.toList_some]
      cases hsteps : latchSteps conditionId log with
      | nil =>
        rw [hsteps, List.head?_nil, Option.map_none, Option.map_eq_none_iff] at ih
        rw [ih]
        rfl
      | cons first rest =>
        rw [hsteps, List.head?_cons, Option.map_some, Option.map_eq_some_iff] at ih
        obtain ⟨latch, hlatch, hsame⟩ := ih
        rw [hlatch, List.cons_append, List.head?_cons, Option.map_some, ← List.cons_append, latchRun_concat,
          Option.getD_some, latchStep_withoutDelivery hsame]
  | claim _ ok ih =>
    obtain ⟨_, _, _, _, -, -, -, -, -, hstore⟩ := StateStore.beginNotificationAttempt_eq_ok ok
    rw [hstore]
    exact ih
  | record _ ok ih =>
    obtain ⟨_, _, _, _, states, -, -, -, -, -, -, -, hstates, hstore⟩ := StateStore.recordNotificationAttempt_eq_ok ok
    rw [← ih, hstore]
    show (states.find? conditionId).map _ = _
    rw [hstates, Option.map_map]
    exact congrArg₂ Option.map (funext fun latch => settledLatch_withoutDelivery _ _ latch) rfl
  | refresh _ ok ih =>
    obtain ⟨⟨runs, hstore⟩, -⟩ := StateStore.refreshRunDelivery_eq_ok ok
    rw [hstore]
    exact ih

/-- A condition has a latch once it was evaluated. -/
theorem find?_eq_none_iff (h : Logbook log kept store) (conditionId : String) :
    store.conditionState.find? conditionId = none ↔ latchSteps conditionId log = [] := by
  rw [← Option.map_eq_none_iff (f := (·.withoutDelivery)), h.latch_eq, Option.map_eq_none_iff, List.head?_eq_none_iff]

/-- A stored latch follows the logged evaluations of its condition. -/
theorem follows (h : Logbook log kept store) {conditionId : String} {latch : ConditionState}
    (hlatch : store.conditionState.find? conditionId = some latch) :
    FollowsHistory (evaluated (latchSteps conditionId log)) latch := by
  have heq := h.latch_eq conditionId
  rw [hlatch, Option.map_some] at heq
  obtain ⟨first, -, hfirst⟩ := Option.map_eq_some_iff.mp heq.symm
  exact (followsHistory_latchRun first.evaluation _).of_withoutDelivery hfirst

/-- So does the latch that an evaluation finds, stored or new. -/
theorem follows_found (h : Logbook log kept store) (conditionId : String) (evaluation : ConditionEvaluation) :
    FollowsHistory (evaluated (latchSteps conditionId log))
      ((store.conditionState.find? conditionId).getD (.fromEvaluation evaluation)) := by
  cases hfind : store.conditionState.find? conditionId with
  | none =>
    rw [(h.find?_eq_none_iff conditionId).mp hfind]
    exact followsHistory_fromEvaluation evaluation
  | some latch => exact h.follows hfind

/-- **An alert is announced by the runs in which a sustained run of active
evaluations completes**, with no recovery completed since. -/
theorem alert_iff (h : Logbook log kept store) (conditionId : String) {before after : List LoggedRun} {run : LoggedRun}
    (hlog : log = before ++ run :: after) :
    (∃ transition ∈ run.stored.transitions, transition.conditionId = conditionId ∧ transition.kind = .alert) ↔
      ¬Firing (evaluated (latchSteps conditionId before)) ∧
        Firing (evaluated (latchSteps conditionId (before ++ [run]))) := by
  obtain ⟨⟨kept, hbefore⟩, committed, latching, persisted, hcommitted, hstored⟩ := h.committed before run after hlog
  have hfilter : (∃ transition ∈ run.stored.transitions, transition.conditionId = conditionId ∧ transition.kind = .alert) ↔
      ∃ transition ∈ run.stored.transitions.filter (fun transition => transition.conditionId = conditionId),
        transition.kind = .alert := by
    simp only [List.mem_filter, decide_eq_true_eq, and_assoc]
  rw [hfilter, latchSteps_concat, ← hstored]
  cases hstep : run.latchStep conditionId with
  | none =>
    rw [(hcommitted.latch_kept hstep).2, Option.toList_none, List.append_nil]
    simp
  | some step =>
    have hfollows := hbefore.follows_found conditionId step.evaluation
    have hnext := hfollows.step step
    rw [(hcommitted.latch_advances hstep).2, Option.toList_some, evaluated_concat, ← hfollows.firing, ← hnext.firing]
    simp only [Option.mem_toList]
    exact alertAt_iff

end Logbook

/-- **Stored latches follow their history.** In every database that commits,
deliveries and recoveries have left, in whatever order and under whatever
thresholds, a condition has a latch just if it was evaluated; the latch's
counters, its lifecycle and its time of first observation are those of the
committed evaluations, each with the thresholds of its own run, and its alerts
were announced in the runs in which it so began to fire, and in no other. -/
theorem latches_follow {log kept : List LoggedRun} {store : StateStore} (h : Logbook log kept store)
    (conditionId : String) :
    (store.conditionState.find? conditionId = none ↔ latchSteps conditionId log = []) ∧
    (∀ latch, store.conditionState.find? conditionId = some latch →
      FollowsHistory (evaluated (latchSteps conditionId log)) latch) ∧
    ∀ before run after, log = before ++ run :: after →
      ((∃ transition ∈ run.stored.transitions, transition.conditionId = conditionId ∧ transition.kind = .alert) ↔
        ¬Firing (evaluated (latchSteps conditionId before)) ∧
          Firing (evaluated (latchSteps conditionId (before ++ [run])))) :=
  ⟨h.find?_eq_none_iff conditionId, fun _ hlatch => h.follows hlatch, fun _ _ _ hlog => h.alert_iff conditionId hlog⟩

/-- The API is found down in one run; delivering its alert leaves the latch as
that run's history has it. -/
theorem latches_follow_delivered : ∃ log kept store latch, Logbook log kept store ∧
    store.conditionState.find? "target:one:api" = some latch ∧ latch.alertDeliveryState = .delivered ∧
    FollowsHistory (evaluated (latchSteps "target:one:api" log)) latch := by
  have hany : (apiAlert (.delivered 200 "request")).toOption.any (fun alert =>
      decide ((alert.recorded.conditionState.find? "target:one:api").map (·.alertDeliveryState) = some .delivered)) =
        true := by
    decide +kernel
  obtain ⟨alert, h, hdelivered⟩ := Fallible.ok_of_any hany
  obtain ⟨latch, hlatch, hdelivered⟩ := Option.map_eq_some_iff.mp (of_decide_eq_true hdelivered)
  obtain ⟨attempt, report, hcommit, hclaim, hrecord⟩ := apiAlert_eq_ok h
  have hlogbook := ((Logbook.start.commit hcommit).claim hclaim).record hrecord
  exact ⟨_, _, _, latch, hlogbook, hlatch, hdelivered, (latches_follow hlogbook "target:one:api").2.1 latch hlatch⟩

end Sentinel
