/-
# The latch as a function of history

A latch driven by any sequence of evaluations of its condition, each with its
own thresholds, any suppression flags, and its delivery state rewritten
arbitrarily between the steps (the store does so). Once the steps that were
not evaluated are erased, every field but the delivery state is a function of
the history (`Trailing`): the counters are the lengths of its trailing runs,
and the lifecycle and the time of first observation say what occurred since
the last completed recovery. Under the thresholds of one configuration this is
a matter of runs of two lengths.

Key theorems: `FollowsHistory.step`, `followsHistory_latchRun`, `FollowsHistory.meets`, `latchRun_history`.
-/
import Sentinel.Core.Latch
import Sentinel.Lib.Trailing

namespace Sentinel

open Trailing

/-- One evaluation of a condition, with the delivery state it finds. -/
structure LatchStep where
  evaluation : ConditionEvaluation
  observedAt : Timestamp
  runId : String
  suppressNotifications : Bool
  delivery : AlertDeliveryState

namespace LatchStep

def isActive (step : LatchStep) : Bool := step.evaluation.outcome = .active

def isClear (step : LatchStep) : Bool := step.evaluation.outcome = .clear

def isEvaluated (step : LatchStep) : Bool := step.evaluation.outcome ≠ .notEvaluated

theorem isClear_of_isActive : ∀ step : LatchStep, step.isActive → step.isClear = false := by
  simp +contextual [isActive, isClear]

theorem isActive_of_isClear : ∀ step : LatchStep, step.isClear → step.isActive = false := by
  simp +contextual [isActive, isClear]

end LatchStep

/-- One step of the latch: another writer sets the delivery state, then the
evaluation advances the condition. -/
def latchStep (state : ConditionState) (step : LatchStep) : ConditionState × Option ConditionTransition :=
  let (state, _, transition) := advanceCondition step.evaluation step.observedAt step.runId
    step.suppressNotifications { state with alertDeliveryState := step.delivery }
  (state, transition)

/-- The latch after a sequence of steps. -/
def latchRun (state : ConditionState) (steps : List LatchStep) : ConditionState :=
  steps.foldl (fun state step => (latchStep state step).1) state

/-- The steps that were evaluated. -/
def evaluated (steps : List LatchStep) : List LatchStep := steps.filter (·.isEvaluated)

/-- The step emits an alert. -/
def AlertAt (state : ConditionState) (step : LatchStep) : Prop :=
  ∃ transition, (latchStep state step).2 = some transition ∧ transition.kind = .alert

theorem latchRun_concat (state : ConditionState) (steps : List LatchStep) (step : LatchStep) :
    latchRun state (steps ++ [step]) = (latchStep (latchRun state steps) step).1 := by
  simp [latchRun]

theorem evaluated_concat (steps : List LatchStep) (step : LatchStep) :
    evaluated (steps ++ [step]) = evaluated steps ++ if step.isEvaluated then [step] else [] := by
  simp only [evaluated, List.filter_append, List.filter_cons, List.filter_nil]

theorem evaluated_append_cons (a b : List LatchStep) {x : LatchStep} (hx : x.isEvaluated) :
    evaluated (a ++ x :: b) = evaluated a ++ x :: evaluated b := by
  simp only [evaluated, List.filter_append, List.filter_cons, hx, if_true]

/-! ### One step, by its outcome -/

section Step

variable {state : ConditionState} {step : LatchStep}

theorem latchStep_notEvaluated (h : step.evaluation.outcome = .notEvaluated) :
    latchStep state step =
      ({ state with
          kind := step.evaluation.kind
          severity := step.evaluation.severity
          alertDeliveryState := step.delivery }, none) := by
  simp [latchStep, advanceCondition, h]

theorem latchStep_active (h : step.evaluation.outcome = .active) :
    latchStep state step = advanceActive step.evaluation step.observedAt step.runId step.suppressNotifications
      { state with
        kind := step.evaluation.kind
        severity := step.evaluation.severity
        alertDeliveryState := step.delivery
        lastObservedAt := some step.observedAt } := by
  simp [latchStep, advanceCondition, h]

theorem latchStep_clear (h : step.evaluation.outcome = .clear) :
    latchStep state step = advanceClear step.evaluation step.runId step.suppressNotifications
      { state with
        kind := step.evaluation.kind
        severity := step.evaluation.severity
        alertDeliveryState := step.delivery
        lastObservedAt := some step.observedAt } := by
  simp [latchStep, advanceCondition, h]

/-- An alert is emitted exactly when `firing` is entered. -/
theorem alertAt_iff :
    AlertAt state step ↔ state.lifecycle ≠ .firing ∧ (latchStep state step).1.lifecycle = .firing := by
  unfold AlertAt
  cases h : step.evaluation.outcome with
  | notEvaluated => simp [latchStep_notEvaluated h]
  | active =>
    rw [latchStep_active h, advanceActive_eq]
    by_cases hf : state.lifecycle = .firing <;> simp [Fires, hf]
  | clear =>
    rw [latchStep_clear h, advanceClear_eq]
    by_cases hf : state.lifecycle = .firing
    · simp [hf]
    · simp only [Resolves, hf, false_and, and_false, if_false]
      split <;> simp [hf]

end Step

/-! ### The invariant -/

/-- The history ends with the evaluation that completes its sustain run. -/
def Sustained : List LatchStep → Prop :=
  Completes LatchStep.isActive fun step => step.evaluation.sustainRuns.toNat

/-- The history ends with the evaluation that completes its recovery run. -/
def Recovered : List LatchStep → Prop :=
  Completes LatchStep.isClear fun step => step.evaluation.recoveryRuns.toNat

/-- A condition fires: a sustained run was completed, and no recovery since. -/
def Firing : List LatchStep → Prop := HeldSince Sustained Recovered

/-- A condition was seen: it was found active, and no recovery completed since. -/
def Seen : List LatchStep → Prop := HeldSince (Ends LatchStep.isActive) Recovered

/-- The fields of a latch, as a function of the evaluated history, each
evaluation with its own thresholds. -/
structure FollowsHistory (h : List LatchStep) (state : ConditionState) : Prop where
  consecutiveActive : state.consecutiveActive.toNat = min (run LatchStep.isActive h) (2 ^ 32 - 1)
  consecutiveClear : state.consecutiveClear.toNat = min (run LatchStep.isClear h) (2 ^ 32 - 1)
  firing : state.lifecycle = .firing ↔ Firing h
  clear : state.lifecycle = .clear ↔ ¬Seen h
  unobserved : state.firstObservedAt = none ↔ state.lifecycle = .clear
  firstObservedAt : ∀ t, state.firstObservedAt = some t ↔
    ∃ x, FirstHeld LatchStep.isActive Recovered h x ∧ x.observedAt = t

theorem followsHistory_fromEvaluation (first : ConditionEvaluation) : FollowsHistory [] (.fromEvaluation first) where
  consecutiveActive := rfl
  consecutiveClear := rfl
  firing := by simp [ConditionState.fromEvaluation, Firing, Sustained, heldSince_nil, not_completes_nil]
  clear := by simp [ConditionState.fromEvaluation, Seen, heldSince_nil, not_ends_nil]
  unobserved := by simp [ConditionState.fromEvaluation]
  firstObservedAt t := by
    simp only [ConditionState.fromEvaluation, reduceCtorEq, false_iff]
    rintro ⟨x, hx, -⟩
    exact not_ends_nil (heldSince_nil.mp hx.held)

/-- A threshold that fits the counter is reached by the counter when the run
reaches it. -/
theorem le_saturatingSucc_iff (threshold : UInt32) {counter : UInt32} {n : ℕ}
    (h : counter.toNat = min n (2 ^ 32 - 1)) :
    threshold ≤ saturatingSucc counter ↔ threshold.toNat ≤ n + 1 := by
  have := threshold.toNat_lt
  rw [UInt32.le_iff_toNat_le, saturatingSucc_toNat, h]
  omega

namespace FollowsHistory

variable {h : List LatchStep} {state : ConditionState} {next : LatchStep}

theorem active (hf : FollowsHistory h state) (ho : next.evaluation.outcome = .active) :
    FollowsHistory (h ++ [next]) (latchStep state next).1 := by
  have hact : next.isActive = true := by simp [LatchStep.isActive, ho]
  have hcl : next.isClear = false := LatchStep.isClear_of_isActive next hact
  have hrun := run_concat LatchStep.isActive h next
  have hrun' := run_concat LatchStep.isClear h next
  rw [if_pos hact] at hrun
  rw [if_neg (by simp [hcl])] at hrun'
  have hrecovered : ¬Recovered (h ++ [next]) := by
    rw [Recovered, completes_concat, hcl]
    simp
  have hsustained : Sustained (h ++ [next]) ↔ next.evaluation.sustainRuns.toNat ≤ run LatchStep.isActive h + 1 := by
    rw [Sustained, completes_concat, hact]
    simp
  have hle := le_saturatingSucc_iff next.evaluation.sustainRuns hf.consecutiveActive
  rw [latchStep_active ho, advanceActive_eq]
  refine ⟨?_, ?_, ?_, ?_, ?_, fun t => ?_⟩
  · simp only [saturatingSucc_toNat, hf.consecutiveActive, hrun]
    omega
  · simp [hrun']
  · rw [Firing, heldSince_concat, ← Firing, hsustained, ← hf.firing]
    simp only [Fires, hle, hrecovered]
    by_cases hfiring : state.lifecycle = .firing <;> simp [hfiring]
  · rw [Seen, heldSince_concat, ends_concat]
    simp only [hact, true_or, not_true_eq_false, iff_false]
    split <;> simp
  · simp only [reduceCtorEq, false_iff]
    split <;> simp
  · simp only [firstHeld_concat, hrecovered, hact, not_false_eq_true, and_true, true_and, Option.some.injEq]
    have hold := hf.firstObservedAt t
    by_cases hseen : Seen h
    · obtain ⟨t', ht'⟩ := Option.ne_none_iff_exists'.mp fun hnone =>
        hf.clear.mp (hf.unobserved.mp hnone) hseen
      rw [ht', Option.some.injEq] at hold
      have hseen' : HeldSince (Ends LatchStep.isActive) Recovered h := hseen
      simp [hseen', ht', hold]
    · have hseen' : ¬HeldSince (Ends LatchStep.isActive) Recovered h := hseen
      have hnone := hf.unobserved.mpr (hf.clear.mpr hseen)
      have hfirst : ∀ y, ¬FirstHeld LatchStep.isActive Recovered h y := fun y hy => hseen hy.held
      simp [hseen', hnone, hfirst]

theorem clears (hf : FollowsHistory h state) (ho : next.evaluation.outcome = .clear) :
    FollowsHistory (h ++ [next]) (latchStep state next).1 := by
  classical
  have hcl : next.isClear = true := by simp [LatchStep.isClear, ho]
  have hact : next.isActive = false := LatchStep.isActive_of_isClear next hcl
  have hrun := run_concat LatchStep.isActive h next
  have hrun' := run_concat LatchStep.isClear h next
  rw [if_neg (by simp [hact])] at hrun
  rw [if_pos hcl] at hrun'
  have hsustained : ¬Sustained (h ++ [next]) := by
    rw [Sustained, completes_concat, hact]
    simp
  have hle := le_saturatingSucc_iff next.evaluation.recoveryRuns hf.consecutiveClear
  have hrecovered : Recovers next.evaluation { state with
      kind := next.evaluation.kind
      severity := next.evaluation.severity
      alertDeliveryState := next.delivery
      lastObservedAt := some next.observedAt } ↔ Recovered (h ++ [next]) := by
    rw [Recovered, completes_concat, hcl]
    simp only [true_and, Recovers, hle]
  rw [latchStep_clear ho, advanceClear_eq]
  refine ⟨?_, ?_, ?_, ?_, ?_, fun t => ?_⟩
  · simp [hrun]
  · simp only [saturatingSucc_toNat, hf.consecutiveClear, hrun']
    omega
  · rw [Firing, heldSince_concat, ← Firing, ← hf.firing]
    simp only [hsustained, false_or, hrecovered]
    by_cases hnow : Recovered (h ++ [next]) <;> simp [hnow]
  · rw [Seen, heldSince_concat, ends_concat, ← Seen, not_or, not_and_or, ← hf.clear]
    simp only [hact, hrecovered]
    by_cases hnow : Recovered (h ++ [next]) <;> simp [hnow]
  · simp only [hrecovered]
    by_cases hnow : Recovered (h ++ [next]) <;> simp [hnow, hf.unobserved]
  · simp only [firstHeld_concat, hact, Bool.false_eq_true, false_and, and_false, false_or, hrecovered]
    by_cases hnow : Recovered (h ++ [next]) <;> simp [hnow, hf.firstObservedAt]

/-- **What one step preserves**, whatever its thresholds are. -/
theorem step (hf : FollowsHistory h state) (next : LatchStep) :
    FollowsHistory (h ++ if next.isEvaluated then [next] else []) (latchStep state next).1 := by
  cases ho : next.evaluation.outcome with
  | notEvaluated =>
    have hev : next.isEvaluated = false := by simp [LatchStep.isEvaluated, ho]
    rw [latchStep_notEvaluated ho, hev]
    simp only [Bool.false_eq_true, ↓reduceIte, List.append_nil]
    exact ⟨hf.consecutiveActive, hf.consecutiveClear, hf.firing, hf.clear, hf.unobserved, hf.firstObservedAt⟩
  | active =>
    have hev : next.isEvaluated = true := by simp [LatchStep.isEvaluated, ho]
    rw [hev, if_pos rfl]
    exact hf.active ho
  | clear =>
    have hev : next.isEvaluated = true := by simp [LatchStep.isEvaluated, ho]
    rw [hev, if_pos rfl]
    exact hf.clears ho

end FollowsHistory

/-- **The latch follows its history, whatever happened** and whatever the
thresholds were. -/
theorem followsHistory_latchRun (first : ConditionEvaluation) (steps : List LatchStep) :
    FollowsHistory (evaluated steps) (latchRun (.fromEvaluation first) steps) := by
  induction steps using List.reverseRecOn with
  | nil => exact followsHistory_fromEvaluation first
  | append_singleton steps x ih =>
    rw [latchRun_concat, evaluated_concat]
    exact ih.step x

/-! ### One configuration's thresholds -/

/-- The fields of a latch with thresholds `s` and `r`, as a function of the
evaluated history. -/
structure Meets (s r : ℕ) (h : List LatchStep) (state : ConditionState) : Prop where
  consecutiveActive : state.consecutiveActive.toNat = min (run LatchStep.isActive h) (2 ^ 32 - 1)
  consecutiveClear : state.consecutiveClear.toNat = min (run LatchStep.isClear h) (2 ^ 32 - 1)
  firing : state.lifecycle = .firing ↔ Since LatchStep.isActive s LatchStep.isClear r h
  clear : state.lifecycle = .clear ↔ ¬Since LatchStep.isActive 1 LatchStep.isClear r h
  unobserved : state.firstObservedAt = none ↔ state.lifecycle = .clear
  firstObservedAt : ∀ t, state.firstObservedAt = some t ↔
    ∃ x, FirstSince LatchStep.isActive LatchStep.isClear r h x ∧ x.observedAt = t

/-- A latch that follows a history with one pair of thresholds. -/
theorem FollowsHistory.meets {s r : UInt32} (hs : 1 ≤ s.toNat) (hr : 1 ≤ r.toNat) {h : List LatchStep}
    {state : ConditionState} (hf : FollowsHistory h state)
    (hsteps : ∀ x ∈ h, x.evaluation.sustainRuns = s ∧ x.evaluation.recoveryRuns = r) :
    Meets s.toNat r.toNat h state := by
  have hrecovery : ∀ x ∈ h, x.evaluation.recoveryRuns.toNat = r.toNat := fun x hx => by rw [(hsteps x hx).2]
  have hthresholds : ∀ x ∈ h, x.evaluation.sustainRuns.toNat = s.toNat ∧ x.evaluation.recoveryRuns.toNat = r.toNat :=
    fun x hx => ⟨by rw [(hsteps x hx).1], hrecovery x hx⟩
  have hfiring : Firing h ↔ Since LatchStep.isActive s.toNat LatchStep.isClear r.toNat h :=
    heldSince_completes_iff LatchStep.isClear_of_isActive hs hr hthresholds
  have hseen : Seen h ↔ Since LatchStep.isActive 1 LatchStep.isClear r.toNat h := by
    rw [Seen, ends_eq]
    exact heldSince_completes_iff LatchStep.isClear_of_isActive Nat.one_pos hr fun x hx => ⟨rfl, hrecovery x hx⟩
  have hfirst := fun x => firstHeld_completes_iff LatchStep.isClear_of_isActive hr hrecovery x
  exact
    { consecutiveActive := hf.consecutiveActive
      consecutiveClear := hf.consecutiveClear
      firing := hf.firing.trans hfiring
      clear := hf.clear.trans (not_congr hseen)
      unobserved := hf.unobserved
      firstObservedAt := fun t => (hf.firstObservedAt t).trans (exists_congr fun x => and_congr_left' (hfirst x)) }

theorem meets_latchRun {s r : UInt32} (hs : 1 ≤ s.toNat) (hr : 1 ≤ r.toNat) (first : ConditionEvaluation)
    (steps : List LatchStep)
    (hsteps : ∀ x ∈ steps, x.evaluation.sustainRuns = s ∧ x.evaluation.recoveryRuns = r) :
    Meets s.toNat r.toNat (evaluated steps) (latchRun (.fromEvaluation first) steps) :=
  (followsHistory_latchRun first steps).meets hs hr fun x hx => hsteps x (List.mem_of_mem_filter hx)

/-- Steps that start with a firing latch and end with one that is not complete
a recovery. -/
theorem consecutive_between {s r : UInt32} (hs : 1 ≤ s.toNat) (hr : 1 ≤ r.toNat)
    (first : ConditionEvaluation) {a b : List LatchStep} {x : LatchStep}
    (hsteps : ∀ y ∈ a ++ x :: b, y.evaluation.sustainRuns = s ∧ y.evaluation.recoveryRuns = r)
    (hx : AlertAt (latchRun (.fromEvaluation first) a) x)
    (hb : (latchRun (.fromEvaluation first) (a ++ x :: b)).lifecycle ≠ .firing) :
    Consecutive LatchStep.isClear r.toNat (evaluated b) := by
  have ha := meets_latchRun hs hr first a fun y hy => hsteps y (by simp [hy])
  have hax := meets_latchRun hs hr first (a ++ [x]) fun y hy => hsteps y (by
    rcases List.mem_append.mp hy with hy | hy <;> simp_all)
  have hall := meets_latchRun hs hr first (a ++ x :: b) hsteps
  rw [alertAt_iff, ← latchRun_concat] at hx
  obtain ⟨hbefore, hafter⟩ := hx
  rw [Ne, ha.firing] at hbefore
  rw [hax.firing, evaluated_concat] at hafter
  rw [Ne, hall.firing] at hb
  by_contra hno
  -- the alert's step is an evaluated one, and the run of active ones ends there
  by_cases hev : x.isEvaluated
  · rw [if_pos hev, since_concat LatchStep.isClear_of_isActive (by omega) (by omega)] at hafter
    rcases hafter with hrun | ⟨hold, -⟩
    · refine hb ?_
      have hsince := since_of_le_run (q := LatchStep.isClear) hrun hno
      rwa [List.append_assoc, List.singleton_append, ← evaluated_append_cons a b hev] at hsince
    · exact hbefore hold
  · rw [if_neg hev, List.append_nil] at hafter
    exact hbefore hafter

/-- **The latch is a function of its history.** After any steps with
thresholds `s` and `r`, the counters are the lengths of the trailing runs, up
to the width of the counters; the latch is firing when a sustained run
occurred with no recovery completed since, and pending when only some active
evaluation did. Alerts are emitted where `firing` is entered, two of them with a
recovery in between, and the time of first observation is that of the first
active evaluation since the last recovery. -/
theorem latchRun_history {s r : UInt32} (hs : 1 ≤ s) (hr : 1 ≤ r) (first : ConditionEvaluation)
    (steps : List LatchStep)
    (hsteps : ∀ x ∈ steps, x.evaluation.sustainRuns = s ∧ x.evaluation.recoveryRuns = r) :
    let h := evaluated steps
    let state := latchRun (.fromEvaluation first) steps
    let Fired := Since LatchStep.isActive s.toNat LatchStep.isClear r.toNat h
    let Seen := Since LatchStep.isActive 1 LatchStep.isClear r.toNat h
    state.consecutiveActive.toNat = min (run LatchStep.isActive h) (2 ^ 32 - 1) ∧
    state.consecutiveClear.toNat = min (run LatchStep.isClear h) (2 ^ 32 - 1) ∧
    (state.consecutiveActive = 0 ∨ state.consecutiveClear = 0) ∧
    (state.lifecycle = .firing ↔ Fired) ∧
    (state.lifecycle = .pending ↔ ¬Fired ∧ Seen) ∧
    (state.lifecycle = .clear ↔ ¬Fired ∧ ¬Seen) ∧
    (∀ before x after, steps = before ++ x :: after →
      (AlertAt (latchRun (.fromEvaluation first) before) x ↔
        (latchRun (.fromEvaluation first) before).lifecycle ≠ .firing ∧
        (latchRun (.fromEvaluation first) (before ++ [x])).lifecycle = .firing)) ∧
    (∀ before x between y after, steps = before ++ x :: between ++ y :: after →
      AlertAt (latchRun (.fromEvaluation first) before) x →
      AlertAt (latchRun (.fromEvaluation first) (before ++ x :: between)) y →
      Consecutive LatchStep.isClear r.toNat (evaluated between)) ∧
    (state.firstObservedAt = none ↔ state.lifecycle = .clear) ∧
    (∀ t, state.firstObservedAt = some t ↔
      ∃ x, FirstSince LatchStep.isActive LatchStep.isClear r.toNat h x ∧ x.observedAt = t) := by
  rw [UInt32.le_iff_toNat_le] at hs hr
  have hm := meets_latchRun hs hr first steps hsteps
  have hseen : Since LatchStep.isActive s.toNat LatchStep.isClear r.toNat (evaluated steps) →
      Since LatchStep.isActive 1 LatchStep.isClear r.toNat (evaluated steps) := fun hfired => by
    by_contra hno
    have := hm.firing.mpr hfired
    rw [hm.clear.mpr hno] at this
    cases this
  refine ⟨hm.consecutiveActive, hm.consecutiveClear, ?_, hm.firing, ?_, ?_, ?_, ?_, hm.unobserved,
    hm.firstObservedAt⟩
  · rcases Nat.eq_zero_or_pos (run LatchStep.isActive (evaluated steps)) with h0 | hpos
    · left
      exact UInt32.toNat_inj.mp (by rw [hm.consecutiveActive, h0]; rfl)
    · right
      have h0 := run_eq_zero_of_run_pos LatchStep.isClear_of_isActive hpos
      exact UInt32.toNat_inj.mp (by rw [hm.consecutiveClear, h0]; rfl)
  · have hfiring := hm.firing
    have hclear := hm.clear
    cases hl : (latchRun (.fromEvaluation first) steps).lifecycle <;>
      simp only [hl, reduceCtorEq] at hfiring hclear ⊢ <;> tauto
  · rw [hm.clear]
    tauto
  · rintro before x after -
    rw [alertAt_iff, latchRun_concat]
  · rintro before x between y after rfl hx hy
    refine consecutive_between hs hr first (fun z hz => hsteps z ?_) hx (alertAt_iff.mp hy).1
    exact List.mem_append_left _ hz

/-- An evaluation of the API condition of a target `one`. -/
def apiEvaluation (outcome : EvaluationOutcome) : ConditionEvaluation where
  id := "target:one:api"
  targetId := some "one"
  kind := "api"
  reason := "available"
  severity := .warning
  outcome
  summary := "one AdGuard API is available"
  expected := .object [("complete", .bool true)]
  observed := .object [("complete", .bool true)]
  evidenceSource := "GET /control/status and allowlisted observations"
  observationComplete := true
  sustainRuns := 1
  recoveryRuns := 1
  consecutiveActive := 0
  consecutiveClear := 0
  lifecycle := .clear
  notificationState := .never
  firstObservedAt := none

/-- A number of seconds from the epoch, up to an hour. -/
def second (n : ℕ) : Timestamp :=
  ⟨(min n 3600 : ℕ) * 1000000000, by unfold nanosecondsPerSecond; omega, by unfold nanosecondsPerSecond; omega⟩

/-- A step with an evaluation of the API condition, at a number of seconds. -/
def apiStep (outcome : EvaluationOutcome) (seconds : ℕ) : LatchStep where
  evaluation := apiEvaluation outcome
  observedAt := second seconds
  runId := "run"
  suppressNotifications := false
  delivery := .delivered

theorem latchRun_history_flap :
    let steps := [apiStep .active 1, apiStep .notEvaluated 2, apiStep .clear 3, apiStep .active 4]
    (latchRun (.fromEvaluation (apiEvaluation .active)) steps).lifecycle = .firing ∧
    Consecutive LatchStep.isClear 1 (evaluated [apiStep .notEvaluated 2, apiStep .clear 3]) := by
  intro steps
  have h := latchRun_history (s := 1) (r := 1) (by decide) (by decide) (apiEvaluation .active) steps
    (by decide)
  refine ⟨by decide, h.2.2.2.2.2.2.2.1 [] (apiStep .active 1) _ (apiStep .active 4) [] rfl ?_ ?_⟩
  · exact alertAt_iff.mpr (by decide)
  · exact alertAt_iff.mpr (by decide)

/-- The counters stop at the end of their width: after 2^32 active
evaluations the counter is one short of the run. -/
theorem consecutiveActive_saturates :
    ¬∀ (s r : UInt32) (first : ConditionEvaluation) (steps : List LatchStep), 1 ≤ s → 1 ≤ r →
      (∀ x ∈ steps, x.evaluation.sustainRuns = s ∧ x.evaluation.recoveryRuns = r) →
      (latchRun (.fromEvaluation first) steps).consecutiveActive.toNat =
        run LatchStep.isActive (evaluated steps) := by
  intro h
  have hall : ∀ n, ∀ x ∈ List.replicate n (apiStep .active 1),
      x.evaluation.sustainRuns = 1 ∧ x.evaluation.recoveryRuns = 1 := fun n x hx => by
    rw [(List.mem_replicate.mp hx).2]
    exact ⟨rfl, rfl⟩
  have hrun : ∀ n, run LatchStep.isActive (evaluated (List.replicate n (apiStep .active 1))) = n := fun n => by
    rw [evaluated, List.filter_replicate_of_pos (by decide), run_replicate _ n (by decide)]
  have hsat := fun n =>
    (meets_latchRun (s := 1) (r := 1) (by decide) (by decide) (apiEvaluation .active) _ (hall n)).consecutiveActive
  have hbound := h 1 1 (apiEvaluation .active) _ (by decide) (by decide) (hall (2 ^ 32))
  rw [hsat, hrun] at hbound
  omega

end Sentinel
