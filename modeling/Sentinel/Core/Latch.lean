/-
# The latch of a condition

`advanceCondition` moves a condition's state by one evaluation: an active
evaluation counts toward the sustain threshold and enters `firing` when it is
reached, a clear one counts toward recovery and ends the episode, one that
was not evaluated changes neither counter nor lifecycle. Entering `firing`
emits an alert; recovering from a confirmed alert emits a resolution.
-/
import Sentinel.Core.Model
import Mathlib.Tactic.SplitIfs

namespace Sentinel

/-- `saturating_add(1)` on a counter of runs. -/
def saturatingSucc (n : UInt32) : UInt32 := if n = UInt32.ofNat (2 ^ 32 - 1) then n else n + 1

@[simp] theorem saturatingSucc_toNat (n : UInt32) :
    (saturatingSucc n).toNat = min (n.toNat + 1) (2 ^ 32 - 1) := by
  have hlt := n.toNat_lt
  unfold saturatingSucc
  split
  case isTrue h => simp [h]
  case isFalse h =>
    have hne : n.toNat ≠ 2 ^ 32 - 1 := fun hn => h (UInt32.toNat_inj.mp (by simp [hn]))
    rw [UInt32.toNat_add, UInt32.toNat_one, Nat.mod_eq_of_lt (by omega)]
    omega

/-- The latch's fields, as the evaluation reports them. -/
def copyStateToEvaluation (state : ConditionState) (evaluation : ConditionEvaluation) : ConditionEvaluation :=
  { evaluation with
    consecutiveActive := state.consecutiveActive
    consecutiveClear := state.consecutiveClear
    lifecycle := state.lifecycle
    notificationState := state.alertDeliveryState
    firstObservedAt := state.firstObservedAt }

/-- The delivery state of a transition that is to be sent, or was suppressed. -/
def queuedState (suppressNotifications : Bool) : AlertDeliveryState :=
  if suppressNotifications then .suppressed else .pending

section Advance

variable (evaluation : ConditionEvaluation) (observedAt : Timestamp) (runId : String)
  (suppressNotifications : Bool)

/-- An active evaluation starts an episode on a clear latch. -/
def beginEpisode (state : ConditionState) : ConditionState :=
  if state.lifecycle = .clear then
    { state with episodeId := some runId, alertDeliveryState := .never }
  else state

/-- The active branch. -/
def advanceActive (state : ConditionState) : ConditionState × Option ConditionTransition :=
  let state := beginEpisode runId state
  let state := { state with
    consecutiveClear := 0
    consecutiveActive := saturatingSucc state.consecutiveActive
    firstObservedAt := some (state.firstObservedAt.getD observedAt) }
  if state.lifecycle ≠ .firing ∧ evaluation.sustainRuns ≤ state.consecutiveActive then
    ({ state with
        lifecycle := .firing
        lastTransitionRun := some runId
        alertDeliveryState := queuedState suppressNotifications },
      some ⟨evaluation.id, .alert, evaluation.summary⟩)
  else if state.lifecycle = .clear then ({ state with lifecycle := .pending }, none)
  else (state, none)

/-- The clear branch. -/
def advanceClear (state : ConditionState) : ConditionState × Option ConditionTransition :=
  let wasFiring := state.lifecycle = .firing
  let state := { state with
    consecutiveActive := 0
    consecutiveClear := saturatingSucc state.consecutiveClear }
  if evaluation.recoveryRuns ≤ state.consecutiveClear then
    let state := { state with lifecycle := .clear, firstObservedAt := none }
    if wasFiring ∧ (state.alertDeliveryState = .delivered ∨
        (suppressNotifications ∧ state.alertDeliveryState = .suppressed)) then
      ({ state with
          lastTransitionRun := some runId
          alertDeliveryState := queuedState suppressNotifications },
        some ⟨evaluation.id, .resolution, evaluation.summary⟩)
    else (state, none)
  else (state, none)

/-- The state and the evaluation after one run, and the transition it makes. -/
def advanceCondition (state : ConditionState) :
    ConditionState × ConditionEvaluation × Option ConditionTransition :=
  let state := { state with kind := evaluation.kind, severity := evaluation.severity }
  let (state, transition) := match evaluation.outcome with
    | .notEvaluated => (state, none)
    | .active =>
      advanceActive evaluation observedAt runId suppressNotifications { state with lastObservedAt := some observedAt }
    | .clear =>
      advanceClear evaluation runId suppressNotifications { state with lastObservedAt := some observedAt }
  (state, copyStateToEvaluation state evaluation, transition)

/-! ### What each branch does -/

section Active

variable (state : ConditionState)

/-- The active evaluation completes the sustain run of a latch that is not
firing. -/
def Fires (evaluation : ConditionEvaluation) (state : ConditionState) : Prop :=
  state.lifecycle ≠ .firing ∧ evaluation.sustainRuns ≤ saturatingSucc state.consecutiveActive

instance : Decidable (Fires evaluation state) := by unfold Fires; infer_instance

@[simp] theorem beginEpisode_lifecycle : (beginEpisode runId state).lifecycle = state.lifecycle := by
  unfold beginEpisode; split <;> rfl

@[simp] theorem beginEpisode_consecutiveActive :
    (beginEpisode runId state).consecutiveActive = state.consecutiveActive := by
  unfold beginEpisode; split <;> rfl

@[simp] theorem beginEpisode_firstObservedAt :
    (beginEpisode runId state).firstObservedAt = state.firstObservedAt := by
  unfold beginEpisode; split <;> rfl

/-- The active branch, with every field it writes. -/
theorem advanceActive_eq :
    advanceActive evaluation observedAt runId suppressNotifications state =
      ({ beginEpisode runId state with
          consecutiveClear := 0
          consecutiveActive := saturatingSucc state.consecutiveActive
          firstObservedAt := some (state.firstObservedAt.getD observedAt)
          lifecycle := if Fires evaluation state ∨ state.lifecycle = .firing then .firing else .pending
          lastTransitionRun :=
            if Fires evaluation state then some runId else (beginEpisode runId state).lastTransitionRun
          alertDeliveryState :=
            if Fires evaluation state then queuedState suppressNotifications
            else (beginEpisode runId state).alertDeliveryState },
        if Fires evaluation state then some ⟨evaluation.id, .alert, evaluation.summary⟩ else none) := by
  unfold advanceActive
  simp only [beginEpisode_lifecycle, beginEpisode_consecutiveActive, beginEpisode_firstObservedAt]
  by_cases hf : Fires evaluation state
  · rw [if_pos (show _ ∧ _ from hf)]
    simp [hf]
  · rw [if_neg (show ¬(_ ∧ _) from hf)]
    cases state.lifecycle <;> simp [hf]

end Active

section Clear

variable (state : ConditionState)

/-- The clear evaluation completes the recovery run. -/
def Recovers (evaluation : ConditionEvaluation) (state : ConditionState) : Prop :=
  evaluation.recoveryRuns ≤ saturatingSucc state.consecutiveClear

instance : Decidable (Recovers evaluation state) := by unfold Recovers; infer_instance

/-- The recovery is announced: the latch was firing on a confirmed alert, or
on a suppressed one while notifications are suppressed. -/
def Resolves (evaluation : ConditionEvaluation) (suppressNotifications : Bool) (state : ConditionState) :
    Prop :=
  Recovers evaluation state ∧ state.lifecycle = .firing ∧
    (state.alertDeliveryState = .delivered ∨
      (suppressNotifications ∧ state.alertDeliveryState = .suppressed))

instance : Decidable (Resolves evaluation suppressNotifications state) := by
  unfold Resolves; infer_instance

/-- The clear branch, with every field it writes. -/
theorem advanceClear_eq :
    advanceClear evaluation runId suppressNotifications state =
      ({ state with
          consecutiveActive := 0
          consecutiveClear := saturatingSucc state.consecutiveClear
          lifecycle := if Recovers evaluation state then .clear else state.lifecycle
          firstObservedAt := if Recovers evaluation state then none else state.firstObservedAt
          lastTransitionRun :=
            if Resolves evaluation suppressNotifications state then some runId else state.lastTransitionRun
          alertDeliveryState :=
            if Resolves evaluation suppressNotifications state then queuedState suppressNotifications
            else state.alertDeliveryState },
        if Resolves evaluation suppressNotifications state then
          some ⟨evaluation.id, .resolution, evaluation.summary⟩
        else none) := by
  unfold advanceClear
  by_cases hr : Recovers evaluation state
  · rw [if_pos (show _ ≤ _ from hr)]
    by_cases hs : Resolves evaluation suppressNotifications state
    · rw [if_pos (show _ ∧ _ from hs.2)]
      simp [hr, hs]
    · rw [if_neg (show ¬(_ ∧ _) from fun h => hs ⟨hr, h⟩)]
      simp [hr, hs]
  · rw [if_neg (show ¬_ ≤ _ from hr)]
    have hs : ¬Resolves evaluation suppressNotifications state := fun h => hr h.1
    simp [hr, hs]

end Clear

end Advance

end Sentinel
