/-
# The moves of a latch

What delivery sees of a latch is its lifecycle, the delivery state and the
episode. An evaluation moves it by one of six moves, which say what is
announced and which of the condition's unsent entries are withdrawn.

Key theorems: `latchMove_of_latchOutcome`.
-/
import Sentinel.Delivery.Conditions

namespace Sentinel

/-- What delivery sees of a latch. -/
structure LatchView where
  lifecycle : ConditionLifecycle
  delivery : AlertDeliveryState
  episode : Option String
  deriving DecidableEq, Repr

def ConditionState.view (state : ConditionState) : LatchView :=
  ⟨state.lifecycle, state.alertDeliveryState, state.episodeId⟩

/-- The unsent entries of a condition that a step withdraws. -/
inductive Withdrawal where
  | nothing
  | alerts
  | everything
  deriving DecidableEq, Repr

def Withdrawal.covers (withdrawal : Withdrawal) (entry : Entry) : Bool :=
  match withdrawal with
  | nothing => false
  | alerts => entry.kind = .alert ∧ entry.isUnsent
  | everything => entry.isUnsent

/-- The delivery state after a recovery that is not announced. -/
def withdrawnState (delivery : AlertDeliveryState) : AlertDeliveryState :=
  if delivery = .pending then .never else delivery

/-- One step of a latch in a run: the view before and after, the kind of what
it announces, what it withdraws. -/
inductive LatchMove (runId : String) (suppress : Bool) :
    LatchView → LatchView → Option TransitionKind → Withdrawal → Prop
  /-- Nothing changes. -/
  | idle (view : LatchView) : LatchMove runId suppress view view none .nothing
  /-- An episode begins. -/
  | begins (delivery : AlertDeliveryState) (episode : Option String) :
    LatchMove runId suppress ⟨.clear, delivery, episode⟩ ⟨.pending, .never, some runId⟩ none .everything
  /-- An episode begins and is announced at once. -/
  | beginsFiring (delivery : AlertDeliveryState) (episode : Option String) :
    LatchMove runId suppress ⟨.clear, delivery, episode⟩ ⟨.firing, queuedState suppress, some runId⟩
      (some .alert) .everything
  /-- The sustain run completes. -/
  | fires (delivery : AlertDeliveryState) (episode : Option String) :
    LatchMove runId suppress ⟨.pending, delivery, episode⟩ ⟨.firing, queuedState suppress, episode⟩
      (some .alert) .nothing
  /-- A confirmed alert recovers. -/
  | resolves (delivery : AlertDeliveryState) (episode : Option String)
      (confirmed : delivery = .delivered ∨ suppress ∧ delivery = .suppressed) :
    LatchMove runId suppress ⟨.firing, delivery, episode⟩ ⟨.clear, queuedState suppress, episode⟩
      (some .resolution) .nothing
  /-- Any other recovery. -/
  | recovers (lifecycle : ConditionLifecycle) (delivery : AlertDeliveryState) (episode : Option String)
      (latched : lifecycle ≠ .clear) (unconfirmed : lifecycle = .firing → delivery ≠ .delivered) :
    LatchMove runId suppress ⟨lifecycle, delivery, episode⟩ ⟨.clear, withdrawnState delivery, episode⟩ none
      (if delivery = .pending then .alerts else .nothing)

/-- A latch that is not clear is in an episode. -/
def LatchView.InEpisode (view : LatchView) : Prop := view.lifecycle ≠ .clear → view.episode.isSome

namespace LatchMove

variable {runId : String} {suppress : Bool} {view view' : LatchView} {kind : Option TransitionKind}
  {withdrawal : Withdrawal}

theorem inEpisode (h : LatchMove runId suppress view view' kind withdrawal) (hep : view.InEpisode) :
    view'.InEpisode := by
  cases h with
  | idle => exact hep
  | begins => exact fun _ => rfl
  | beginsFiring => exact fun _ => rfl
  | fires => exact fun _ => hep (by simp)
  | resolves => exact fun hne => absurd rfl hne
  | recovers => exact fun hne => absurd rfl hne

/-- A move stays in the episode, or begins the run's. -/
theorem episode (h : LatchMove runId suppress view view' kind withdrawal) :
    view'.episode = view.episode ∨ view'.episode = some runId := by
  cases h with
  | begins => exact .inr rfl
  | beginsFiring => exact .inr rfl
  | _ => exact .inl rfl

/-- What a move announces is of the episode it leaves. -/
theorem episode_of_announced (h : LatchMove runId suppress view view' kind withdrawal) (hep : view.InEpisode)
    (hk : kind ≠ none) : ∃ episode, view'.episode = some episode := by
  cases h with
  | beginsFiring => exact ⟨runId, rfl⟩
  | fires delivery episode => exact Option.isSome_iff_exists.mp (hep (by simp))
  | resolves delivery episode => exact Option.isSome_iff_exists.mp (hep (by simp))
  | idle => exact absurd rfl hk
  | begins => exact absurd rfl hk
  | recovers => exact absurd rfl hk

/-- No move confirms an alert. -/
theorem delivered (h : LatchMove runId suppress view view' kind withdrawal) (hd : view'.delivery = .delivered) :
    view.delivery = .delivered ∧ view'.episode = view.episode := by
  cases h with
  | idle => exact ⟨hd, rfl⟩
  | recovers lifecycle delivery episode =>
    refine ⟨?_, rfl⟩
    by_cases hp : delivery = .pending
    · simp [withdrawnState, hp] at hd
    · simpa [withdrawnState, hp] using hd
  | begins => cases hd
  | beginsFiring | fires | resolves =>
    unfold queuedState at hd
    split at hd <;> cases hd

/-- A resolution that is not suppressed is of a confirmed alert. -/
theorem confirmed (h : LatchMove runId false view view' (some .resolution) withdrawal) :
    view.lifecycle ≠ .clear ∧ view.delivery = .delivered ∧ view'.episode = view.episode := by
  cases h with
  | resolves delivery episode confirmed =>
    exact ⟨by simp, confirmed.resolve_right fun hs => by simp at hs, rfl⟩

end LatchMove

section Outcome

variable (report : RunReport) (suppress : Bool) (evaluation : ConditionEvaluation) (prior : ConditionState)

/-- What an evaluation withdraws from its condition's entries. -/
def withdrawal : Withdrawal :=
  if beginsEpisode evaluation prior then .everything
  else if recoversUnsent evaluation prior
      (advanceCondition evaluation report.completedAt report.runId suppress prior).1 then .alerts
  else .nothing

theorem latchOutcome_view :
    (latchOutcome report suppress evaluation prior).1.view =
      let state := (advanceCondition evaluation report.completedAt report.runId suppress prior).1
      ⟨state.lifecycle, if recoversUnsent evaluation prior state then .never else state.alertDeliveryState,
        state.episodeId⟩ := by
  unfold latchOutcome ConditionState.view
  dsimp only
  split <;> rfl

theorem latchOutcome_transition :
    (latchOutcome report suppress evaluation prior).2.2 =
      (advanceCondition evaluation report.completedAt report.runId suppress prior).2.2 := by
  unfold latchOutcome
  dsimp only
  split <;> rfl

/-- **An evaluation is one step of its latch.** -/
theorem latchMove_of_latchOutcome :
    LatchMove report.runId suppress prior.view (latchOutcome report suppress evaluation prior).1.view
      ((latchOutcome report suppress evaluation prior).2.2.map (·.kind))
      (withdrawal report suppress evaluation prior) := by
  rw [latchOutcome_view, latchOutcome_transition]
  unfold withdrawal recoversUnsent beginsEpisode advanceCondition ConditionState.view
  cases ho : evaluation.outcome with
  | notEvaluated =>
    simp
    exact .idle _
  | active =>
    simp only [advanceActive_eq]
    by_cases hf : evaluation.sustainRuns ≤ saturatingSucc prior.consecutiveActive
    · cases hl : prior.lifecycle with
      | clear =>
        simp [Fires, hf, beginEpisode]
        exact .beginsFiring _ _
      | pending =>
        simp [Fires, hf, beginEpisode]
        exact .fires _ _
      | firing =>
        simp [Fires, beginEpisode]
        exact .idle _
    · cases hl : prior.lifecycle with
      | clear =>
        simp [Fires, hf, beginEpisode]
        exact .begins _ _
      | pending =>
        simp [Fires, hf, beginEpisode]
        exact .idle _
      | firing =>
        simp [Fires, beginEpisode]
        exact .idle _
  | clear =>
    simp only [advanceClear_eq]
    by_cases hr : evaluation.recoveryRuns ≤ saturatingSucc prior.consecutiveClear
    · by_cases hl : prior.lifecycle = .clear
      · simp [Recovers, Resolves, hr, hl]
        exact .idle _
      · by_cases hs : prior.lifecycle = .firing ∧ (prior.alertDeliveryState = .delivered ∨
            suppress ∧ prior.alertDeliveryState = .suppressed)
        · have hp : prior.alertDeliveryState ≠ .pending := fun he => by simp [he] at hs
          simp [Recovers, Resolves, hr, hs, hp]
          exact .resolves _ _ hs.2
        · have hu : prior.lifecycle = .firing → prior.alertDeliveryState ≠ .delivered :=
            fun hfiring hd => hs ⟨hfiring, .inl hd⟩
          have hstep : LatchMove report.runId suppress _ _ none _ := .recovers prior.lifecycle
            prior.alertDeliveryState prior.episodeId hl hu
          by_cases hp : prior.alertDeliveryState = .pending
          · simpa [Recovers, Resolves, hr, hs, hl, hp, withdrawnState] using hstep
          · simpa [Recovers, Resolves, hr, hs, hl, hp, withdrawnState] using hstep
    · simp only [Recovers, Resolves, hr, if_false, false_and]
      cases hl : prior.lifecycle with
      | clear =>
        simp
        exact .idle _
      | pending =>
        simp
        exact .idle _
      | firing =>
        simp
        exact .idle _

/-- What an evaluation withdraws is what its step does. -/
theorem withdraws_eq (store : StateStore) (entry : Entry) :
    withdraws report suppress store evaluation entry =
      (decide (entry.conditionId = evaluation.id) &&
        (withdrawal report suppress evaluation (priorState store evaluation)).covers entry) := by
  unfold withdraws withdrawal
  dsimp only
  by_cases hb : beginsEpisode evaluation (priorState store evaluation)
  · have hactive : evaluation.outcome = .active := (of_decide_eq_true hb).1
    have hr : ∀ state, recoversUnsent evaluation (priorState store evaluation) state = false := by
      intro state
      simp [recoversUnsent, hactive]
    simp [hb, hr, Withdrawal.covers, Entry.isWithdrawn]
  · simp only [hb, Bool.false_eq_true, if_false, Bool.false_and, Bool.false_or]
    split
    case isTrue hr => simp [hr, Withdrawal.covers, Entry.isWithdrawn]
    case isFalse hr => simp [hr, Withdrawal.covers]

end Outcome

end Sentinel
