/-
# What checks announce when no delivery fails

As long as every check sends and returns another code than that of a failed
delivery, the whole of latches, outbox and delivery is a debounced signal for
each condition. Its samples are the condition's evaluations, each with the
thresholds of its own run; a run announces the edges of the signal and nothing
else, and every message of them is delivered.

Key theorems: `Tracks.step`, `Told.check`, `announced_edges`.
-/
import Sentinel.Cli.Completion
import Sentinel.Lib.Debounce

namespace Sentinel

open Collections CrashTxn Debounce

/-! ### The signal of a condition -/

def EvaluationOutcome.level : EvaluationOutcome → Option Bool
  | .active => some true
  | .clear => some false
  | .notEvaluated => none

def ConditionEvaluation.sample (evaluation : ConditionEvaluation) : Sample :=
  ⟨evaluation.outcome.level, evaluation.sustainRuns.toNat, evaluation.recoveryRuns.toNat⟩

/-- A condition's sample in a run; there is none if the run does not evaluate it. -/
def LoggedRun.sample (conditionId : String) (run : LoggedRun) : Sample :=
  ((run.report.evaluations.find? fun evaluation => evaluation.id = conditionId).map (·.sample)).getD ⟨none, 0, 0⟩

/-- How an edge is announced. -/
def announcementOf : Edge → TransitionKind
  | .rises => .alert
  | .falls => .resolution

/-- What a run announces of a condition. -/
def LoggedRun.announced (conditionId : String) (run : LoggedRun) : List TransitionKind :=
  (run.stored.transitions.filter fun transition => transition.conditionId = conditionId).map (·.kind)

/-- A latch counts as the signal does, as far as its counters reach. -/
structure Tracks (signal : Signal) (latch : ConditionState) : Prop where
  raised : signal.raised ↔ latch.lifecycle = .firing
  highs : latch.consecutiveActive.toNat = min signal.highs (2 ^ 32 - 1)
  lows : latch.consecutiveClear.toNat = min signal.lows (2 ^ 32 - 1)

theorem tracks_fromEvaluation (evaluation : ConditionEvaluation) : Tracks .initial (.fromEvaluation evaluation) := by
  refine ⟨?_, rfl, rfl⟩
  simp [Signal.initial, ConditionState.fromEvaluation]

theorem Tracks.of_withoutDelivery {signal : Signal} {latch latch' : ConditionState} (h : Tracks signal latch)
    (hsame : latch.withoutDelivery = latch'.withoutDelivery) : Tracks signal latch' := by
  have hlifecycle : latch'.lifecycle = latch.lifecycle := (congrArg ConditionState.lifecycle hsame).symm
  have hactive : latch'.consecutiveActive = latch.consecutiveActive :=
    (congrArg ConditionState.consecutiveActive hsame).symm
  have hclear : latch'.consecutiveClear = latch.consecutiveClear := (congrArg ConditionState.consecutiveClear hsame).symm
  constructor
  · rw [hlifecycle, h.raised]
  · rw [hactive, h.highs]
  · rw [hclear, h.lows]

section Step

variable {signal : Signal} {latch : ConditionState} {next : LatchStep}

/-- The saturated counter of one more. -/
theorem saturatingSucc_eq_min {counter : UInt32} {n : ℕ} (h : counter.toNat = min n (2 ^ 32 - 1)) :
    (saturatingSucc counter).toNat = min (n + 1) (2 ^ 32 - 1) := by
  rw [saturatingSucc_toNat, h]
  omega

theorem Tracks.active (h : Tracks signal latch) (ho : next.evaluation.outcome = .active) :
    Tracks (signal.read next.evaluation.sample) (latchStep latch next).1 ∧
      (latchStep latch next).2.map (·.kind) =
        (edge signal.raised (signal.read next.evaluation.sample).raised).map announcementOf := by
  have hread : signal.read next.evaluation.sample =
      ⟨signal.raised || decide (next.evaluation.sustainRuns.toNat ≤ signal.highs + 1), signal.highs + 1, 0⟩ := by
    unfold Signal.read ConditionEvaluation.sample
    rw [ho]
    rfl
  have hreaches := le_saturatingSucc_iff next.evaluation.sustainRuns h.highs
  have hcounts := saturatingSucc_eq_min h.highs
  rw [hread, latchStep_active ho, advanceActive_eq]
  by_cases hfiring : latch.lifecycle = .firing
  · have hraised := h.raised.mpr hfiring
    refine ⟨⟨?_, hcounts, rfl⟩, ?_⟩ <;> simp [hraised, hfiring, Fires, edge]
  · have hraised : signal.raised = false := by
      rw [Bool.eq_false_iff]
      exact fun hraised => hfiring (h.raised.mp hraised)
    by_cases hsustained : next.evaluation.sustainRuns.toNat ≤ signal.highs + 1
    · have hfires := hreaches.mpr hsustained
      refine ⟨⟨?_, hcounts, rfl⟩, ?_⟩ <;> simp [hraised, hfiring, Fires, hfires, hsustained, edge, announcementOf]
    · have hfires := mt hreaches.mp hsustained
      refine ⟨⟨?_, hcounts, rfl⟩, ?_⟩ <;> simp [hraised, hfiring, Fires, hfires, hsustained, edge]

/-- A recovery of a confirmed alert is announced. -/
theorem Tracks.clears (h : Tracks signal latch) (ho : next.evaluation.outcome = .clear)
    (hconfirmed : latch.lifecycle = .firing → next.delivery = .delivered) :
    Tracks (signal.read next.evaluation.sample) (latchStep latch next).1 ∧
      (latchStep latch next).2.map (·.kind) =
        (edge signal.raised (signal.read next.evaluation.sample).raised).map announcementOf := by
  have hread : signal.read next.evaluation.sample =
      ⟨signal.raised && !decide (next.evaluation.recoveryRuns.toNat ≤ signal.lows + 1), 0, signal.lows + 1⟩ := by
    unfold Signal.read ConditionEvaluation.sample
    rw [ho]
    rfl
  have hreaches := le_saturatingSucc_iff next.evaluation.recoveryRuns h.lows
  have hcounts := saturatingSucc_eq_min h.lows
  rw [hread, latchStep_clear ho, advanceClear_eq]
  by_cases hfiring : latch.lifecycle = .firing
  · have hraised := h.raised.mpr hfiring
    have hdelivered := hconfirmed hfiring
    by_cases hrecovered : next.evaluation.recoveryRuns.toNat ≤ signal.lows + 1
    · have hrecovers := hreaches.mpr hrecovered
      refine ⟨⟨?_, rfl, hcounts⟩, ?_⟩ <;>
        simp [hraised, hfiring, Recovers, Resolves, hrecovers, hrecovered, hdelivered, edge, announcementOf]
    · have hrecovers := mt hreaches.mp hrecovered
      refine ⟨⟨?_, rfl, hcounts⟩, ?_⟩ <;> simp [hraised, hfiring, Recovers, Resolves, hrecovers, hrecovered, edge]
  · have hraised : signal.raised = false := by
      rw [Bool.eq_false_iff]
      exact fun hraised => hfiring (h.raised.mp hraised)
    refine ⟨⟨?_, rfl, hcounts⟩, ?_⟩
    · simp only [hraised, Bool.false_and, Bool.false_eq_true, false_iff]
      split
      · simp
      · exact hfiring
    · simp [hraised, hfiring, Resolves, edge]

/-- **A step of a latch is a sample of its signal**, once its alert is confirmed. -/
theorem Tracks.step (h : Tracks signal latch) (hconfirmed : latch.lifecycle = .firing → next.delivery = .delivered) :
    Tracks (signal.read next.evaluation.sample) (latchStep latch next).1 ∧
      (latchStep latch next).2.map (·.kind) =
        (edge signal.raised (signal.read next.evaluation.sample).raised).map announcementOf := by
  cases ho : next.evaluation.outcome with
  | active => exact h.active ho
  | clear => exact h.clears ho hconfirmed
  | notEvaluated =>
    have hread : signal.read next.evaluation.sample = signal := by
      unfold Signal.read ConditionEvaluation.sample
      rw [ho]
      rfl
    rw [hread, latchStep_notEvaluated ho]
    refine ⟨⟨h.raised, h.highs, h.lows⟩, ?_⟩
    cases signal.raised <;> rfl

end Step

/-! ### Confirmed deliveries -/

/-- What claims, refreshes and the results of messages that were delivered keep. -/
structure KeptByConfirmation (I : StateStore → Prop) : Prop where
  claim : ∀ {uuid messageId executingRunId : String} {startedAt : Timestamp} {store store' : StateStore}
    {attempt : NotificationAttempt}, I store →
    store.beginNotificationAttempt uuid messageId startedAt executingRunId = .ok (store', attempt) → I store'
  record : ∀ {attempt : NotificationAttempt} {completedAt : Timestamp} {outcome : NotificationAttemptOutcome}
    {store store' : StateStore} {report : NotificationReport}, I store → outcome.status = .delivered →
    store.recordNotificationAttempt attempt completedAt outcome = .ok (store', report) → I store'
  refresh : ∀ {runId : String} {store store' : StateStore}, I store → store.refreshRunDelivery runId = .ok store' →
    I store'

section Confirm

variable {I : StateStore → Prop} {send : OutboxMessage → Sending} {runId : String}

theorem KeptByConfirmation.deliverPending (kept : KeptByConfirmation I) : ∀ {pending : List OutboxMessage}
    {store left : StateStore}, Returns (deliverPending send runId pending) store false left → I store → I left
  | [], store, left, h, hs => by
    obtain ⟨-, rfl⟩ := Returns.pure_iff.mp h
    exact hs
  | message :: pending, store, left, h, hs => by
    unfold Sentinel.deliverPending at h
    simp only [StateStore.commitFor, Returns.bind_iff, Returns.mapError_iff, Returns.commit_iff] at h
    obtain ⟨attempt, claimed, hclaim, report, recorded, hrecord, h⟩ := h
    by_cases hdelivered : (send message).outcome.status = .delivered
    · rw [if_pos hdelivered] at h
      exact kept.deliverPending h (kept.record (kept.claim hs hclaim) hdelivered hrecord)
    · rw [if_neg hdelivered] at h
      obtain ⟨hfailed, -⟩ := Returns.pure_iff.mp h
      cases hfailed

/-- **What a check that returns without a failed delivery keeps** after its commit. -/
theorem KeptByConfirmation.finish (kept : KeptByConfirmation I) {inputs : CheckInputs}
    {recovered : List DeliveryActivity} {report : RunReport} {store left : StateStore} {code : UInt8}
    (h : Returns (finishCheck inputs recovered report) store code left) (hcode : code ≠ 4) (hs : I store) : I left := by
  unfold finishCheck at h
  simp only [StateStore.readFor, StateStore.commitFor, Returns.bind_iff, Returns.mapError_iff, Returns.read_iff,
    Returns.commit_iff, Returns.pure_iff, Fallible.bind_eq_ok_iff] at h
  obtain ⟨failed, delivered, hdeliver, _, refreshed, ⟨_, hrefresh, hpair⟩, _, _, ⟨-, rfl⟩, hexit, rfl⟩ := h
  obtain ⟨rfl, -⟩ := Prod.mk.inj (Except.ok.inj hpair)
  refine kept.refresh ?_ hrefresh
  obtain rfl : failed = false := by
    rw [Bool.eq_false_iff]
    intro hfailed
    rw [hfailed] at hexit
    exact hcode hexit.symm
  unfold deliver at hdeliver
  split at hdeliver
  case isTrue =>
    obtain ⟨-, rfl⟩ := Returns.pure_iff.mp hdeliver
    exact hs
  case isFalse =>
    simp only [StateStore.readFor, Returns.bind_iff, Returns.mapError_iff, Returns.read_iff] at hdeliver
    obtain ⟨pending, _, ⟨-, rfl⟩, _, _, ⟨-, rfl⟩, hdeliver⟩ := hdeliver
    exact kept.deliverPending hdeliver hs

end Confirm

/-- The alert of a firing latch is delivered, or is to be. -/
def Alerting (store : StateStore) : Prop :=
  ∀ conditionId, (latchView store conditionId).lifecycle = .firing →
    (latchView store conditionId).delivery ∈ [.pending, .delivered]

/-- A latch owes every active message that names its condition. -/
theorem Coherent.mem_owed {store : StateStore} (h : Coherent store) {row : OutboxRow}
    (hrow : row ∈ store.notificationOutbox.rows) (ha : isActive row.status) {member : NotificationCondition}
    (hm : member ∈ row.conditions.rows) : (member.episodeId, row.transition) ∈ (latchView store member.conditionId).owed := by
  have hne : row.status ≠ .cancelled := by
    intro hs
    simp [isActive, hs] at ha
  rw [← h.owed]
  refine Multiset.mem_map.mpr ⟨member.entry row.transition row.status, Multiset.mem_filter.mpr ⟨?_, rfl, ha⟩, rfl⟩
  exact mem_liveEntries.mpr ⟨row, hrow, mem_live.mpr ⟨hne, member, hm, rfl⟩⟩

/-- **Confirmed results keep alerts alive**: a resolution settles latches that
are clear. -/
theorem keptByConfirmation_alerting : KeptByConfirmation fun store => Coherent store ∧ Alerting store where
  claim hs ok := by
    refine ⟨coherent_begin ok hs.1, ?_⟩
    obtain ⟨_, _, _, _, -, -, -, -, -, rfl⟩ := StateStore.beginNotificationAttempt_eq_ok ok
    exact hs.2
  record {attempt _ outcome store store' _} hs hdelivered ok := by
    refine ⟨coherent_record ok hs.1, fun conditionId => ?_⟩
    obtain ⟨row, _, _, _, states, hrow, hflight, -, -, -, -, -, hstates, rfl⟩ :=
      StateStore.recordNotificationAttempt_eq_ok ok
    have hmem : row ∈ store.notificationOutbox.rows := (Table.find?_eq_some_iff.mp hrow).1
    rw [latchView_settled hstates conditionId, hdelivered]
    rcases settledView_cases conditionId row.announcements (deliveredState .delivered row.transition)
      (latchView store conditionId) with hsame | ⟨state, hstate, hsettled, a, ha, rfl, -⟩
    · rw [hsame]
      exact hs.2 conditionId
    rw [hsettled]
    intro hfiring
    have hfiring : (latchView store a.conditionId).lifecycle = .firing := hfiring
    obtain ⟨member, hmember, rfl⟩ := List.mem_map.mp ha
    obtain ⟨-, -, hlifecycle⟩ := LatchView.mem_owed.mp (hs.1.mem_owed hmem (by rw [hflight]; decide) hmember)
    rw [hfiring] at hlifecycle
    -- a message that settles a firing latch is an alert
    cases htransition : row.transition with
    | alert =>
      rw [htransition] at hstate
      obtain rfl := Option.some.inj hstate
      simp
    | resolution =>
      rw [htransition] at hlifecycle
      cases hlifecycle
  refresh hs ok := by
    obtain ⟨⟨runs, rfl⟩, -⟩ := StateStore.refreshRunDelivery_eq_ok ok
    exact ⟨hs.1.of_runs runs, hs.2⟩

/-! ### A check without a failed delivery -/

/-- **Everything is confirmed**: the messages are delivered, among them the
alerts of all firing latches. -/
structure Told (store : StateStore) : Prop where
  rows : ∀ row ∈ store.notificationOutbox.rows, row.status = .delivered
  alerts : ∀ conditionId, (latchView store conditionId).lifecycle = .firing →
    (latchView store conditionId).delivery = .delivered
  coherent : Coherent store

theorem told_empty : Told .empty where
  rows := fun _ hrow => absurd hrow List.not_mem_nil
  alerts := fun _ hfiring => by cases hfiring
  coherent := coherent_empty

section Check

variable {inputs : CheckInputs} {store now left : StateStore} {recovered : List DeliveryActivity} {report : RunReport}
  {committed : Committed} {code : UInt8}

/-- Nothing is recovered where everything is confirmed. -/
theorem Told.recovers (h : Told store)
    (hrecovers : Returns (StateStore.recoverInterruptedAttempts inputs.started) store recovered now) : now = store := by
  have hspec : Spec (fun s => s = store) (fun s => s = store)
      (StateStore.recoverInterruptedAttempts inputs.started) fun _ s => s = store ∧ NoneInFlight s := by
    refine spec_recover (fun hs ok => ?_) inputs.started
    obtain ⟨row, _, _, _, _, hrow, hflight, -⟩ := StateStore.recordNotificationAttempt_eq_ok ok
    rw [hs] at hrow
    have hdelivered := h.rows row (Table.find?_eq_some_iff.mp hrow).1
    rw [hdelivered] at hflight
    cases hflight
  exact (hrecovers.of_spec hspec rfl).1

/-- A commit leaves alerts that are delivered, or to be delivered. -/
theorem Told.alerting {cutoff : Timestamp} {latching : Latching} {persisted : StateStore} (h : Told store)
    (hcommitted : IsCommitted report false cutoff store committed latching persisted) : Alerting committed.store := by
  intro conditionId
  have halerts := h.alerts conditionId
  obtain ⟨kind, withdrawal, hmove, -⟩ := hcommitted.moves conditionId
  generalize latchView store conditionId = view at hmove halerts
  generalize latchView committed.store conditionId = view' at hmove ⊢
  intro hfiring
  cases hmove with
  | idle => simp [halerts hfiring]
  | beginsFiring | fires => simp [queuedState]
  | begins | resolves | recovers => cases hfiring

/-- **A check without a failed delivery confirms everything.** -/
theorem Told.check (h : Told store) (hsends : inputs.suppressNotifications = false)
    (hcommits : Committing inputs store recovered now report committed)
    (hfinish : Returns (finishCheck inputs recovered committed.report) committed.store code left) (hcode : code ≠ 4) :
    Told left := by
  obtain rfl := h.recovers hcommits.recovers
  obtain ⟨latching, persisted, hcommitted⟩ := commitRun_eq_ok hcommits.commits
  rw [hsends] at hcommitted
  have hquiet : NoneInFlight now := fun row hrow hflight => by
    rw [h.rows row hrow] at hflight
    cases hflight
  obtain ⟨hcoherent, halerting⟩ := keptByConfirmation_alerting.finish hfinish hcode
    ⟨coherent_commit hcommitted h.coherent hquiet, h.alerting hcommitted⟩
  have hcancellable : Cancellable fun row => row.status = .delivered := by
    constructor
    · intro row hdelivered hu
      simp [OutboxRow.Unsent, hdelivered] at hu
    · intro row conditionId uuid conditions hdelivered hu
      simp [OutboxRow.Unsent, hdelivered] at hu
  have hrows : ∀ row ∈ left.notificationOutbox.rows, row.status = .delivered := by
    intro row hrow
    rcases rows_of_finish hsends hfinish hcode row hrow with hdelivered | ⟨hold, hwaits⟩
    · exact hdelivered
    rcases hcommitted.mem_outbox hold with hlatched | ⟨message, hmessage, hq⟩
    · exact hcancellable.cancels hcommitted.latched.cancels h.rows row hlatched
    -- what the run queued itself was due
    have hpending : row.status = .pending := by
      rw [hq.header]
      exact hcommitted.status_of_mem hmessage
    have hretry : row.nextRetryAt = none := by rw [hq.header]; rfl
    obtain ⟨retry, hsome, -⟩ := hwaits (by simp [OutboxRow.Unsent, hpending])
    rw [hretry] at hsome
    cases hsome
  refine ⟨hrows, fun conditionId hfiring => ?_, hcoherent⟩
  have hpending : (latchView left conditionId).delivery ≠ .pending := by
    intro hpending
    obtain ⟨episode, hepisode⟩ := Option.isSome_iff_exists.mp (hcoherent.inEpisode conditionId (by simp [hfiring]))
    have howed : (episode, TransitionKind.alert) ∈ (latchView left conditionId).owed :=
      LatchView.mem_owed.mpr ⟨hpending, hepisode, hfiring⟩
    obtain ⟨row, hone⟩ := List.length_eq_one_iff.mp ((hcoherent.length_messagesOf conditionId episode .alert).mpr howed)
    have hmem : row ∈ messagesOf conditionId episode .alert isActive left := hone ▸ List.mem_singleton_self row
    obtain ⟨hrow, hactive⟩ := List.mem_filter.mp hmem
    rw [hrows row hrow] at hactive
    cases hactive
  have hone := halerting conditionId hfiring
  simp only [List.mem_cons, List.not_mem_nil, or_false] at hone
  exact hone.resolve_left hpending

end Check

/-! ### Any number of such checks -/

/-- The runs of checks that sent what they had to and returned another code
than that of a failed delivery, and the database they left. -/
inductive Attended : List LoggedRun → StateStore → Prop
  | start : Attended [] .empty
  | check {log : List LoggedRun} {store now left : StateStore} {inputs : CheckInputs} {recovered : List DeliveryActivity}
      {report : RunReport} {committed : Committed} {code : UInt8} (h : Attended log store)
      (sends : inputs.suppressNotifications = false) (commits : Committing inputs store recovered now report committed)
      (finishes : Returns (finishCheck inputs recovered committed.report) committed.store code left)
      (confirmed : code ≠ 4) :
      Attended (log ++ [⟨now, report, inputs.retentionCutoff, false, committed.report⟩]) left

/-- No delivery changes a latch apart from its delivery state. -/
theorem keptByDelivery_sameLatches (store : StateStore) : KeptByDelivery fun now => ∀ conditionId,
    (now.conditionState.find? conditionId).map (·.withoutDelivery) =
      (store.conditionState.find? conditionId).map (·.withoutDelivery) where
  claim hs ok := by
    obtain ⟨_, _, _, _, -, -, -, -, -, rfl⟩ := StateStore.beginNotificationAttempt_eq_ok ok
    exact hs
  record hs ok := by
    obtain ⟨_, _, _, _, states, -, -, -, -, -, -, -, hstates, rfl⟩ := StateStore.recordNotificationAttempt_eq_ok ok
    intro conditionId
    show (states.find? conditionId).map _ = _
    rw [← hs conditionId, hstates, Option.map_map]
    exact congrArg₂ Option.map (funext fun latch => settledLatch_withoutDelivery _ _ latch) rfl
  refresh hs ok := by
    obtain ⟨⟨runs, rfl⟩, -⟩ := StateStore.refreshRunDelivery_eq_ok ok
    exact hs

section Runs

variable {log : List LoggedRun} {store : StateStore}

theorem Attended.told (h : Attended log store) : Told store := by
  induction h with
  | start => exact told_empty
  | check _ sends commits finishes confirmed ih => exact ih.check sends commits finishes confirmed

/-- The condition's latch counts as the signal does, once there is one. -/
structure TracksIn (store : StateStore) (conditionId : String) (signal : Signal) : Prop where
  stored : ∀ latch, store.conditionState.find? conditionId = some latch → Tracks signal latch
  unstored : store.conditionState.find? conditionId = none → signal = .initial

theorem TracksIn.prior {conditionId : String} {signal : Signal} (h : TracksIn store conditionId signal)
    (evaluation : ConditionEvaluation) :
    Tracks signal ((store.conditionState.find? conditionId).getD (.fromEvaluation evaluation)) := by
  cases hlatch : store.conditionState.find? conditionId with
  | none =>
    rw [h.unstored hlatch]
    exact tracks_fromEvaluation evaluation
  | some latch => exact h.stored latch hlatch

/-- Delivery apart the latch is another's. -/
theorem TracksIn.of_withoutDelivery {left : StateStore} {conditionId : String} {signal : Signal}
    (h : TracksIn store conditionId signal) (hsame : (left.conditionState.find? conditionId).map (·.withoutDelivery) =
      (store.conditionState.find? conditionId).map (·.withoutDelivery)) : TracksIn left conditionId signal := by
  refine ⟨fun latch hlatch => ?_, fun hnone => ?_⟩
  · rw [hlatch, Option.map_some, eq_comm] at hsame
    obtain ⟨latch', hlatch', hsame⟩ := Option.map_eq_some_iff.mp hsame
    exact (h.stored latch' hlatch').of_withoutDelivery hsame
  · rw [hnone, Option.map_none, eq_comm, Option.map_eq_none_iff] at hsame
    exact h.unstored hsame

/-- **A commit takes one sample**, and announces its edge. -/
theorem TracksIn.commit {conditionId : String} {signal : Signal} {report : RunReport} {cutoff : Timestamp}
    {committed : Committed} {latching : Latching} {persisted : StateStore} (h : TracksIn store conditionId signal)
    (htold : Told store) (hcommitted : IsCommitted report false cutoff store committed latching persisted) {run : LoggedRun}
    (hrun : run = ⟨store, report, cutoff, false, committed.report⟩) :
    TracksIn committed.store conditionId (signal.read (run.sample conditionId)) ∧
      run.announced conditionId =
        ((edge signal.raised (signal.read (run.sample conditionId)).raised).map announcementOf).toList := by
  subst hrun
  cases hstep : LoggedRun.latchStep conditionId ⟨store, report, cutoff, false, committed.report⟩ with
  | none =>
    obtain ⟨hkept, hsilent⟩ := hcommitted.latch_kept hstep
    have hfind := Option.map_eq_none_iff.mp hstep
    have hsample : LoggedRun.sample conditionId ⟨store, report, cutoff, false, committed.report⟩ = ⟨none, 0, 0⟩ := by
      unfold LoggedRun.sample
      rw [hfind]
      rfl
    rw [hsample]
    refine ⟨h.of_withoutDelivery (congrArg _ hkept), ?_⟩
    · unfold LoggedRun.announced
      rw [hsilent]
      show [] = ((edge signal.raised signal.raised).map announcementOf).toList
      cases signal.raised <;> rfl
  | some next =>
    obtain ⟨hadvances, hannounced⟩ := hcommitted.latch_advances hstep
    obtain ⟨evaluation, hfind, rfl⟩ := Option.map_eq_some_iff.mp hstep
    have hid : evaluation.id = conditionId := by simpa using List.find?_some hfind
    have hsample : LoggedRun.sample conditionId ⟨store, report, cutoff, false, committed.report⟩ = evaluation.sample := by
      unfold LoggedRun.sample
      rw [hfind]
      rfl
    -- the latch that is found is confirmed if it is firing
    have hconfirmed : ((store.conditionState.find? conditionId).getD (.fromEvaluation evaluation)).lifecycle = .firing →
        (priorState store evaluation).alertDeliveryState = .delivered := by
      have halert := htold.alerts conditionId
      unfold priorState
      rw [hid]
      unfold latchView at halert
      cases hlatch : store.conditionState.find? conditionId with
      | none => exact fun hfiring => by cases hfiring
      | some latch =>
        rw [hlatch] at halert
        exact halert
    obtain ⟨htracks, hkinds⟩ := @Tracks.step signal _ ⟨evaluation, report.completedAt, report.runId, false,
      (priorState store evaluation).alertDeliveryState⟩ (h.prior evaluation) hconfirmed
    rw [hsample]
    obtain ⟨latch, hlatch, hsame⟩ := Option.map_eq_some_iff.mp hadvances
    refine ⟨⟨fun latch' hlatch' => ?_, fun hnone => ?_⟩, ?_⟩
    · rw [hlatch] at hlatch'
      obtain rfl := Option.some.inj hlatch'
      exact htracks.of_withoutDelivery hsame.symm
    · rw [hlatch] at hnone
      cases hnone
    · unfold LoggedRun.announced
      rw [hannounced, ← hkinds, ← Option.toList_map]

/-- **The runs announce the edges of the signal**, and leave the latch where the signal is. -/
theorem Attended.tracks (h : Attended log store) (conditionId : String) :
    TracksIn store conditionId (Signal.initial.after (log.map (·.sample conditionId))) ∧
      log.map (·.announced conditionId) =
        (Signal.initial.edges (log.map (·.sample conditionId))).map fun edge => (edge.map announcementOf).toList := by
  induction h with
  | start =>
    refine ⟨⟨fun _ hlatch => ?_, fun _ => rfl⟩, rfl⟩
    cases hlatch
  | @check log store now left inputs recovered report committed code h sends commits finishes confirmed ih =>
    obtain rfl := h.told.recovers commits.recovers
    obtain ⟨latching, persisted, hcommitted⟩ := commitRun_eq_ok commits.commits
    rw [sends] at hcommitted
    obtain ⟨htracks, hannounced⟩ := ih.1.commit h.told hcommitted rfl
    have hsame := finishes.of_spec
      (spec_finish (keptByDelivery_sameLatches committed.store) inputs recovered committed.report) fun _ => rfl
    rw [List.map_append, List.map_append, List.map_singleton, List.map_singleton, Signal.after_concat,
      Signal.edges_concat, List.map_append, List.map_singleton, ih.2, hannounced]
    exact ⟨htracks.of_withoutDelivery (hsame conditionId), rfl⟩

end Runs

/-- **Where no delivery fails, a condition is announced as its signal moves.**
Over any number of checks that send and return another code than that of a
failed delivery, each run announces of a condition the edge that its evaluation
makes of the debounced signal, an alert when it rises and a resolution when it
falls, so that they alternate; a latch is firing just while the signal is
raised, and then its alert is delivered, as every message is. -/
theorem announced_edges {log : List LoggedRun} {store : StateStore} (h : Attended log store) (conditionId : String) :
    log.map (·.announced conditionId) =
        (Signal.initial.edges (log.map (·.sample conditionId))).map (fun edge => (edge.map announcementOf).toList) ∧
      alternates false (Signal.initial.edges (log.map (·.sample conditionId))).reduceOption ∧
      (∀ latch, store.conditionState.find? conditionId = some latch →
        ((Signal.initial.after (log.map (·.sample conditionId))).raised ↔ latch.lifecycle = .firing) ∧
        (latch.lifecycle = .firing → latch.alertDeliveryState = .delivered)) ∧
      ∀ row ∈ store.notificationOutbox.rows, row.status = .delivered := by
  obtain ⟨htracks, hannounced⟩ := h.tracks conditionId
  refine ⟨hannounced, Signal.alternates_edges .initial _, fun latch hlatch => ⟨?_, ?_⟩, h.told.rows⟩
  · exact (htracks.stored latch hlatch).raised
  · have halert := h.told.alerts conditionId
    unfold latchView at halert
    rw [hlatch] at halert
    exact halert

/-- A check whose message the provider takes. -/
def takenApiCheck (runId : String) (outcome : EvaluationOutcome) (seconds : ℕ) : CheckInputs :=
  { apiCheck runId outcome seconds with
    send := fun _ => ⟨runId ++ "-attempt", second seconds, second seconds, .delivered 200 "taken"⟩ }

theorem Attended.taken {log : List LoggedRun} {store left : StateStore} {runId : String} {outcome : EvaluationOutcome}
    {seconds : ℕ} (h : Attended log store) (hreturns : Returns (checkWithSink (takenApiCheck runId outcome seconds)) store 0 left) :
    ∃ run : LoggedRun, run.report = apiReport runId outcome seconds ∧ Attended (log ++ [run]) left := by
  obtain ⟨_, now, _, committed, hcommits, hfinish⟩ := returns_check_iff.mp hreturns
  obtain rfl := Except.ok.inj hcommits.observes
  exact ⟨_, rfl, h.check rfl hcommits hfinish (by decide)⟩

/-- The API is found down and then up, which is announced. -/
theorem announced_edges_api : ∃ log store, Attended log store ∧
    log.map (·.announced "target:one:api") = [[.alert], [.resolution]] := by
  have hany : (checkWithSink (takenApiCheck "first" .active 0) .empty).2.toOption.any (fun first =>
      decide (first.1 = 0) && (checkWithSink (takenApiCheck "next" .clear 1) first.2).2.toOption.any fun next =>
        decide (next.1 = 0)) = true := by
    decide +kernel
  obtain ⟨⟨code, first⟩, hfirst, hany⟩ := Fallible.ok_of_any hany
  rw [Bool.and_eq_true, decide_eq_true_eq] at hany
  obtain ⟨rfl, hany⟩ := hany
  obtain ⟨⟨code, next⟩, hnext, hcode⟩ := Fallible.ok_of_any hany
  obtain rfl := of_decide_eq_true hcode
  obtain ⟨down, hdown, hlog⟩ := Attended.start.taken hfirst
  obtain ⟨up, hup, hlog⟩ := hlog.taken hnext
  refine ⟨_, next, hlog, (announced_edges hlog "target:one:api").1.trans ?_⟩
  simp only [List.nil_append, List.map_append, List.map_singleton, LoggedRun.sample, hdown, hup]
  rfl

end Sentinel
