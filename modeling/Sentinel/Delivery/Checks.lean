/-
# Checks keep the store coherent

The states a database goes through: it starts empty, and every check takes it
to one of the states the check may leave, wherever the check dies. Recovery
leaves nothing in flight, which is what a commit needs; what every transaction
keeps, a coherent store for one, holds of every state.

Key theorems: `spec_recover`, `spec_check`, `left_cases`, `returns_check_iff`, `CheckReachable.kept`,
`delivery_coherent`.
-/
import Sentinel.Cli.Check
import Sentinel.Core.LatchHistory
import Sentinel.Delivery.Coherence

namespace Sentinel

open CrashTxn

/-! ### Recovery -/

theorem StateStore.recoverAttempt_eq_ok {recoveredAt : Timestamp} {row : OutboxRow} {store store' : StateStore}
    {activity : DeliveryActivity} (h : recoverAttempt recoveredAt row store = .ok (store', activity)) :
    ∃ attempt report, attempt.message.id = row.id ∧ store.recordNotificationAttempt attempt
      (max recoveredAt attempt.startedAt) interruptedOutcome = .ok (store', report) := by
  simp only [recoverAttempt, interruptedAttempt, Fallible.bind_eq_ok_iff, loadOutboxMessage,
    constraint_eq_ok_iff, OutboxRow.toMessage] at h
  obtain ⟨attempt, ⟨id, -, started, -, message, ⟨row', hrow', priority, -, hmessage⟩, ha⟩, result, hrecord, h⟩ := h
  obtain rfl := Except.ok.inj hmessage
  obtain rfl := Except.ok.inj ha
  obtain ⟨rfl, -⟩ := Prod.mk.inj (Except.ok.inj h)
  exact ⟨_, result.2, (Table.find?_eq_some_iff.mp hrow').2, hrecord⟩

/-- The messages in flight are among these. -/
def InFlightAmong (rows : List OutboxRow) (store : StateStore) : Prop :=
  ∀ row ∈ store.notificationOutbox.rows, row.status = .inFlight → row.id ∈ rows.map (·.id)

/-- A recovered message is no longer in flight. -/
theorem inFlightAmong_recover {recoveredAt : Timestamp} {row : OutboxRow} {rows : List OutboxRow}
    {store store' : StateStore} {activity : DeliveryActivity}
    (h : StateStore.recoverAttempt recoveredAt row store = .ok (store', activity))
    (hrows : InFlightAmong (row :: rows) store) : InFlightAmong rows store' := by
  obtain ⟨attempt, report, hid, hrecord⟩ := StateStore.recoverAttempt_eq_ok h
  obtain ⟨old, next, _, _, _, hfind, -, -, -, -, hexchange, -, -, -⟩ :=
    StateStore.recordNotificationAttempt_eq_ok hrecord
  intro other hother hflight
  rcases hexchange.mem_iff hother with rfl | ⟨hm, hne⟩
  · cases hflight
  · have hold : old.id = row.id := (Table.find?_eq_some_iff.mp hfind).2.trans hid
    have := hrows other hm hflight
    rw [List.map_cons, List.mem_cons] at this
    exact this.resolve_left fun he => hne (he.trans hold.symm)

/-! ### What every transaction keeps -/

theorem StateStore.refreshRunDelivery_eq_ok {runId : String} {store store' : StateStore}
    (h : store.refreshRunDelivery runId = .ok store') :
    (∃ runs, store' = { store with runs }) ∧ SameHistory store store' := by
  obtain rfl := Except.ok.inj h
  have start : (∃ runs, store = { store with runs }) ∧ SameHistory store store := ⟨⟨store.runs, rfl⟩, .refl _⟩
  refine List.foldlRecOn (motive := fun s => (∃ runs, s = { store with runs }) ∧ SameHistory store s) _ _ start ?_
  rintro s ⟨⟨runs, rfl⟩, hruns⟩ ⟨conditionId, episode, state⟩ -
  obtain ⟨⟨runs', h'⟩, hruns'⟩ := refreshEvaluation_eq { store with runs } runId conditionId episode state
  exact ⟨⟨runs', h'⟩, hruns.trans hruns'⟩

/-- Every transaction of a delivery keeps this. -/
structure KeptByDelivery (I : StateStore → Prop) : Prop where
  claim : ∀ {uuid messageId executingRunId : String} {startedAt : Timestamp} {store store' : StateStore}
    {attempt : NotificationAttempt}, I store →
    store.beginNotificationAttempt uuid messageId startedAt executingRunId = .ok (store', attempt) → I store'
  record : ∀ {attempt : NotificationAttempt} {completedAt : Timestamp} {outcome : NotificationAttemptOutcome}
    {store store' : StateStore} {report : NotificationReport}, I store →
    store.recordNotificationAttempt attempt completedAt outcome = .ok (store', report) → I store'
  refresh : ∀ {runId : String} {store store' : StateStore}, I store → store.refreshRunDelivery runId = .ok store' →
    I store'

/-- Every transaction of a check keeps this; a run is committed when nothing
is in flight. -/
structure Kept (I : StateStore → Prop) : Prop extends KeptByDelivery I where
  commit : ∀ {uuids : ℕ → String} {report : RunReport} {config : Config} {now : ℤ} {cutoff : Timestamp}
    {suppress : Bool} {store : StateStore} {committed : Committed}, I store → NoneInFlight store →
    store.commitRun uuids report config now cutoff suppress = .ok committed → I committed.store

section Check

variable {I : StateStore → Prop}

/-- **Recovery keeps what recording keeps, and leaves nothing in flight.** -/
theorem spec_recover (record : ∀ {attempt : NotificationAttempt} {completedAt : Timestamp}
      {outcome : NotificationAttemptOutcome} {store store' : StateStore} {report : NotificationReport}, I store →
      store.recordNotificationAttempt attempt completedAt outcome = .ok (store', report) → I store')
    (recoveredAt : Timestamp) :
    Spec I I (StateStore.recoverInterruptedAttempts recoveredAt) fun _ store => I store ∧ NoneInFlight store := by
  unfold StateStore.recoverInterruptedAttempts
  refine .bind .reads fun recoveredAt => ?_
  have hread : Spec I I (CrashTxn.read fun store => Except.ok (ε := StoreError) store.interruptedMessages)
      fun rows store => I store ∧ InFlightAmong rows store := by
    refine .read fun store rows hs hrows => ⟨hs, fun row hm hflight => ?_⟩
    obtain rfl := Except.ok.inj hrows
    refine List.mem_map.mpr ⟨row, ?_, rfl⟩
    exact Collections.mem_orderBy.mpr (List.mem_filter.mpr ⟨hm, by simp [hflight]⟩)
  refine .bind hread fun rows => ?_
  have heach : ∀ rows, Spec I (fun store => I store ∧ InFlightAmong rows store)
      (CrashTxn.each (fun row => CrashTxn.commit (StateStore.recoverAttempt recoveredAt row)) rows)
      fun _ store => I store ∧ InFlightAmong [] store := by
    refine Spec.each fun row rows => .commit fun store store' activity hs h => ?_
    obtain ⟨attempt, report, -, hrecord⟩ := StateStore.recoverAttempt_eq_ok h
    have hkept := record hs.1 hrecord
    exact ⟨hkept, hkept, inFlightAmong_recover h hs.2⟩
  refine (heach rows).weaken (fun _ hs => hs) fun _ store hs => ⟨hs.1, fun row hm hflight => ?_⟩
  exact List.not_mem_nil (hs.2 row hm hflight)

theorem spec_readFor {α : Type} {I P : StateStore → Prop} (f : StateStore → Except StoreError α) :
    Spec I P (StateStore.readFor f) fun _ => P :=
  .mapError .reads

theorem spec_commitFor {α : Type} {I P : StateStore → Prop} {f : StateStore → Except StoreError (StateStore × α)}
    (h : ∀ store store' a, P store → f store = .ok (store', a) → I store') :
    Spec I P (StateStore.commitFor f) fun _ => I :=
  .mapError (.keeps h)

theorem spec_deliverPending (kept : KeptByDelivery I) (send : OutboxMessage → Sending) (runId : String) :
    ∀ pending, Spec I I (deliverPending send runId pending) fun _ => I
  | [] => .pure fun _ hs => hs
  | message :: pending => by
    unfold deliverPending
    refine .bind (spec_commitFor fun store store' attempt hs h => kept.claim hs h) fun attempt => ?_
    refine .bind (spec_commitFor fun store store' report hs h => kept.record hs h) fun report => ?_
    split
    · exact spec_deliverPending kept send runId pending
    · exact .pure fun _ hs => hs

theorem spec_deliver (kept : KeptByDelivery I) (inputs : CheckInputs) (runId : String) :
    Spec I I (deliver inputs runId) fun _ => I := by
  unfold deliver
  split
  · exact .pure fun _ hs => hs
  · exact .bind (spec_readFor _) fun pending => .bind .reads fun _ => spec_deliverPending kept inputs.send runId pending

/-- What a check does once its run is committed. -/
def finishCheck (inputs : CheckInputs) (recovered : List DeliveryActivity) (report : RunReport) :
    CrashTxn StateStore CommandError UInt8 := do
  let failed ← deliver inputs report.runId
  let _ ← StateStore.commitFor fun store => do return (← store.refreshRunDelivery report.runId, ())
  let _ ← StateStore.readFor (·.loadReports 1 none)
  return if failed || !recovered.isEmpty then 4 else report.exit.code

/-- **What a check does after its commit keeps what delivery keeps.** -/
theorem spec_finish (kept : KeptByDelivery I) (inputs : CheckInputs) (recovered : List DeliveryActivity)
    (report : RunReport) : Spec I I (finishCheck inputs recovered report) fun _ => I := by
  unfold finishCheck
  refine .bind (spec_deliver kept inputs _) fun failed => ?_
  have hrefresh : Spec I I (StateStore.commitFor fun store => do
      return (← store.refreshRunDelivery report.runId, ())) fun _ => I := by
    refine spec_commitFor fun store store' _ hs h => ?_
    rw [Fallible.bind_eq_ok_iff] at h
    obtain ⟨refreshed, hrefresh, h⟩ := h
    obtain ⟨rfl, -⟩ := Prod.mk.inj (Except.ok.inj h)
    exact kept.refresh hs hrefresh
  refine .bind hrefresh fun _ => .bind (spec_readFor _) fun _ => ?_
  exact .pure fun _ hs => hs

/-- The transaction that commits a run. -/
def commitReport (inputs : CheckInputs) (report : RunReport) : CrashTxn StateStore CommandError RunReport :=
  StateStore.commitFor fun store => do
    let committed ← store.commitRun inputs.uuids report inputs.config inputs.completedUnixSeconds
      inputs.retentionCutoff inputs.suppressNotifications
    return (committed.store, committed.report)

/-- A check, with what it does after its commit. -/
theorem checkWithSink_eq (inputs : CheckInputs) : checkWithSink inputs = (do
    let _ ← StateStore.readFor (·.ensureRunMode inputs.mode)
    let _ ← CrashTxn.read (checkClock inputs.started)
    let recovered ← CrashTxn.mapError .ofStore (StateStore.recoverInterruptedAttempts inputs.started)
    let report ← CrashTxn.read (inputs.observe recovered)
    let report ← commitReport inputs report
    finishCheck inputs recovered report) := rfl

/-- **A check keeps what its transactions keep**, wherever it dies. -/
theorem spec_check (kept : Kept I) (inputs : CheckInputs) : Spec I I (checkWithSink inputs) fun _ => I := by
  rw [checkWithSink_eq]
  refine .bind (spec_readFor _) fun _ => .bind .reads fun _ => ?_
  refine .bind (.mapError (spec_recover kept.record _)) fun recovered => .bind .reads fun report => ?_
  have hcommit : Spec I (fun store => I store ∧ NoneInFlight store) (commitReport inputs report) fun _ => I := by
    refine spec_commitFor fun store store' report hs h => ?_
    rw [Fallible.bind_eq_ok_iff] at h
    obtain ⟨committed, hcommit, h⟩ := h
    obtain ⟨rfl, -⟩ := Prod.mk.inj (Except.ok.inj h)
    exact kept.commit hs.1 hs.2 hcommit
  exact .bind hcommit fun report => spec_finish kept.toKeptByDelivery inputs recovered report

/-! What a check that commits has done. -/

/-- A check gets as far as observing the targets. -/
structure Observing (inputs : CheckInputs) (store : StateStore) (recovered : List DeliveryActivity) (now : StateStore) :
    Prop where
  mode : store.ensureRunMode inputs.mode = .ok ()
  clock : checkClock inputs.started store = .ok ()
  recovers : Returns (StateStore.recoverInterruptedAttempts inputs.started) store recovered now

/-- A check commits what it has observed. -/
structure Committing (inputs : CheckInputs) (store : StateStore) (recovered : List DeliveryActivity) (now : StateStore)
    (report : RunReport) (committed : Committed) : Prop extends Observing inputs store recovered now where
  observes : inputs.observe recovered now = .ok report
  commits : now.commitRun inputs.uuids report inputs.config inputs.completedUnixSeconds inputs.retentionCutoff
    inputs.suppressNotifications = .ok committed

theorem returns_commitReport_iff {inputs : CheckInputs} {report report' : RunReport} {store left : StateStore} :
    Returns (commitReport inputs report) store report' left ↔ ∃ committed,
      store.commitRun inputs.uuids report inputs.config inputs.completedUnixSeconds inputs.retentionCutoff
        inputs.suppressNotifications = .ok committed ∧ committed.store = left ∧ committed.report = report' := by
  rw [commitReport, StateStore.commitFor, Returns.mapError_iff, Returns.commit_iff, Fallible.bind_eq_ok_iff]
  refine exists_congr fun committed => and_congr_right fun _ => ?_
  constructor
  · intro h
    exact Prod.mk.inj (Except.ok.inj h)
  · rintro ⟨rfl, rfl⟩
    rfl

theorem mem_log_commitReport_iff {inputs : CheckInputs} {report : RunReport} {store left : StateStore} :
    left ∈ (commitReport inputs report store).1 ↔ ∃ report', Returns (commitReport inputs report) store report' left := by
  rw [commitReport, StateStore.commitFor, log_mapError, mem_log_commit_iff]
  simp only [Returns.mapError_iff, Returns.commit_iff]

/-- **What a check may leave**: what its recovery leaves, or what it leaves once
its run is committed. -/
theorem left_cases {inputs : CheckInputs} {store left : StateStore} (h : left ∈ crashStates (checkWithSink inputs) store) :
    left ∈ crashStates (StateStore.recoverInterruptedAttempts inputs.started) store ∨
      ∃ recovered now report committed, Committing inputs store recovered now report committed ∧
        left ∈ crashStates (finishCheck inputs recovered committed.report) committed.store := by
  rcases List.mem_cons.mp h with rfl | h
  · exact .inl (List.mem_cons_self ..)
  simp only [checkWithSink_eq, StateStore.readFor, mem_log_bind_iff, log_mapError, not_mem_log_read, false_or,
    Returns.mapError_iff, Returns.read_iff, mem_log_commitReport_iff] at h
  obtain ⟨_, _, ⟨hmode, rfl⟩, _, _, ⟨hclock, rfl⟩, h | ⟨recovered, now, hrecovers, report, _, ⟨hobserves, rfl⟩, h⟩⟩ := h
  · exact .inl (List.mem_cons_of_mem _ h)
  have hobserving : Observing inputs store recovered now := ⟨hmode, hclock, hrecovers⟩
  refine .inr ?_
  rcases h with ⟨report', hcommit⟩ | ⟨report', left', hcommit, h⟩
  · obtain ⟨committed, hcommits, rfl, -⟩ := returns_commitReport_iff.mp hcommit
    exact ⟨recovered, now, report, committed, ⟨hobserving, hobserves, hcommits⟩, List.mem_cons_self ..⟩
  · obtain ⟨committed, hcommits, rfl, rfl⟩ := returns_commitReport_iff.mp hcommit
    exact ⟨recovered, now, report, committed, ⟨hobserving, hobserves, hcommits⟩, List.mem_cons_of_mem _ h⟩

/-- **What a check that returns has done.** -/
theorem returns_check_iff {inputs : CheckInputs} {store left : StateStore} {code : UInt8} :
    Returns (checkWithSink inputs) store code left ↔
      ∃ recovered now report committed, Committing inputs store recovered now report committed ∧
        Returns (finishCheck inputs recovered committed.report) committed.store code left := by
  simp only [checkWithSink_eq, StateStore.readFor, Returns.bind_iff, Returns.mapError_iff, Returns.read_iff,
    returns_commitReport_iff]
  constructor
  · rintro ⟨_, _, ⟨hmode, rfl⟩, _, _, ⟨hclock, rfl⟩, recovered, now, hrecovers, report, _, ⟨hobserves, rfl⟩, _, _,
      ⟨committed, hcommits, rfl, rfl⟩, hfinish⟩
    exact ⟨recovered, now, report, committed, ⟨⟨hmode, hclock, hrecovers⟩, hobserves, hcommits⟩, hfinish⟩
  · rintro ⟨recovered, now, report, committed, ⟨⟨hmode, hclock, hrecovers⟩, hobserves, hcommits⟩, hfinish⟩
    exact ⟨_, _, ⟨hmode, rfl⟩, _, _, ⟨hclock, rfl⟩, recovered, now, hrecovers, report, _, ⟨hobserves, rfl⟩, _, _,
      ⟨committed, hcommits, rfl, rfl⟩, hfinish⟩

end Check

/-! ### Any number of checks -/

/-- A state the database may be in. -/
inductive CheckReachable : StateStore → Prop
  | empty : CheckReachable .empty
  | check {store store' : StateStore} (inputs : CheckInputs) (h : CheckReachable store)
      (left : store' ∈ crashStates (checkWithSink inputs) store) : CheckReachable store'

/-- **What every transaction keeps holds of every state** the database may be in. -/
theorem CheckReachable.kept {I : StateStore → Prop} {store : StateStore} (h : CheckReachable store) (kept : Kept I)
    (start : I .empty) : I store := by
  induction h with
  | empty => exact start
  | check inputs _ left ih => exact (spec_check kept inputs).crash ih left

/-! ### Coherence -/

theorem coherent_empty : Coherent .empty :=
  ⟨fun _ => rfl, fun _ hne => absurd rfl hne⟩

theorem Coherent.of_runs {store : StateStore} (h : Coherent store) (runs : Table RunRow.id) :
    Coherent { store with runs } :=
  ⟨h.owed, h.inEpisode⟩

/-- **Every transaction keeps the store coherent.** -/
theorem kept_coherent : Kept Coherent where
  commit hc hquiet ok := by
    obtain ⟨latching, persisted, hcommitted⟩ := commitRun_eq_ok ok
    exact coherent_commit hcommitted hc hquiet
  claim hc ok := coherent_begin ok hc
  record hc ok := coherent_record ok hc
  refresh hc ok := by
    obtain ⟨⟨runs, rfl⟩, -⟩ := StateStore.refreshRunDelivery_eq_ok ok
    exact hc.of_runs runs

theorem CheckReachable.coherent {store : StateStore} (h : CheckReachable store) : Coherent store :=
  h.kept kept_coherent coherent_empty

/-- **The outbox holds what the latches owe**, wherever a check died: a firing
latch is pending just when one active alert names its episode, a clear latch
just when one active resolution does, and unsent messages name current
episodes only. -/
theorem delivery_coherent {store : StateStore} (h : CheckReachable store) :
    (∀ conditionId latch episode, store.conditionState.find? conditionId = some latch →
      latch.episodeId = some episode →
      (latch.lifecycle = .firing ∧ latch.alertDeliveryState = .pending ↔
        (messagesOf conditionId episode .alert isActive store).length = 1) ∧
      (latch.lifecycle = .clear ∧ latch.alertDeliveryState = .pending ↔
        (messagesOf conditionId episode .resolution isActive store).length = 1)) ∧
    ∀ row ∈ store.notificationOutbox.rows, row.status ∈ [.pending, .retryable] →
      ∀ member ∈ row.conditions.rows, ∃ latch, store.conditionState.find? member.conditionId = some latch ∧
        latch.episodeId = some member.episodeId := by
  have hc := h.coherent
  refine ⟨fun conditionId latch episode hlatch hepisode => ?_, fun row hrow hunsent member hm => ?_⟩
  · have hview : latchView store conditionId = latch.view := by
      rw [latchView, hlatch]
    rw [hc.length_messagesOf, hc.length_messagesOf, hview, LatchView.mem_owed, LatchView.mem_owed]
    simp only [ConditionState.view, hepisode]
    tauto
  · refine hc.mem_conditionState hrow ?_ hm
    simp only [isActive, List.mem_cons, List.not_mem_nil, or_false, decide_eq_true_eq] at hunsent ⊢
    tauto

/-- A run that evaluated the API condition only. -/
def apiReport (runId : String) (outcome : EvaluationOutcome) (seconds : ℕ) : RunReport where
  schemaVersion := 1
  runId
  mode := .live
  startedAt := second seconds
  completedAt := second seconds
  configSha256 := ""
  stateSchemaVersion
  runStatus := .complete
  expectedTargets := 1
  completeTargets := 1
  minimumCompleteTargets := 1
  targets := []
  aggregate := none
  evaluations := [apiEvaluation outcome]
  findings := []
  transitions := []
  notifications := []
  deliveryActivity := []
  health := ⟨1, 1, true, []⟩
  exit := ⟨0, exitReason 0⟩

/-- A configuration without targets. -/
def apiConfig : Config := { schemaVersion := 1, targets := [] }

/-- A check that makes such a run, and whose message the network loses. -/
def apiCheck (runId : String) (outcome : EvaluationOutcome) (seconds : ℕ) : CheckInputs where
  mode := .live
  started := second seconds
  observe _ _ := .ok (apiReport runId outcome seconds)
  config := apiConfig
  completedUnixSeconds := seconds
  retentionCutoff := second 0
  suppressNotifications := false
  uuids _ := runId ++ "-message"
  selectedAt := second seconds
  providerError := none
  send _ := ⟨runId ++ "-attempt", second seconds, second seconds, .retryable none "network"⟩

/-- A first check finds the API down and dies: its alert is queued or in
flight, and no resolution is. -/
theorem delivery_coherent_first : ∃ store latch, CheckReachable store ∧
    store.conditionState.find? "target:one:api" = some latch ∧
    (latch.lifecycle = .firing ∧ latch.alertDeliveryState = .pending) ∧
    (messagesOf "target:one:api" "first" .alert isActive store).length = 1 ∧
    (messagesOf "target:one:api" "first" .resolution isActive store).length ≠ 1 := by
  have hany : (checkWithSink (apiCheck "first" .active 1) .empty).1.any (fun store =>
      (store.conditionState.find? "target:one:api").map (·.view) = some ⟨.firing, .pending, some "first"⟩) := by
    decide +kernel
  obtain ⟨store, hleft, hview⟩ := List.any_eq_true.mp hany
  have hreach : CheckReachable store := .check _ .empty (List.mem_cons_of_mem _ hleft)
  obtain ⟨latch, hlatch, hview⟩ := Option.map_eq_some_iff.mp (of_decide_eq_true hview)
  obtain ⟨hl, hd, he⟩ := LatchView.mk.inj hview
  obtain ⟨halert, hresolution⟩ := (delivery_coherent hreach).1 _ latch "first" hlatch he
  refine ⟨store, latch, hreach, hlatch, ⟨hl, hd⟩, halert.mp ⟨hl, hd⟩, fun hone => ?_⟩
  have hclear := (hresolution.mpr hone).1
  rw [hl] at hclear
  cases hclear

end Sentinel
