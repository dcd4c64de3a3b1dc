/-
# A database is bound to a mode

The first run that is committed binds the database to its mode, live or dry,
and retention does not release it: from then on a check of the other mode ends
before it has changed anything. So nothing of a dry database was ever sent:
its messages are all suppressed, without attempts, and its latches claim no
delivery.

Key theorems: `LatchMove.simulated`, `BoundTo.committed`, `BoundTo.left`, `bound_once`.
-/
import Sentinel.Cli.Cooldown

namespace Sentinel

open CrashTxn

/-- Nothing was sent, and nothing is to be: no message has an attempt, and no
latch claims a delivery. -/
structure Simulated (store : StateStore) : Prop where
  messages : ∀ row ∈ store.notificationOutbox.rows, row.status = .suppressed ∧ row.attempts.rows = []
  latches : ∀ conditionId, (latchView store conditionId).delivery ∈ [.never, .suppressed]

/-- The database belongs to the mode. -/
structure BoundTo (mode : RunMode) (store : StateStore) : Prop where
  identity : store.stateIdentity = some mode
  runs : ∀ run ∈ store.runs.rows, run.mode = mode
  simulated : mode = .dryRun → Simulated store

/-! ### Deliveries -/

/-- Delivery leaves a run's mode. -/
theorem RunRow.Delivered.mode {run run' : RunRow} (h : run.Delivered run') : run'.mode = run.mode :=
  congrArg (·.mode) h.1

theorem SameHistory.forall_mode {store store' : StateStore} (h : SameHistory store store') {mode : RunMode}
    (hs : ∀ run ∈ store.runs.rows, run.mode = mode) : ∀ run ∈ store'.runs.rows, run.mode = mode := by
  intro run' hrun'
  obtain ⟨run, hrun, hdelivered⟩ := Fallible.exists_of_forall₂_right h run' hrun'
  exact hdelivered.mode.trans (hs run hrun)

/-- **A delivery keeps the binding**; of a dry database there is none. -/
theorem keptByDelivery_boundTo (mode : RunMode) : KeptByDelivery (BoundTo mode) where
  claim hs ok := by
    obtain ⟨row, attempts, runs, outbox, hfind, hunsent, -, -, hhistory, rfl⟩ :=
      StateStore.beginNotificationAttempt_eq_ok ok
    refine ⟨hs.identity, hhistory.forall_mode hs.runs, fun hdry => ?_⟩
    have hsuppressed := ((hs.simulated hdry).messages row (Table.find?_eq_some_iff.mp hfind).1).1
    rw [hsuppressed] at hunsent
    exact absurd hunsent (by decide)
  record hs ok := by
    obtain ⟨row, next, outbox, runs, states, hfind, hflight, -, -, -, -, hhistory, -, rfl⟩ :=
      StateStore.recordNotificationAttempt_eq_ok ok
    refine ⟨hs.identity, hhistory.forall_mode hs.runs, fun hdry => ?_⟩
    have hsuppressed := ((hs.simulated hdry).messages row (Table.find?_eq_some_iff.mp hfind).1).1
    rw [hsuppressed] at hflight
    cases hflight
  refresh hs ok := by
    obtain ⟨⟨runs, rfl⟩, hhistory⟩ := StateStore.refreshRunDelivery_eq_ok ok
    exact ⟨hs.identity, hhistory.forall_mode hs.runs, fun hdry =>
      ⟨(hs.simulated hdry).messages, (hs.simulated hdry).latches⟩⟩

/-! ### Commits -/

/-- **A suppressed move claims no delivery.** -/
theorem LatchMove.simulated {runId : String} {view view' : LatchView} {kind : Option TransitionKind}
    {withdrawal : Withdrawal} (h : LatchMove runId true view view' kind withdrawal)
    (hv : view.delivery ∈ [.never, .suppressed]) : view'.delivery ∈ [.never, .suppressed] := by
  cases h with
  | idle => exact hv
  | begins => exact List.mem_cons_self
  | beginsFiring | fires | resolves =>
    show queuedState true ∈ _
    decide
  | recovers lifecycle delivery episode latched unconfirmed =>
    have hv : delivery ∈ [.never, .suppressed] := hv
    have hne : delivery ≠ .pending := by
      rintro rfl
      exact absurd hv (by decide)
    show withdrawnState delivery ∈ _
    rw [withdrawnState, if_neg hne]
    exact hv

/-- What is suppressed is not cancelled. -/
theorem cancellable_suppressed : Cancellable fun row => row.status = .suppressed ∧ row.attempts.rows = [] where
  cancelled _ h hu := absurd h.1 hu.ne_suppressed
  replaced _ _ _ _ h hu := absurd h.1 hu.ne_suppressed

/-- A suppressed commit sends nothing. -/
theorem Simulated.committed {report : RunReport} {cutoff : Timestamp} {store : StateStore} {committed : Committed}
    {latching : Latching} {persisted : StateStore} (hs : Simulated store)
    (h : IsCommitted report true cutoff store committed latching persisted) : Simulated committed.store := by
  constructor
  · refine h.forall_rows cancellable_suppressed hs.messages fun message hm row hqueued => ?_
    rw [hqueued.header]
    exact ⟨h.status_of_mem hm, rfl⟩
  · intro conditionId
    obtain ⟨kind, withdrawal, hmove, -⟩ := h.moves conditionId
    exact hmove.simulated (hs.latches conditionId)

theorem simulated_empty : Simulated .empty :=
  ⟨fun _ hrow => (nomatch hrow), fun _ => List.mem_cons_self⟩

/-- **A commit binds the database**, or finds it bound to the run's mode. -/
theorem BoundTo.committed {report : RunReport} {suppress : Bool} {cutoff : Timestamp} {store : StateStore}
    {committed : Committed} {latching : Latching} {persisted : StateStore}
    (h : IsCommitted report suppress cutoff store committed latching persisted)
    (hs : store = .empty ∨ BoundTo report.mode store) (hdry : report.mode = .dryRun → suppress = true) :
    BoundTo report.mode committed.store := by
  have hidentity : store.stateIdentity.getD report.mode = report.mode := by
    rcases hs with rfl | hs
    · rfl
    · rw [hs.identity]
      rfl
  constructor
  · rw [h.pruned]
    show persisted.stateIdentity = _
    rw [h.stored.stateIdentity, h.latched.frame]
    show some (store.stateIdentity.getD report.mode) = _
    rw [hidentity]
  · intro run hrun
    rw [h.pruned] at hrun
    have hrun : run ∈ persisted.runs.rows := List.mem_of_mem_filter hrun
    obtain ⟨new, hruns, hnew⟩ := h.stored.run
    rw [hruns, h.latched.frame] at hrun
    rcases List.mem_append.mp hrun with hold | hnewest
    · rcases hs with rfl | hs
      · cases hold
      · exact hs.runs run hold
    · obtain rfl := List.mem_singleton.mp hnewest
      obtain ⟨base, hbase, hheader⟩ := hnew.header
      simp only [runRow, Fallible.bind_eq_ok_iff] at hbase
      obtain ⟨_, -, _, -, _, -, _, -, hbase⟩ := hbase
      obtain rfl := Except.ok.inj hbase
      rw [hheader, h.report_latched]
  · intro hmode
    obtain rfl := hdry hmode
    rcases hs with rfl | hs
    · exact simulated_empty.committed h
    · exact (hs.simulated hmode).committed h

/-! ### Checks -/

/-- An empty database has nothing to recover. -/
theorem spec_recover_empty (recoveredAt : Timestamp) :
    Spec (fun store => store = .empty) (fun store => store = .empty)
      (StateStore.recoverInterruptedAttempts recoveredAt) fun _ store => store = .empty ∧ NoneInFlight store := by
  refine spec_recover (fun hs ok => ?_) recoveredAt
  obtain ⟨row, _, _, _, _, hfind, -⟩ := StateStore.recordNotificationAttempt_eq_ok ok
  rw [hs] at hfind
  cases hfind

namespace Circumstances

variable {c : Circumstances} {store left : StateStore} {mode : RunMode}

theorem mode_of_observation {recovered : List DeliveryActivity} {report : RunReport}
    (h : c.observation recovered store = .ok report) : report.mode = c.mode := by
  obtain ⟨evaluated, -, -, rfl⟩ := observation_eq_ok h
  rfl

/-- A dry check suppresses what it queues. -/
theorem suppress_of_dryRun (h : c.mode = .dryRun) : c.suppressNotifications = true := by
  unfold mode at h
  split at h
  case isTrue hdry => rw [suppressNotifications, hdry, Bool.true_or]
  case isFalse => cases h

/-- **A check of the other mode changes nothing**, and fails. -/
theorem check_other (h : store.stateIdentity = some mode) (hne : c.mode ≠ mode) :
    crashStates (checkWithSink c.inputs) store = [store] ∧ ∃ error, (checkWithSink c.inputs store).2 = .error error := by
  have hmode : ∃ error, store.ensureRunMode c.inputs.mode = .error error := by
    unfold StateStore.ensureRunMode
    rw [h]
    have hother : mode ≠ c.inputs.mode := Ne.symm hne
    exact ⟨_, if_neg (by simpa using hother)⟩
  obtain ⟨error, herror⟩ := hmode
  have hread : StateStore.readFor (·.ensureRunMode c.inputs.mode) store = ([], .error (.ofStore error)) := by
    simp only [StateStore.readFor, CrashTxn.mapError, CrashTxn.read, herror]
    rfl
  have hcheck : checkWithSink c.inputs store = ([], .error (.ofStore error)) := by
    unfold checkWithSink
    simp only [Bind.bind, hread]
  rw [crashStates, hcheck]
  exact ⟨rfl, _, rfl⟩

/-- **A check leaves a bound database bound**, wherever it dies. -/
theorem left_boundTo (h : BoundTo mode store) (hleft : left ∈ crashStates (checkWithSink c.inputs) store) :
    BoundTo mode left := by
  by_cases hmode : c.mode = mode
  · have hrecover := spec_recover (keptByDelivery_boundTo mode).record c.started
    rcases left_cases hleft with hrecovery | ⟨recovered, now, report, committed, hcommits, hdelivery⟩
    · exact hrecover.crash h hrecovery
    · have hnow : BoundTo mode now := (hcommits.recovers.of_spec hrecover h).1
      have hreport : report.mode = c.mode := mode_of_observation hcommits.observes
      obtain ⟨latching, persisted, hcommitted⟩ := commitRun_eq_ok hcommits.commits
      have hbound := BoundTo.committed hcommitted (.inr (by rwa [hreport, hmode]))
        fun hdry => suppress_of_dryRun (hreport ▸ hdry)
      rw [hreport, hmode] at hbound
      exact (spec_finish (keptByDelivery_boundTo mode) c.inputs recovered committed.report).crash hbound hdelivery
  · rw [(check_other h.identity hmode).1, List.mem_singleton] at hleft
    exact hleft ▸ h

/-- A check of an empty database leaves it empty, or binds it to its mode. -/
theorem first_boundTo (hleft : left ∈ crashStates (checkWithSink c.inputs) .empty) :
    left = .empty ∨ BoundTo c.mode left := by
  rcases left_cases hleft with hrecovery | ⟨recovered, now, report, committed, hcommits, hdelivery⟩
  · exact .inl ((spec_recover_empty c.started).crash rfl hrecovery)
  · have hnow : now = .empty := (hcommits.recovers.of_spec (spec_recover_empty c.started) rfl).1
    have hreport : report.mode = c.mode := mode_of_observation hcommits.observes
    obtain ⟨latching, persisted, hcommitted⟩ := commitRun_eq_ok hcommits.commits
    have hbound := BoundTo.committed hcommitted (.inl hnow) fun hdry => suppress_of_dryRun (hreport ▸ hdry)
    rw [hreport] at hbound
    exact .inr ((spec_finish (keptByDelivery_boundTo c.mode) c.inputs recovered committed.report).crash hbound hdelivery)

end Circumstances

/-- The checks that were made of a database, each of which may have died
anywhere, and what they left. -/
inductive Made (first : StateStore) : List Circumstances → StateStore → Prop
  | start : Made first [] first
  | check {made : List Circumstances} {store left : StateStore} (h : Made first made store) (c : Circumstances)
      (hleft : left ∈ crashStates (checkWithSink c.inputs) store) : Made first (made ++ [c]) left

/-- **A bound database stays bound**, whatever checks are made of it. -/
theorem Made.boundTo {first store : StateStore} {made : List Circumstances} {mode : RunMode}
    (h : Made first made store) (hfirst : BoundTo mode first) : BoundTo mode store := by
  induction h with
  | start => exact hfirst
  | check _ c hleft ih => exact Circumstances.left_boundTo ih hleft

/-- **Live and dry runs do not mix.** A database that checks have left is empty,
or bound to the mode of one of them: its runs are of that mode, and if that is
the dry mode nothing was ever sent. However many checks follow, it stays bound
to it, and a check of the other mode fails and changes nothing. -/
theorem bound_once {made : List Circumstances} {store : StateStore} (h : Made .empty made store) :
    store = .empty ∨ ∃ mode, BoundTo mode store ∧ (∃ c ∈ made, c.mode = mode) ∧
      ∀ later left, Made store later left → BoundTo mode left ∧ ∀ c : Circumstances, c.mode ≠ mode →
        crashStates (checkWithSink c.inputs) left = [left] ∧ ∃ error, (checkWithSink c.inputs left).2 = .error error := by
  have hbound : store = .empty ∨ ∃ mode, BoundTo mode store ∧ ∃ c ∈ made, c.mode = mode := by
    induction h with
    | start => exact .inl rfl
    | check _ c hleft ih =>
      rcases ih with rfl | ⟨mode, hbound, c', hc', hmode⟩
      · exact (Circumstances.first_boundTo hleft).imp_right fun hbound =>
          ⟨c.mode, hbound, c, List.mem_append_right _ List.mem_cons_self, rfl⟩
      · exact .inr ⟨mode, Circumstances.left_boundTo hbound hleft, c', List.mem_append_left _ hc', hmode⟩
  refine hbound.imp_right fun ⟨mode, hbound, hmade⟩ => ⟨mode, hbound, hmade, fun later left hlater => ?_⟩
  have hleft := hlater.boundTo hbound
  exact ⟨hleft, fun c hne => c.check_other hleft.identity hne⟩

/-- After one dry check, which queues an alert, a live one changes nothing. -/
theorem bound_once_dry : ∃ store, Made .empty [rejectedCheck "first" 0] store ∧
    store.notificationOutbox.rows.map (·.status) = [.suppressed] ∧ Simulated store ∧
    crashStates (checkWithSink { rejectedCheck "next" 1 with dryRun := false }.inputs) store = [store] := by
  have hany : (checkWithSink (rejectedCheck "first" 0).inputs .empty).1.any (fun store =>
      decide (store.notificationOutbox.rows.map (·.status) = [.suppressed])) = true := by decide +kernel
  obtain ⟨store, hleft, hqueued⟩ := List.any_eq_true.mp hany
  have hqueued := of_decide_eq_true hqueued
  have hmade : Made .empty [rejectedCheck "first" 0] store := .check .start _ (List.mem_cons_of_mem _ hleft)
  rcases bound_once hmade with rfl | ⟨mode, hbound, ⟨c, hc, hmode⟩, hlater⟩
  · cases hqueued
  · obtain rfl := List.mem_singleton.mp hc
    obtain rfl : .dryRun = mode := hmode
    exact ⟨store, hmade, hqueued, hbound.simulated rfl, ((hlater [] store .start).2 _ (by decide)).1⟩

end Sentinel
