/-
# Surviving batch members keep their place

A commit withdraws what waits of a condition when a new episode begins, or
when the condition recovers before its alert is confirmed. Withdrawing
replaces a batch for its other members, as often as the commit withdraws one
of them, and every replacement takes over the status, the age, the retry time
and the run. So a member that is not withdrawn waits in one message, as it did
before. The batches that were replaced stay as evidence until retention
deletes their run.

Key theorems: `CancelStep.survives`, `survives_latchEvaluations`, `IsCommitted.withdrawal_spares`,
`survivors_keep_place`.
-/
import Sentinel.Delivery.Immutable

namespace Sentinel

open Collections

/-! ### A member's place -/

/-- The message waits for an attempt. -/
def isWaiting (status : NotificationStatus) : Bool := status ∈ [.pending, .retryable]

/-- The row waits as the other one does: of the same run and kind, as old, with
the same status and retry time. -/
structure OutboxRow.SamePlace (row row' : OutboxRow) : Prop where
  runId : row'.runId = row.runId
  transition : row'.transition = row.transition
  status : row'.status = row.status
  createdAt : row'.createdAt = row.createdAt
  nextRetryAt : row'.nextRetryAt = row.nextRetryAt

theorem OutboxRow.SamePlace.refl (row : OutboxRow) : row.SamePlace row := ⟨rfl, rfl, rfl, rfl, rfl⟩

theorem OutboxRow.SamePlace.trans {row row' row'' : OutboxRow} (h : row.SamePlace row')
    (h' : row'.SamePlace row'') : row.SamePlace row'' :=
  ⟨h'.runId.trans h.runId, h'.transition.trans h.transition, h'.status.trans h.status,
    h'.createdAt.trans h.createdAt, h'.nextRetryAt.trans h.nextRetryAt⟩

/-- The member of the row has the row's place in the store. -/
def OutboxRow.Survives (row : OutboxRow) (member : NotificationCondition) (store : StateStore) : Prop :=
  ∃ row' ∈ store.notificationOutbox.rows, row.SamePlace row' ∧ member ∈ row'.conditions.rows

/-! ### Cancelling -/

section Cancel

variable {row : OutboxRow} {member : NotificationCondition} {conditionId : String} {kind : Option TransitionKind}

/-- **Cancelling a message keeps its other members' place**, and that of the
members of other messages. -/
theorem CancelStep.survives {store store' : StateStore} (h : StateStore.CancelStep conditionId kind store store')
    (hs : row.Survives member store)
    (spared : member.conditionId = conditionId → ¬∀ k ∈ kind, row.transition = k) : row.Survives member store' := by
  obtain ⟨row', hrow', hplace, hmember⟩ := hs
  obtain ⟨hsplit, hunsent, -, hrep, hrows⟩ := h
  rename_i cancelled before after replacements outbox
  have hstays : row' ∈ before ++ after → row' ∈ outbox.rows := by
    intro hm
    rw [hrows]
    simp only [List.mem_append, List.mem_cons] at hm ⊢
    tauto
  rw [hsplit, List.mem_append, List.mem_cons] at hrow'
  by_cases hc : row' = cancelled
  · subst hc
    have hne : member.conditionId ≠ conditionId := by
      intro hid
      apply spared hid
      rw [← hplace.transition]
      exact (StateStore.isUnsent_iff.mp hunsent).1
    have hsurvivor : member ∈ StateStore.survivors conditionId row' :=
      List.mem_filter.mpr ⟨mem_orderBy.mpr hmember, decide_eq_true hne⟩
    rcases hrep with ⟨hnil, -⟩ | ⟨-, uuid, conditions, hconditions, rfl⟩
    · rw [hnil] at hsurvivor
      cases hsurvivor
    · -- the replacement holds the member, with the cancelled row's place
      let replacement := { StateStore.replacementRow row' uuid
        (notificationPayload (StateStore.survivors conditionId row')) with conditions }
      have hlast : replacement ∈ outbox.rows := by
        rw [hrows]
        simp [replacement]
      have hheld : member ∈ replacement.conditions.rows := by
        rw [hconditions]
        exact hsurvivor
      exact ⟨replacement, hlast, hplace.trans ⟨rfl, rfl, rfl, rfl, rfl⟩, hheld⟩
  · exact ⟨row', hstays (List.mem_append.mpr (hrow'.imp_right fun hm => hm.resolve_left hc)), hplace, hmember⟩

/-- Any number of them are cancelled, one after the other. -/
theorem survives_cancelSteps {store store' : StateStore}
    (h : Relation.ReflTransGen (StateStore.CancelStep conditionId kind) store store') (hs : row.Survives member store)
    (spared : member.conditionId = conditionId → ¬∀ k ∈ kind, row.transition = k) : row.Survives member store' := by
  induction h with
  | refl => exact hs
  | tail _ hstep ih => exact CancelStep.survives hstep ih spared

theorem survives_cancelWhen {uuids : ℕ → String} {when_ : Bool} {state state' : StateStore × ℕ}
    (h : (if when_ then StateStore.cancelUnsentCondition uuids conditionId kind state else return state) = .ok state')
    (hs : row.Survives member state.1)
    (spared : when_ → member.conditionId = conditionId → ¬∀ k ∈ kind, row.transition = k) :
    row.Survives member state'.1 := by
  cases when_ with
  | true => exact survives_cancelSteps (StateStore.cancelUnsentCondition_eq_ok h).1 hs (spared rfl)
  | false =>
    obtain rfl : state = state' := Except.ok.inj h
    exact hs

/-- **The loop keeps the place of a member** whose condition's evaluation does
not withdraw it. -/
theorem survives_latchEvaluations {uuids : ℕ → String} {report : RunReport} {suppress : Bool} {store : StateStore}
    {latching : Latching}
    (h : report.evaluations.foldlM (latchEvaluation uuids report suppress) ⟨store, 0, [], [], []⟩ = .ok latching)
    (hs : row.Survives member store)
    (spared : ∀ evaluation ∈ report.evaluations, evaluation.id = member.conditionId →
      (withdrawal report suppress evaluation (priorState store evaluation)).takes row.transition = false) :
    row.Survives member latching.store := by
  have hloop := Fallible.foldlM_preserves (f := latchEvaluation uuids report suppress)
    (I := fun latching => latching.store.conditionState = store.conditionState ∧ row.Survives member latching.store)
    ?_ ⟨rfl, hs⟩ h
  · exact hloop.2
  rintro evaluation hm latching latching' ⟨hstates, hs⟩ hstep
  have hprior : priorState latching.store evaluation = priorState store evaluation := by
    rw [priorState, priorState, hstates]
  simp only [latchEvaluation, Fallible.bind_eq_ok_iff, hprior] at hstep
  obtain ⟨⟨store₁, drawn₁⟩, h₁, ⟨store₂, drawn₂⟩, h₂, hstep⟩ := hstep
  obtain rfl := Except.ok.inj hstep
  have hcancels : Cancels latching.store store₂ := (cancelWhen_eq_ok h₁).1.trans (cancelWhen_eq_ok h₂).1
  have hframe : store₂.conditionState = latching.store.conditionState := by
    rw [hcancels.frame]
  refine ⟨hframe.trans hstates, survives_cancelWhen h₂ (survives_cancelWhen h₁ hs ?_) ?_⟩
  · intro hbegins hid _
    have htakes := spared evaluation hm hid.symm
    rw [withdrawal, if_pos hbegins] at htakes
    cases htakes
  · intro hrecovers hid hkind
    have htakes := spared evaluation hm hid.symm
    have hbegins : beginsEpisode evaluation (priorState store evaluation) = false := by
      have hclear := (of_decide_eq_true hrecovers).1
      simp [beginsEpisode, hclear]
    rw [withdrawal, hbegins, if_neg Bool.false_ne_true, if_pos hrecovers, Withdrawal.takes, hkind .alert rfl] at htakes
    cases htakes

end Cancel

/-- **Originals are evidence**: a message stays as it was, or is marked
cancelled. -/
theorem original_of_cancels {store store' : StateStore} (h : Cancels store store') {row : OutboxRow}
    (hrow : row ∈ store.notificationOutbox.rows) :
    row ∈ store'.notificationOutbox.rows ∨
      row.Unsent ∧ StateStore.cancelledRow row ∈ store'.notificationOutbox.rows := by
  induction h with
  | refl => exact .inl hrow
  | tail _ hstep ih =>
    obtain ⟨conditionId, kind, hsplit, hunsent, -, -, hrows⟩ := hstep
    rename_i cancelled before after replacements outbox
    have hstays : ∀ row' ∈ before ++ cancelled :: after, row' ≠ cancelled → row' ∈ outbox.rows := by
      intro row' hm hne
      rw [hrows]
      simp only [List.mem_append, List.mem_cons] at hm ⊢
      tauto
    rw [hsplit] at ih
    have hunsent : cancelled.Unsent := (StateStore.isUnsent_iff.mp hunsent).2
    rcases ih with hold | ⟨hu, hold⟩
    · by_cases hc : row = cancelled
      · subst hc
        refine .inr ⟨hunsent, ?_⟩
        rw [hrows]
        simp
      · exact .inl (hstays row hold hc)
    · refine .inr ⟨hu, hstays _ hold ?_⟩
      rintro rfl
      simp [OutboxRow.Unsent, StateStore.cancelledRow] at hunsent

/-! ### A commit -/

/-- A commit that moves a latch so withdraws what waits of its condition: all
of it when an episode begins, the alert when a recovery comes before it is
confirmed. -/
def Withdraws (before after : LatchView) (kind : TransitionKind) : Prop :=
  before.lifecycle = .clear ∧ after.lifecycle ≠ .clear ∨
    kind = .alert ∧ before.lifecycle ≠ .clear ∧ before.delivery = .pending ∧ after.lifecycle = .clear

instance (before after : LatchView) (kind : TransitionKind) : Decidable (Withdraws before after kind) := by
  unfold Withdraws; infer_instance

/-- What a move withdraws, read off the latch before and after it. -/
theorem LatchMove.takes_eq_false {runId : String} {suppress : Bool} {view view' : LatchView}
    {announced : Option TransitionKind} {withdrawal : Withdrawal} {kind : TransitionKind}
    (h : LatchMove runId suppress view view' announced withdrawal) (spared : ¬Withdraws view view' kind) :
    withdrawal.takes kind = false := by
  cases h with
  | idle | fires | resolves => rfl
  | begins => exact absurd (.inl ⟨rfl, by simp⟩) spared
  | beginsFiring => exact absurd (.inl ⟨rfl, by simp⟩) spared
  | recovers lifecycle delivery episode latched =>
    by_cases hd : delivery = .pending
    · rw [if_pos hd]
      apply decide_eq_false
      intro hk
      exact spared (.inr ⟨hk, latched, hd, rfl⟩)
    · rw [if_neg hd]
      rfl

section Commit

variable {report : RunReport} {suppress : Bool} {cutoff : Timestamp} {store : StateStore}
  {committed : Committed} {latching : Latching} {persisted : StateStore}

namespace IsCommitted

/-- An evaluation takes nothing that the move of its latch spares. -/
theorem withdrawal_spares (h : IsCommitted report suppress cutoff store committed latching persisted)
    {conditionId : String} {kind : TransitionKind}
    (spared : ¬Withdraws (latchView store conditionId) (latchView committed.store conditionId) kind) :
    ∀ evaluation ∈ report.evaluations, evaluation.id = conditionId →
      (withdrawal report suppress evaluation (priorState store evaluation)).takes kind = false := by
  rintro evaluation hm rfl
  have hmove := latchMove_of_latchOutcome report suppress evaluation (priorState store evaluation)
  rw [view_priorState] at hmove
  rw [latchView_of_mem h hm] at spared
  exact hmove.takes_eq_false spared

/-- What a commit queues and does not withdraw adds to what it had. -/
theorem length_messagesOf_le (h : IsCommitted report suppress cutoff store committed latching persisted)
    {a : Announcement} (hnew : a ∉ committed.announcements) :
    (messagesOf a.conditionId a.episodeId a.kind isWaiting committed.store).length ≤
      (messagesOf a.conditionId a.episodeId a.kind isWaiting store).length := by
  have hcancelled : isWaiting .cancelled = false := rfl
  rw [← countP_ledger _ _ _ hcancelled, ← countP_ledger _ _ _ hcancelled]
  have hqueued : Multiset.countP
      (fun entry : Entry => entry.IsOf a.conditionId a.episodeId a.kind ∧ isWaiting entry.status)
      (↑(committed.announcements.map (Announcement.entry (if suppress then .suppressed else .pending))) :
        Multiset Entry) = 0 := by
    rw [Multiset.countP_eq_zero]
    intro entry hentry hof
    obtain ⟨announcement, hm, rfl⟩ := List.mem_map.mp (Multiset.mem_coe.mp hentry)
    obtain ⟨hc, he, hk⟩ := hof.1
    have hsame : announcement = a := by
      rw [Announcement.mk.injEq]
      exact ⟨hc, he, hk⟩
    exact hnew (hsame ▸ hm)
  have hle := Multiset.countP_le_of_le (fun entry : Entry => entry.IsOf a.conditionId a.episodeId a.kind ∧
    isWaiting entry.status) h.ledger_le
  rwa [Multiset.countP_add, hqueued, add_zero] at hle

/-- A commit does not announce again what a latch owes and the commit does not
withdraw. -/
theorem not_announced (h : IsCommitted report suppress cutoff store committed latching persisted)
    {conditionId episodeId : String} {kind : TransitionKind}
    (owed : (episodeId, kind) ∈ (latchView store conditionId).owed)
    (spared : ¬Withdraws (latchView store conditionId) (latchView committed.store conditionId) kind) :
    ⟨conditionId, episodeId, kind⟩ ∉ committed.announcements := by
  intro hm
  obtain ⟨announced, withdrawal, hmove, hqueued⟩ := h.moves conditionId
  have hmem : (⟨conditionId, episodeId, kind⟩ : Announcement) ∈
      committed.announcements.filter fun a => a.conditionId = conditionId :=
    List.mem_filter.mpr ⟨hm, decide_eq_true rfl⟩
  rw [hqueued] at hmem
  obtain ⟨hdelivery, -, hlifecycle⟩ := LatchView.mem_owed.mp owed
  -- only an episode that begins is announced while a delivery is pending
  generalize latchView store conditionId = view at hmove hdelivery hlifecycle spared
  generalize latchView committed.store conditionId = view' at hmove spared hmem
  cases hmove with
  | idle | begins | recovers => cases hmem
  | beginsFiring => exact spared (.inl ⟨rfl, by simp⟩)
  | fires => cases kind <;> cases hlifecycle
  | resolves delivery episode confirmed =>
    obtain rfl : delivery = .pending := hdelivery
    simp at confirmed

/-- A message stays, cancelled or as it was, unless retention deletes its run. -/
theorem original_stays (h : IsCommitted report suppress cutoff store committed latching persisted)
    (hruns : HasRuns store) {row : OutboxRow} (hrow : row ∈ store.notificationOutbox.rows) :
    row ∈ committed.store.notificationOutbox.rows ∨
      row.Unsent ∧ StateStore.cancelledRow row ∈ committed.store.notificationOutbox.rows ∨
      row.createdAt < cutoff ∧ committed.store.runs.find? row.runId = none := by
  obtain ⟨storedRun, hstored, -⟩ := h.storedRun
  obtain ⟨run, hrun, hpair⟩ := List.mem_map.mp (hruns.created row hrow)
  obtain ⟨hid, hcompleted⟩ := Prod.mk.inj hpair
  have hrun : run ∈ persisted.runs.rows := by
    rw [hstored]
    exact List.mem_append_left _ hrun
  cases hreleased : persisted.isReleased cutoff run with
  | true =>
    refine .inr (.inr ⟨hcompleted ▸ lt_of_isReleased hreleased, ?_⟩)
    rw [← Option.not_isSome_iff_eq_none, ← hid, h.isSome_find?_iff hrun, hreleased]
    decide
  | false =>
    have hkept : run ∈ (persisted.pruneRuns cutoff).runs.rows := List.mem_filter.mpr ⟨hrun, by rw [hreleased]; rfl⟩
    have hstays : ∀ row' ∈ latching.store.notificationOutbox.rows, row'.runId = row.runId →
        row' ∈ committed.store.notificationOutbox.rows := by
      intro row' hrow' hsame
      rw [h.pruned]
      exact pruneRuns_keeps_of_run (h.mem_persisted hrow') hkept (hid.trans hsame.symm)
    rcases original_of_cancels h.latched.cancels hrow with hold | ⟨hunsent, hcancelled⟩
    · exact .inl (hstays row hold rfl)
    · exact .inr (.inl ⟨hunsent, hstays _ hcancelled rfl⟩)

/-- **What is not withdrawn waits on**, in its place. -/
theorem survives (h : IsCommitted report suppress cutoff store committed latching persisted) {row : OutboxRow}
    {member : NotificationCondition} (hs : row.Survives member latching.store) (hunsent : row.Unsent) :
    row.Survives member committed.store := by
  obtain ⟨row', hrow', hplace, hmember⟩ := hs
  refine ⟨row', ?_, hplace, hmember⟩
  rw [h.pruned]
  apply pruneRuns_keeps (h.mem_persisted hrow')
  have hwaits : row'.Unsent := by
    rw [OutboxRow.Unsent, hplace.status]
    exact hunsent
  simp only [OutboxRow.Unsent, StateStore.isUnsettled, List.mem_cons, List.not_mem_nil, or_false,
    decide_eq_true_eq] at hwaits ⊢
  tauto

end IsCommitted

end Commit

/-! ### In every reachable store -/

/-- The run may be committed to the store: checks left it, or transactions in
any order, of runs with distinct ids. -/
def Reached (runId : String) (store : StateStore) : Prop :=
  CheckReachable store ∨ ∃ events, History events store ∧ (runIds events).Nodup ∧ runId ∉ runIds events

theorem Reached.hasRuns {runId : String} {store : StateStore} (h : Reached runId store) : HasRuns store := by
  rcases h with hchecks | ⟨events, hhistory, -⟩
  · obtain ⟨events, hhistory⟩ := hchecks.kept kept_hasHistory ⟨[], .start⟩
    exact hasRuns_of_history hhistory
  · exact hasRuns_of_history hhistory

/-- Messages that wait are active, and not cancelled. -/
theorem length_messagesOf_mono {conditionId episodeId : String} {kind : TransitionKind}
    {p q : NotificationStatus → Bool} (h : ∀ status, p status → q status) (store : StateStore) :
    (messagesOf conditionId episodeId kind p store).length ≤ (messagesOf conditionId episodeId kind q store).length := by
  rw [messagesOf, messagesOf, ← List.countP_eq_length_filter, ← List.countP_eq_length_filter]
  refine List.countP_mono_left fun row _ hp => ?_
  simp only [Bool.and_eq_true] at hp ⊢
  exact ⟨⟨h _ hp.1.1, hp.1.2⟩, hp.2⟩

/-- **A member that is not withdrawn waits once** after a commit. -/
theorem Reached.length_messagesOf_le {uuids : ℕ → String} {report : RunReport} {config : Config} {now : ℤ}
    {cutoff : Timestamp} {suppress : Bool} {store : StateStore} {committed : Committed}
    (h : Reached report.runId store) (ok : store.commitRun uuids report config now cutoff suppress = .ok committed)
    {row : OutboxRow} (hrow : row ∈ store.notificationOutbox.rows) (hunsent : row.Unsent)
    {member : NotificationCondition} (hm : member ∈ row.conditions.rows)
    (spared : ¬Withdraws (latchView store member.conditionId) (latchView committed.store member.conditionId)
      row.transition) :
    (messagesOf member.conditionId member.episodeId row.transition isWaiting committed.store).length ≤ 1 := by
  obtain ⟨latching, persisted, hcommitted⟩ := commitRun_eq_ok ok
  rcases h with hchecks | ⟨events, hhistory, hdistinct, hnew⟩
  · have hc := hchecks.coherent
    have hactive : ∀ status, isWaiting status → isActive status := by
      intro status
      cases status <;> decide
    have hheld : row ∈ messagesOf member.conditionId member.episodeId row.transition isActive store := by
      refine List.mem_filter.mpr ⟨hrow, ?_⟩
      rw [hactive row.status (decide_eq_true hunsent)]
      simp only [decide_true, Bool.true_and, decide_eq_true_eq]
      exact ⟨member, hm, rfl, rfl⟩
    have hle : (messagesOf member.conditionId member.episodeId row.transition isActive store).length ≤ 1 := by
      rw [← count_activeOf, hc.owed]
      exact (Multiset.count_le_card ..).trans (LatchView.card_owed_le _)
    have howed : (member.episodeId, row.transition) ∈ (latchView store member.conditionId).owed := by
      rw [← hc.length_messagesOf]
      have hpos := List.length_pos_of_mem hheld
      omega
    calc _ ≤ (messagesOf member.conditionId member.episodeId row.transition isWaiting store).length :=
        hcommitted.length_messagesOf_le (hcommitted.not_announced howed spared)
      _ ≤ (messagesOf member.conditionId member.episodeId row.transition isActive store).length :=
        length_messagesOf_mono hactive store
      _ ≤ 1 := hle
  · have hsound := (deskRun_of_history (hhistory.commit ok)).sound (List.nodup_cons.mpr ⟨hnew, hdistinct⟩)
    have hlive : ∀ status, isWaiting status → decide (status ≠ .cancelled) := by
      intro status
      cases status <;> decide
    exact (length_messagesOf_mono hlive committed.store).trans
      (hsound.length_messagesOf_le ⟨member.conditionId, member.episodeId, row.transition⟩)

/-- **Surviving batch members keep their place.** After a commit to any
reachable store, a member of a message that waited and is not withdrawn waits
in exactly one message, with its summary, of the same run, as old, with the same
status and retry time. A message that was cancelled keeps its members, its text
and its attempts, unless retention deletes its run, which completed before the
cutoff. -/
theorem survivors_keep_place {uuids : ℕ → String} {report : RunReport} {config : Config} {now : ℤ}
    {cutoff : Timestamp} {suppress : Bool} {store : StateStore} {committed : Committed}
    (reached : Reached report.runId store)
    (ok : store.commitRun uuids report config now cutoff suppress = .ok committed) :
    (∀ row ∈ store.notificationOutbox.rows, row.status ∈ [.pending, .retryable] → ∀ member ∈ row.conditions.rows,
      ¬Withdraws (latchView store member.conditionId) (latchView committed.store member.conditionId) row.transition →
      ∃ row', messagesOf member.conditionId member.episodeId row.transition isWaiting committed.store = [row'] ∧
        member ∈ row'.conditions.rows ∧ row.SamePlace row') ∧
    ∀ row ∈ store.notificationOutbox.rows,
      row ∈ committed.store.notificationOutbox.rows ∨
      row.status ∈ [.pending, .retryable] ∧
        { row with status := .cancelled, nextRetryAt := none } ∈ committed.store.notificationOutbox.rows ∨
      row.createdAt < cutoff ∧ committed.store.runs.find? row.runId = none := by
  obtain ⟨latching, persisted, hcommitted, hloop⟩ := commitRun_eq_ok_loop ok
  refine ⟨fun row hrow hunsent member hm spared => ?_, fun row hrow => hcommitted.original_stays reached.hasRuns hrow⟩
  have hlatched : row.Survives member latching.store :=
    survives_latchEvaluations hloop ⟨row, hrow, .refl row, hm⟩ (hcommitted.withdrawal_spares spared)
  obtain ⟨row', hrow', hplace, hmember⟩ := hcommitted.survives hlatched hunsent
  have hheld : row' ∈ messagesOf member.conditionId member.episodeId row.transition isWaiting committed.store := by
    refine List.mem_filter.mpr ⟨hrow', ?_⟩
    rw [hplace.status, hplace.transition, isWaiting, decide_eq_true hunsent]
    simp only [decide_true, Bool.true_and, decide_eq_true_eq]
    exact ⟨member, hmember, rfl, rfl⟩
  have hle := reached.length_messagesOf_le ok hrow hunsent hm spared
  have hpos := List.length_pos_of_mem hheld
  obtain ⟨only, honly⟩ := List.length_eq_one_iff.mp (le_antisymm hle hpos)
  rw [honly, List.mem_singleton] at hheld
  rw [← hheld] at honly
  exact ⟨row', honly, hmember, hplace⟩

/-- A run that found these conditions so. -/
def conditionsReport (runId : String) (outcomes : List (String × EvaluationOutcome)) (seconds : ℕ) : RunReport :=
  { apiReport runId .active seconds with
    evaluations := outcomes.map fun (id, outcome) => { apiEvaluation outcome with id } }

/-- Three conditions are announced in one message, and a later run finds two of
them recovered before it is sent. -/
def recoverTwo (cutoff : Timestamp) (last : EvaluationOutcome) : Except StoreError (Committed × Committed) := do
  let first ← StateStore.empty.commitRun (fun _ => "message")
    (conditionsReport "first" [("a", .active), ("b", .active), ("c", .active)] 1) apiConfig 1 (second 0) false
  let next ← first.store.commitRun (fun drawn => String.ofList (List.replicate (drawn + 1) 'r'))
    (conditionsReport "next" [("a", .clear), ("b", .clear), ("c", last)] 3) apiConfig 3 cutoff false
  return (first, next)

/-- Both runs are committed, the first to an empty database. -/
theorem recoverTwo_eq_ok {cutoff : Timestamp} {last : EvaluationOutcome} {first next : Committed}
    (h : recoverTwo cutoff last = .ok (first, next)) : Reached "next" first.store ∧
      ∃ uuids, first.store.commitRun uuids (conditionsReport "next" [("a", .clear), ("b", .clear), ("c", last)] 3)
        apiConfig 3 cutoff false = .ok next := by
  simp only [recoverTwo, Fallible.bind_eq_ok_iff] at h
  obtain ⟨first', hfirst, next', hnext, hpair⟩ := h
  obtain ⟨rfl, rfl⟩ := Prod.mk.inj (Except.ok.inj hpair)
  refine ⟨.inr ⟨_, History.start.commit hfirst, List.nodup_singleton "first", fun hm => ?_⟩, _, hnext⟩
  exact absurd (List.mem_singleton.mp hm) (by decide)

/-- Of three conditions in one message, two recover in one run: the message and
its first replacement are cancelled, and the third condition waits in the
second. -/
theorem survivors_keep_place_batch : ∃ first next row', recoverTwo (second 0) .active = .ok (first, next) ∧
    Reached "next" first.store ∧
    next.store.notificationOutbox.rows.map (fun row => (row.id, row.status, row.members.map (·.conditionId))) =
      [("message", .cancelled, ["a", "b", "c"]), ("r", .cancelled, ["b", "c"]), ("rr", .pending, ["c"])] ∧
    messagesOf "c" "first" .alert isWaiting next.store = [row'] ∧ row'.runId = "first" ∧ row'.createdAt = second 1 := by
  have hrun : (recoverTwo (second 0) .active).toOption.any (fun (first, next) =>
      (first.store.notificationOutbox.rows.any fun row =>
        row.status = .pending ∧ row.transition = .alert ∧ row.runId = "first" ∧ row.createdAt = second 1 ∧
        ⟨"c", "first", "one AdGuard API is available"⟩ ∈ row.conditions.rows) ∧
      ¬Withdraws (latchView first.store "c") (latchView next.store "c") .alert ∧
      next.store.notificationOutbox.rows.map (fun row => (row.id, row.status, row.members.map (·.conditionId))) =
        [("message", .cancelled, ["a", "b", "c"]), ("r", .cancelled, ["b", "c"]), ("rr", .pending, ["c"])]) = true := by
    decide +kernel
  obtain ⟨⟨first, next⟩, htwo, hfacts⟩ := Fallible.ok_of_any hrun
  obtain ⟨hany, hspared, hrows⟩ := of_decide_eq_true hfacts
  obtain ⟨row, hrow, hheld⟩ := List.any_eq_true.mp hany
  obtain ⟨hstatus, hkind, hid, hcreated, hmember⟩ := of_decide_eq_true hheld
  obtain ⟨hreached, uuids, hnext⟩ := recoverTwo_eq_ok htwo
  obtain ⟨row', honly, -, hplace⟩ := (survivors_keep_place hreached hnext).1 row hrow (by simp [hstatus]) _ hmember
    (hkind ▸ hspared)
  rw [hkind] at honly
  exact ⟨first, next, row', htwo, hreached, hrows, honly, hplace.runId.trans hid, hplace.createdAt.trans hcreated⟩

/-- A message that a commit cancels does not outlive its run: retention deletes
both in the same commit. -/
theorem original_released_with_run : ∃ first next row, recoverTwo (second 2) .clear = .ok (first, next) ∧
    Reached "next" first.store ∧ row ∈ first.store.notificationOutbox.rows ∧ row.status = .pending ∧
    row.members.map (·.conditionId) = ["a", "b", "c"] ∧
    Withdraws (latchView first.store "a") (latchView next.store "a") row.transition ∧
    next.store.notificationOutbox.rows = [] := by
  have hrun : (recoverTwo (second 2) .clear).toOption.any (fun (first, next) =>
      (first.store.notificationOutbox.rows.any fun row =>
        row.status = .pending ∧ row.members.map (·.conditionId) = ["a", "b", "c"] ∧
        Withdraws (latchView first.store "a") (latchView next.store "a") row.transition) ∧
      next.store.notificationOutbox.rows.isEmpty) = true := by
    decide +kernel
  obtain ⟨⟨first, next⟩, htwo, hfacts⟩ := Fallible.ok_of_any hrun
  obtain ⟨hany, hnone⟩ := of_decide_eq_true hfacts
  obtain ⟨row, hrow, hheld⟩ := List.any_eq_true.mp hany
  obtain ⟨hstatus, hmembers, hwithdraws⟩ := of_decide_eq_true hheld
  exact ⟨first, next, row, htwo, (recoverTwo_eq_ok htwo).1, hrow, hstatus, hmembers, hwithdraws,
    List.isEmpty_iff.mp hnone⟩

end Sentinel
