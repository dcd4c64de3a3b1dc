/-
# Late results are confined to their episode

A message names the episodes of its members, and its result may be recorded
after other episodes of theirs have begun. Recording touches a latch, or a
stored evaluation, only where it is still in an episode the message names;
refreshing a run copies a latch's state only to an evaluation of its current
episode. So the delivery state of a condition is what its episode's own commits
and results say, in their order, whatever happened to other episodes.

Key theorems: `touches_recordNotificationAttempt`, `Chronicle.narrates`, `late_results_confined`.
-/
import Sentinel.Delivery.Histories

namespace Sentinel

open Collections

/-! ### Where stored evaluations change -/

/-- The delivery states of a run's evaluations are changed only where it is
allowed: of a condition, in an episode. -/
structure RunRow.Touched (allowed : String → Option String → Prop) (run run' : RunRow) : Prop where
  id : run'.id = run.id
  evaluations : ∀ conditionId evaluation, run.evaluations.find? conditionId = some evaluation →
    ∃ evaluation', run'.evaluations.find? conditionId = some evaluation' ∧
      evaluation'.episodeId = evaluation.episodeId ∧
      (evaluation'.evidence.notificationState = evaluation.evidence.notificationState ∨
        allowed conditionId evaluation.episodeId)

/-- The same of all stored runs. -/
def Touches (allowed : String → Option String → Prop) (store store' : StateStore) : Prop :=
  List.Forall₂ (RunRow.Touched allowed) store.runs.rows store'.runs.rows

section Touches

variable {allowed : String → Option String → Prop}

theorem RunRow.Touched.refl (run : RunRow) : run.Touched allowed run :=
  ⟨rfl, fun _ evaluation h => ⟨evaluation, h, rfl, .inl rfl⟩⟩

theorem RunRow.Touched.trans {run run' run'' : RunRow} (h : run.Touched allowed run') (h' : run'.Touched allowed run'') :
    run.Touched allowed run'' := by
  refine ⟨h'.id.trans h.id, fun conditionId evaluation hfind => ?_⟩
  obtain ⟨evaluation', hfind', hepisode, hstate⟩ := h.evaluations conditionId evaluation hfind
  obtain ⟨evaluation'', hfind'', hepisode', hstate'⟩ := h'.evaluations conditionId evaluation' hfind'
  refine ⟨evaluation'', hfind'', hepisode'.trans hepisode, ?_⟩
  rcases hstate' with hsame' | hallowed
  · rcases hstate with hsame | hallowed
    · exact .inl (hsame'.trans hsame)
    · exact .inr hallowed
  · rw [hepisode] at hallowed
    exact .inr hallowed

theorem RunRow.Touched.mono {allowed' : String → Option String → Prop} (himp : ∀ c e, allowed c e → allowed' c e)
    {run run' : RunRow} (h : run.Touched allowed run') : run.Touched allowed' run' := by
  refine ⟨h.id, fun conditionId evaluation hfind => ?_⟩
  obtain ⟨evaluation', hfind', hepisode, hstate⟩ := h.evaluations conditionId evaluation hfind
  exact ⟨evaluation', hfind', hepisode, hstate.imp_right (himp _ _)⟩

theorem Touches.refl (store : StateStore) : Touches allowed store store :=
  List.forall₂_same.mpr fun run _ => .refl run

theorem Touches.trans {store store' store'' : StateStore} (h : Touches allowed store store')
    (h' : Touches allowed store' store'') : Touches allowed store store'' :=
  Fallible.forall₂_trans .trans h h'

theorem Touches.mono {allowed' : String → Option String → Prop} (himp : ∀ c e, allowed c e → allowed' c e)
    {store store' : StateStore} (h : Touches allowed store store') : Touches allowed' store store' :=
  h.imp fun _ _ hrun => hrun.mono himp

namespace StateStore

variable {store store' : StateStore}

theorem touches_updateRun {runId : String} {f : RunRow → RunRow} {hf : ∀ run, (f run).id = run.id}
    (h : ∀ run ∈ store.runs.rows, run.id = runId → run.Touched allowed (f run)) :
    Touches allowed store (store.updateRun runId f hf) := by
  unfold Touches updateRun Table.update
  rw [Table.rows_modify, List.forall₂_map_right_iff, List.forall₂_same]
  intro run hrun
  by_cases hid : run.id = runId
  · rw [if_pos hid]
    exact h run hrun hid
  · rw [if_neg hid]
    exact .refl run

/-- A run with the same evaluations is not touched. -/
theorem touched_of_evaluations {run run' : RunRow} (hid : run'.id = run.id) (h : run'.evaluations = run.evaluations) :
    run.Touched allowed run' :=
  ⟨hid, fun _ evaluation hfind => ⟨evaluation, h ▸ hfind, rfl, .inl rfl⟩⟩

theorem touches_recordDeliveryActivity {runId : String} {activity : DeliveryActivity}
    (h : store.recordDeliveryActivity runId activity = .ok store') : Touches allowed store store' := by
  simp only [recordDeliveryActivity, Fallible.bind_eq_ok_iff] at h
  obtain ⟨run, -, h⟩ := h
  obtain rfl := Except.ok.inj h
  exact touches_updateRun fun _ _ _ => touched_of_evaluations rfl rfl

/-- **Refreshing an evaluation** touches it in its episode. -/
theorem touches_refreshEvaluation (store : StateStore) (runId conditionId episode : String) (state : AlertDeliveryState) :
    Touches (fun c e => c = conditionId ∧ e = some episode) store
      (store.refreshEvaluation runId conditionId episode state) := by
  unfold refreshEvaluation
  split
  case h_1 => exact .refl _
  case h_2 row hfound =>
    by_cases hepisode : row.episodeId = some episode
    · rw [if_pos hepisode]
      refine touches_updateRun fun run hrun hid => ⟨rfl, fun c evaluation hfind => ?_⟩
      have hstored : store.runs.find? runId = some run := Table.find?_eq_some_iff.mpr ⟨hrun, hid⟩
      rw [hstored, Option.bind_some] at hfound
      let after := { row.evidence with notificationState := state }
      refine ⟨if c = conditionId then { evaluation with evidence := after } else evaluation, ?_, ?_⟩
      · rw [Table.find?_update, hfind]
        rfl
      by_cases hsame : c = conditionId
      · subst hsame
        obtain rfl := Option.some.inj (hfound.symm.trans hfind)
        rw [if_pos rfl]
        exact ⟨rfl, .inr ⟨rfl, hepisode⟩⟩
      · rw [if_neg hsame]
        exact ⟨rfl, .inl rfl⟩
    · rw [if_neg hepisode]
      exact .refl _

/-- Settling members touches evaluations in their episodes. -/
theorem touches_settleMembers (runId : String) (state : AlertDeliveryState) :
    ∀ (members : List NotificationCondition) (store : StateStore),
      Touches (fun c e => ∃ member ∈ members, member.conditionId = c ∧ e = some member.episodeId) store
        (store.settleMembers runId members state)
  | [], store => .refl store
  | member :: members, store => by
    have hfirst := touches_refreshEvaluation (store.setDeliveryState member.conditionId member.episodeId state) runId
      member.conditionId member.episodeId state
    have hrest := touches_settleMembers runId state members
      ((store.setDeliveryState member.conditionId member.episodeId state).refreshEvaluation runId
        member.conditionId member.episodeId state)
    refine Touches.trans (Touches.mono ?_ hfirst) (Touches.mono ?_ hrest)
    · rintro c e ⟨rfl, he⟩
      exact ⟨member, List.mem_cons_self, rfl, he⟩
    · rintro c e ⟨other, hother, hof⟩
      exact ⟨other, List.mem_cons_of_mem _ hother, hof⟩

/-- The episode is one the message names for the condition. -/
def Named (row : OutboxRow) (conditionId : String) (episode : Option String) : Prop :=
  ∃ member ∈ row.members, member.conditionId = conditionId ∧ episode = some member.episodeId

/-- **Recording touches evaluations in the message's episodes**, and no others. -/
theorem touches_recordNotificationAttempt {attempt : NotificationAttempt} {completedAt : Timestamp}
    {outcome : NotificationAttemptOutcome} {report : NotificationReport} {row : OutboxRow}
    (found : store.notificationOutbox.find? attempt.message.id = some row)
    (h : store.recordNotificationAttempt attempt completedAt outcome = .ok (store', report)) :
    Touches (Named row) store store' := by
  simp only [recordNotificationAttempt, Fallible.bind_eq_ok_iff, constraint_eq_ok_iff] at h
  obtain ⟨completed, -, _, -, message, hmessage, row', hrow, _, -, _, -, next, -, recorded, hactivity, h⟩ := h
  simp only [loadOutboxMessage, Fallible.bind_eq_ok_iff, constraint_eq_ok_iff, OutboxRow.toMessage] at hmessage
  obtain ⟨other, hother, priority, -, hmessage⟩ := hmessage
  obtain rfl := Except.ok.inj hmessage
  have hid : other.id = attempt.message.id := (Table.find?_eq_some_iff.mp hother).2
  dsimp only at hrow hactivity
  rw [hid, found] at hrow
  obtain rfl := Option.some.inj hrow
  obtain ⟨rfl, -⟩ := Prod.mk.inj (Except.ok.inj h)
  have hsame : ∀ settled : StateStore, settled.runs = store.runs → Touches (Named row) store settled := by
    intro settled hruns
    unfold Touches
    rw [hruns]
    exact Touches.refl store
  have hrecorded : Touches (Named row) store recorded := by
    refine Touches.trans ?_ (touches_recordDeliveryActivity hactivity)
    split
    case h_1 state _ =>
      refine Touches.trans ?_ (touches_settleMembers other.runId state row.members _)
      exact hsame _ rfl
    case h_2 => exact hsame _ rfl
  split
  case isTrue => exact hrecorded.trans (touches_updateRun fun _ _ _ => touched_of_evaluations rfl rfl)
  case isFalse => exact hrecorded

/-- The episode is the condition's current one. -/
def IsCurrent (store : StateStore) (conditionId : String) (episode : Option String) : Prop :=
  ∃ latch, store.conditionState.find? conditionId = some latch ∧ latch.episodeId = episode ∧ episode ≠ none

/-- **Refreshing a run touches evaluations of current episodes**, and no others. -/
theorem touches_refreshRunDelivery {runId : String} (h : store.refreshRunDelivery runId = .ok store') :
    Touches (IsCurrent store) store store' := by
  obtain rfl := Except.ok.inj h
  refine List.foldlRecOn (motive := fun now => Touches (IsCurrent store) store now) _ _ (.refl store) ?_
  rintro now hnow ⟨conditionId, episode, state⟩ hmem
  refine hnow.trans (Touches.mono ?_ (touches_refreshEvaluation now runId conditionId episode state))
  rintro c e ⟨rfl, rfl⟩
  cases hrun : store.runs.find? runId with
  | none =>
    rw [hrun] at hmem
    cases hmem
  | some run =>
    rw [hrun] at hmem
    obtain ⟨row, -, hof⟩ := List.mem_filterMap.mp hmem
    obtain ⟨latch, hlatch, hof⟩ := Option.bind_eq_some_iff.mp hof
    obtain ⟨current, hcurrent, hof⟩ := Option.bind_eq_some_iff.mp hof
    split at hof
    · rename_i hepisode
      obtain ⟨rfl, hrest⟩ := Prod.mk.inj (Option.some.inj hof)
      obtain ⟨rfl, -⟩ := Prod.mk.inj hrest
      exact ⟨latch, hlatch, hepisode, Option.some_ne_none _⟩
    · cases hof

end StateStore

end Touches

/-! ### What an episode's delivery state is a function of -/

/-- What happens to a condition in an episode. -/
inductive EpisodeEvent where
  /-- The episode begins. -/
  | begins
  /-- A commit announces it, or its end; or would, if it did not suppress it. -/
  | announces (suppressed : Bool)
  /-- It ends without being announced. -/
  | recovers
  /-- A message that names it ends with this result. -/
  | settles (state : AlertDeliveryState)
  deriving DecidableEq

def EpisodeEvent.apply (delivery : AlertDeliveryState) : EpisodeEvent → AlertDeliveryState
  | begins => .never
  | announces suppressed => queuedState suppressed
  | recovers => withdrawnState delivery
  | settles state => state

/-- The delivery state of an episode with these events, in order. -/
def episodeDelivery (events : List EpisodeEvent) : AlertDeliveryState := events.foldl EpisodeEvent.apply .never

/-- What a change of a latch's lifecycle is to its episode. -/
def lifecycleEvents (before after : ConditionLifecycle) (announced : List EpisodeEvent) : List EpisodeEvent :=
  if before = .clear ∧ after ≠ .clear then .begins :: announced
  else if before ≠ .clear ∧ after = .clear ∧ announced = [] then [.recovers]
  else announced

/-- **A move of a latch is its events**, from whatever the episode had. -/
theorem LatchMove.apply_events {runId : String} {suppress : Bool} {view view' : LatchView} {kind : Option TransitionKind}
    {withdrawal : Withdrawal} (h : LatchMove runId suppress view view' kind withdrawal) {delivery : AlertDeliveryState}
    (hsame : view'.episode = view.episode → delivery = view.delivery) :
    (lifecycleEvents view.lifecycle view'.lifecycle (kind.toList.map fun _ => .announces suppress)).foldl
      EpisodeEvent.apply delivery = view'.delivery := by
  cases h with
  | idle =>
    obtain rfl := hsame rfl
    unfold lifecycleEvents
    rw [if_neg (by tauto), if_neg (by tauto)]
    rfl
  | begins => rfl
  | beginsFiring => rfl
  | fires => rfl
  | resolves => rfl
  | recovers lifecycle before episode latched =>
    obtain rfl := hsame rfl
    unfold lifecycleEvents
    rw [if_neg (by tauto), if_pos ⟨latched, rfl, rfl⟩]
    rfl

/-- What a commit did to a condition's latch. -/
def committedEvents (suppress : Bool) (store : StateStore) (committed : Committed) (conditionId : String) :
    List EpisodeEvent :=
  lifecycleEvents (latchView store conditionId).lifecycle (latchView committed.store conditionId).lifecycle
    ((committed.announcements.filter fun a => a.conditionId = conditionId).map fun _ => .announces suppress)

/-- The events of every episode, after a commit: those of the latches are added
to the episodes they are in. -/
def afterCommit (suppress : Bool) (store : StateStore) (committed : Committed)
    (events : String → String → List EpisodeEvent) (conditionId episode : String) : List EpisodeEvent :=
  if (latchView committed.store conditionId).episode = some episode then
    events conditionId episode ++ committedEvents suppress store committed conditionId
  else events conditionId episode

/-- The events of every episode, after a result: it is added to the episodes
its message names. -/
def afterResult (row : OutboxRow) (status : NotificationStatus) (events : String → String → List EpisodeEvent)
    (conditionId episode : String) : List EpisodeEvent :=
  if row.Holds conditionId episode then
    events conditionId episode ++ (deliveredState status row.transition).toList.map .settles
  else events conditionId episode

/-- **A chronicle**: what happened to every condition in every episode, and the
database it left. -/
inductive Chronicle : (String → String → List EpisodeEvent) → StateStore → Prop
  | start : Chronicle (fun _ _ => []) .empty
  | commit {events : String → String → List EpisodeEvent} {store : StateStore} {uuids : ℕ → String} {report : RunReport}
      {config : Config} {now : ℤ} {cutoff : Timestamp} {suppress : Bool} {committed : Committed}
      (chronicle : Chronicle events store)
      (ok : store.commitRun uuids report config now cutoff suppress = .ok committed) :
      Chronicle (afterCommit suppress store committed events) committed.store
  | claim {events : String → String → List EpisodeEvent} {store store' : StateStore}
      {uuid messageId executingRunId : String} {startedAt : Timestamp} {attempt : NotificationAttempt}
      (chronicle : Chronicle events store)
      (ok : store.beginNotificationAttempt uuid messageId startedAt executingRunId = .ok (store', attempt)) :
      Chronicle events store'
  | record {events : String → String → List EpisodeEvent} {store store' : StateStore} {attempt : NotificationAttempt}
      {completedAt : Timestamp} {outcome : NotificationAttemptOutcome} {report : NotificationReport} {row : OutboxRow}
      (chronicle : Chronicle events store) (found : store.notificationOutbox.find? attempt.message.id = some row)
      (ok : store.recordNotificationAttempt attempt completedAt outcome = .ok (store', report)) :
      Chronicle (afterResult row outcome.status events) store'
  | recover {events : String → String → List EpisodeEvent} {store store' : StateStore} {recoveredAt : Timestamp}
      {interrupted row : OutboxRow} {activity : DeliveryActivity} (chronicle : Chronicle events store)
      (found : store.notificationOutbox.find? interrupted.id = some row)
      (ok : StateStore.recoverAttempt recoveredAt interrupted store = .ok (store', activity)) :
      Chronicle (afterResult row .unknown events) store'
  | refresh {events : String → String → List EpisodeEvent} {store store' : StateStore} {runId : String}
      (chronicle : Chronicle events store) (ok : store.refreshRunDelivery runId = .ok store') : Chronicle events store'

/-- The delivery state of every current episode is that of its events. -/
def Narrates (events : String → String → List EpisodeEvent) (store : StateStore) : Prop :=
  ∀ conditionId episode, (latchView store conditionId).episode = some episode →
    (latchView store conditionId).delivery = episodeDelivery (events conditionId episode)

theorem Narrates.of_latches {events : String → String → List EpisodeEvent} {store store' : StateStore}
    (h : Narrates events store) (hlatches : store'.conditionState = store.conditionState) : Narrates events store' := by
  unfold Narrates latchView
  rw [hlatches]
  exact h

/-- A commit is told by its events. -/
theorem Narrates.commit {events : String → String → List EpisodeEvent} {store : StateStore} {report : RunReport}
    {suppress : Bool} {cutoff : Timestamp} {committed : Committed} {latching : Latching} {persisted : StateStore}
    (h : Narrates events store) (hcommitted : IsCommitted report suppress cutoff store committed latching persisted) :
    Narrates (afterCommit suppress store committed events) committed.store := by
  intro conditionId episode hepisode
  obtain ⟨kind, withdrawal, hmove, hqueued⟩ := hcommitted.moves conditionId
  have hannounced : (committed.announcements.filter fun a => a.conditionId = conditionId).map
      (fun _ => EpisodeEvent.announces suppress) = kind.toList.map fun _ => .announces suppress := by
    rw [hqueued, List.map_map]
    rfl
  unfold afterCommit committedEvents
  rw [if_pos hepisode, hannounced, episodeDelivery, List.foldl_append]
  refine (hmove.apply_events fun hsame => ?_).symm
  exact (h conditionId episode (hsame ▸ hepisode)).symm

/-- A result is told by its event. -/
theorem Narrates.record {events : String → String → List EpisodeEvent} {store store' : StateStore}
    {attempt : NotificationAttempt} {completedAt : Timestamp} {outcome : NotificationAttemptOutcome}
    {report : NotificationReport} {row : OutboxRow} (h : Narrates events store)
    (found : store.notificationOutbox.find? attempt.message.id = some row)
    (ok : store.recordNotificationAttempt attempt completedAt outcome = .ok (store', report)) :
    Narrates (afterResult row outcome.status events) store' := by
  obtain ⟨other, next, outbox, runs, states, hfind, -, -, -, -, -, -, hstates, hstore⟩ :=
    StateStore.recordNotificationAttempt_eq_ok ok
  obtain rfl := Option.some.inj (found.symm.trans hfind)
  intro conditionId episode hepisode
  have hsettled : ∀ conditionId, store'.conditionState.find? conditionId = (store.conditionState.find? conditionId).map
      (StateStore.settledLatch row.members (deliveredState outcome.status row.transition)) := by
    rw [hstore]
    exact hstates
  have hview := latchView_settled hsettled conditionId
  rw [hview] at hepisode ⊢
  rw [(settledView_frame ..).2] at hepisode
  have hbefore := h conditionId episode hepisode
  have hnamed : (∃ a ∈ row.announcements, a.conditionId = conditionId ∧
      (latchView store conditionId).episode = some a.episodeId) ↔ row.Holds conditionId episode := by
    rw [hepisode]
    constructor
    · rintro ⟨a, ha, rfl, he⟩
      obtain rfl := Option.some.inj he
      exact (mem_announcements.mp ha).2
    · intro hholds
      exact ⟨⟨conditionId, episode, row.transition⟩, mem_announcements.mpr ⟨rfl, hholds⟩, rfl, rfl⟩
  unfold afterResult settledView
  simp only [hnamed]
  by_cases hholds : row.Holds conditionId episode
  · rw [if_pos hholds, episodeDelivery, List.foldl_append]
    cases deliveredState outcome.status row.transition with
    | none => exact hbefore
    | some state =>
      simp only [if_pos hholds]
      rfl
  · rw [if_neg hholds]
    cases deliveredState outcome.status row.transition with
    | none => exact hbefore
    | some state =>
      simp only [if_neg hholds]
      exact hbefore

/-- **Every chronicle narrates its database.** -/
theorem Chronicle.narrates {events : String → String → List EpisodeEvent} {store : StateStore}
    (chronicle : Chronicle events store) : Narrates events store := by
  induction chronicle with
  | start => exact fun _ _ hepisode => nomatch hepisode
  | commit _ ok ih =>
    obtain ⟨latching, persisted, hcommitted⟩ := commitRun_eq_ok ok
    exact ih.commit hcommitted
  | claim _ ok ih =>
    obtain ⟨row, _, _, _, -, -, -, -, -, hstore⟩ := StateStore.beginNotificationAttempt_eq_ok ok
    exact ih.of_latches (by rw [hstore])
  | record _ found ok ih => exact ih.record found ok
  | recover _ found ok ih =>
    obtain ⟨attempt, report, hid, hrecord⟩ := StateStore.recoverAttempt_eq_ok ok
    exact ih.record (hid ▸ found) hrecord
  | refresh _ ok ih =>
    obtain ⟨⟨runs, hstore⟩, -⟩ := StateStore.refreshRunDelivery_eq_ok ok
    exact ih.of_latches (by rw [hstore])

/-! ### Confined results -/

/-- What a result of a message may change: the latches and the stored
evaluations that are in one of its episodes. -/
structure Confined (row : OutboxRow) (store store' : StateStore) : Prop where
  latches : ∀ conditionId latch, store.conditionState.find? conditionId = some latch →
    ∃ latch', store'.conditionState.find? conditionId = some latch' ∧ latch'.episodeId = latch.episodeId ∧
      (latch'.alertDeliveryState = latch.alertDeliveryState ∨ StateStore.Named row conditionId latch.episodeId)
  evaluations : Touches (StateStore.Named row) store store'

theorem confined_recordNotificationAttempt {store store' : StateStore} {attempt : NotificationAttempt}
    {completedAt : Timestamp} {outcome : NotificationAttemptOutcome} {report : NotificationReport} {row : OutboxRow}
    (found : store.notificationOutbox.find? attempt.message.id = some row)
    (ok : store.recordNotificationAttempt attempt completedAt outcome = .ok (store', report)) :
    Confined row store store' := by
  refine ⟨fun conditionId latch hlatch => ?_, StateStore.touches_recordNotificationAttempt found ok⟩
  obtain ⟨other, next, outbox, runs, states, hfind, -, -, -, -, -, -, hstates, hstore⟩ :=
    StateStore.recordNotificationAttempt_eq_ok ok
  obtain rfl := Option.some.inj (found.symm.trans hfind)
  have hid : latch.id = conditionId := (Table.find?_eq_some_iff.mp hlatch).2
  refine ⟨StateStore.settledLatch row.members (deliveredState outcome.status row.transition) latch, ?_, ?_⟩
  · rw [hstore]
    show states.find? conditionId = _
    rw [hstates, hlatch]
    rfl
  · unfold StateStore.settledLatch
    split
    case h_1 state _ =>
      split
      case isTrue hnamed =>
        obtain ⟨member, hmember, hcondition, hepisode⟩ := hnamed
        exact ⟨rfl, .inr ⟨member, hmember, hcondition.trans hid, hepisode⟩⟩
      case isFalse => exact ⟨rfl, .inl rfl⟩
    case h_2 => exact ⟨rfl, .inl rfl⟩

/-- **Late results are confined to their episode.** In every interleaving of
commits, claims, results, recoveries and refreshes, the delivery state of a
condition's current episode is that of the episode's own events; recording a
result, however late, changes a latch or a stored evaluation only in an episode
its message names, and refreshing changes only evaluations of current episodes. -/
theorem late_results_confined {events : String → String → List EpisodeEvent} {store : StateStore}
    (chronicle : Chronicle events store) :
    (∀ (attempt : NotificationAttempt) (completedAt : Timestamp) (outcome : NotificationAttemptOutcome)
      (store' : StateStore) (report : NotificationReport),
      store.recordNotificationAttempt attempt completedAt outcome = .ok (store', report) →
      ∃ row, store.notificationOutbox.find? attempt.message.id = some row ∧ Confined row store store') ∧
    (∀ (recoveredAt : Timestamp) (interrupted : OutboxRow) (store' : StateStore) (activity : DeliveryActivity),
      StateStore.recoverAttempt recoveredAt interrupted store = .ok (store', activity) →
      ∃ row, store.notificationOutbox.find? interrupted.id = some row ∧ Confined row store store') ∧
    (∀ (runId : String) (store' : StateStore), store.refreshRunDelivery runId = .ok store' →
      store'.conditionState = store.conditionState ∧ Touches (StateStore.IsCurrent store) store store') ∧
    ∀ (conditionId episode : String) (latch : ConditionState), store.conditionState.find? conditionId = some latch →
      latch.episodeId = some episode → latch.alertDeliveryState = episodeDelivery (events conditionId episode) := by
  refine ⟨fun attempt completedAt outcome store' report ok => ?_, fun recoveredAt interrupted store' activity ok => ?_,
    fun runId store' ok => ?_, fun conditionId episode latch hlatch hepisode => ?_⟩
  · obtain ⟨row, _, _, _, _, found, -⟩ := StateStore.recordNotificationAttempt_eq_ok ok
    exact ⟨row, found, confined_recordNotificationAttempt found ok⟩
  · obtain ⟨attempt, report, hid, hrecord⟩ := StateStore.recoverAttempt_eq_ok ok
    obtain ⟨row, _, _, _, _, found, -⟩ := StateStore.recordNotificationAttempt_eq_ok hrecord
    exact ⟨row, hid ▸ found, confined_recordNotificationAttempt found hrecord⟩
  · obtain ⟨⟨runs, hstore⟩, -⟩ := StateStore.refreshRunDelivery_eq_ok ok
    exact ⟨by rw [hstore], StateStore.touches_refreshRunDelivery ok⟩
  · have hview : latchView store conditionId = latch.view := by
      unfold latchView
      rw [hlatch]
    have hnarrates := chronicle.narrates conditionId episode
    rw [hview] at hnarrates
    exact hnarrates hepisode

/-- The stages of an alert whose delivery is confirmed in a later episode. -/
structure LateAlert where
  first : Committed
  claimed : StateStore
  cleared : Committed
  again : Committed
  recorded : StateStore

def lateAlert : Except StoreError LateAlert := do
  let first ← StateStore.empty.commitRun (fun _ => "message") (apiReport "first" .active 1) apiConfig 1 (second 0) false
  let (claimed, attempt) ← first.store.beginNotificationAttempt "attempt" "message" (second 2) "first"
  let cleared ← claimed.commitRun (fun _ => "unused") (apiReport "second" .clear 3) apiConfig 3 (second 0) false
  let again ← cleared.store.commitRun (fun _ => "next") (apiReport "third" .active 4) apiConfig 4 (second 0) false
  let (recorded, _) ← again.store.recordNotificationAttempt attempt (second 5) (.delivered 200 "request")
  return ⟨first, claimed, cleared, again, recorded⟩

/-- The alert of the first episode is delivered when the third run has begun
another: that one stays pending. -/
theorem late_results_confined_alert : ∃ events store latch, Chronicle events store ∧
    store.conditionState.find? "target:one:api" = some latch ∧ latch.episodeId = some "third" ∧
    latch.alertDeliveryState = .pending ∧ episodeDelivery (events "target:one:api" "third") = .pending := by
  have hany : lateAlert.toOption.any (fun late => (late.recorded.conditionState.find? "target:one:api").any
      fun latch => decide (latch.episodeId = some "third" ∧ latch.alertDeliveryState = .pending)) = true := by
    decide +kernel
  obtain ⟨late, hlate, hrun⟩ := Fallible.ok_of_any hany
  obtain ⟨latch, hlatch, hstates⟩ := (Option.any_eq_true _ _).mp hrun
  obtain ⟨hepisode, hpending⟩ := of_decide_eq_true hstates
  simp only [lateAlert, Fallible.bind_eq_ok_iff] at hlate
  obtain ⟨first, hfirst, ⟨claimed, attempt⟩, hclaim, cleared, hcleared, again, hagain, ⟨recorded, report⟩, hrecord,
    hlate⟩ := hlate
  obtain rfl := Except.ok.inj hlate
  obtain ⟨row, _, _, _, _, found, -⟩ := StateStore.recordNotificationAttempt_eq_ok hrecord
  have hchronicle := ((((Chronicle.start.commit hfirst).claim hclaim).commit hcleared).commit hagain).record found hrecord
  have hdelivery := (late_results_confined hchronicle).2.2.2 "target:one:api" "third" latch hlatch hepisode
  exact ⟨_, _, latch, hchronicle, hlatch, hepisode, hpending, hdelivery.symm.trans hpending⟩

end Sentinel
