/-
# What the migration carries over

Every step of the migration keeps the rows it is given, in their order. A
rebuilt table holds each row once, its columns as they were; respelled
timestamps are the same instants; the notification history changes delivery
states, episodes and summaries only. So the steps compose to one relation
between a file of version 1 and the file of version 3 it becomes.

Key theorems: `carryRows_eq_ok`, `reattributed_migrateNotificationHistory`, `carried_migrateToV2`.
-/
import Sentinel.Store.Migrate
import Sentinel.Delivery.Attempts

namespace Sentinel

open Collections

/-! ### Carried rows -/

section Carry

variable {ρ ρ' κ κ' : Type} [DecidableEq κ'] {key : ρ → κ} {key' : ρ' → κ'} {f : ρ → Except StoreError ρ'}
  {table : Table key} {table' : Table key'}

/-- **A carried table holds every row once**, in order, as `f` writes it. -/
theorem carryRows_eq_ok (h : carryRows f table = .ok table') :
    List.Forall₂ (fun row row' => f row = .ok row') table.rows table'.rows := by
  simp only [carryRows, Fallible.bind_eq_ok_iff, constraint_eq_ok_iff] at h
  obtain ⟨rows, hrows, hinsert⟩ := h
  have hsame := (Table.insertAll_eq_some_iff.mp hinsert).2
  rw [Table.rows_empty, List.nil_append] at hsame
  rw [hsame]
  exact Fallible.mapM_eq_ok_iff.mp hrows

/-- What `f` leaves of a row, the table keeps of its rows. -/
theorem map_carryRows {β : Type} {g : ρ → β} {k : ρ' → β} (h : carryRows f table = .ok table')
    (hf : ∀ row row', f row = .ok row' → k row' = g row) : table'.rows.map k = table.rows.map g :=
  (Fallible.map_eq_map_of_forall₂ ((carryRows_eq_ok h).imp fun row row' hrow => (hf row row' hrow).symm)).symm

/-- Rows a step writes without failing are their images. -/
theorem rows_carryRows {ρ ρ' κ κ' : Type} [DecidableEq κ'] {key : ρ → κ} {key' : ρ' → κ'} {f : ρ → ρ'}
    {table : Table key} {table' : Table key'} (h : carryRows (fun row => .ok (f row)) table = .ok table') :
    table'.rows = table.rows.map f := by
  have hmap := map_carryRows (g := f) (k := id) h fun row row' hrow => (Except.ok.inj hrow).symm
  rwa [List.map_id] at hmap

end Carry

/-! ### What delivery may change -/

def EvaluationColumns.withoutDelivery (row : EvaluationColumns) : EvaluationColumns :=
  { row with evidence := row.evidence.map (·.withoutDelivery) }

/-- The latch, or what remains of its claim of delivery. -/
def LatchRecord.Disclaimed {τ : Type} (row row' : LatchRecord τ) : Prop :=
  row' = row ∨ row' = { row with alertDeliveryState := .unknown }

/-- The message, or what it becomes when its delivery is not confirmed. -/
def OutboxRecord.Quarantined (row row' : OutboxRecord Timestamp) : Prop :=
  row' = row ∨ row' = Tables.quarantinedRow row

theorem LatchRecord.Disclaimed.trans {τ : Type} {row row' row'' : LatchRecord τ} (h : row.Disclaimed row')
    (h' : row'.Disclaimed row'') : row.Disclaimed row'' := by
  rcases h with rfl | rfl
  · exact h'
  · rcases h' with rfl | rfl <;> exact .inr rfl

theorem OutboxRecord.Quarantined.trans {row row' row'' : OutboxRecord Timestamp} (h : row.Quarantined row')
    (h' : row'.Quarantined row'') : row.Quarantined row'' := by
  rcases h with rfl | rfl
  · exact h'
  · rcases h' with rfl | rfl <;> exact .inr rfl

namespace Tables

variable {υ : Type}

/-- The tables with other delivery states, episodes and summaries. -/
structure Reattributed (tables tables' : Tables Timestamp υ) : Prop where
  frame : tables' = { tables with
    conditionEvaluations := tables'.conditionEvaluations
    conditionState := tables'.conditionState
    notificationOutbox := tables'.notificationOutbox
    notificationConditions := tables'.notificationConditions }
  evaluations : tables'.conditionEvaluations.rows.map (·.toEvaluationColumns.withoutDelivery) =
    tables.conditionEvaluations.rows.map (·.toEvaluationColumns.withoutDelivery)
  latches : List.Forall₂ LatchRecord.Disclaimed tables.conditionState.rows tables'.conditionState.rows
  messages : List.Forall₂ OutboxRecord.Quarantined tables.notificationOutbox.rows tables'.notificationOutbox.rows
  members : tables'.notificationConditions.rows.map (·.toMemberColumns) =
    tables.notificationConditions.rows.map (·.toMemberColumns)

namespace Reattributed

theorem refl (tables : Tables Timestamp υ) : tables.Reattributed tables :=
  ⟨rfl, rfl, List.forall₂_same.mpr fun _ _ => .inl rfl, List.forall₂_same.mpr fun _ _ => .inl rfl, rfl⟩

theorem trans {tables tables' tables'' : Tables Timestamp υ} (h : tables.Reattributed tables')
    (h' : tables'.Reattributed tables'') : tables.Reattributed tables'' := by
  refine ⟨?_, h'.evaluations.trans h.evaluations, Fallible.forall₂_trans .trans h.latches h'.latches,
    Fallible.forall₂_trans .trans h.messages h'.messages, h'.members.trans h.members⟩
  rw [h'.frame, h.frame]

end Reattributed

/-- Changing an evaluation's delivery state or episode. -/
theorem reattributed_updateEvaluation {runId conditionId : String} {f : EvaluationRecord → EvaluationRecord}
    {hf : ∀ row, (f row).key = row.key} {tables : Tables Timestamp υ}
    (h : ∀ row ∈ tables.conditionEvaluations.rows, row.key = (runId, conditionId) →
      (f row).toEvaluationColumns.withoutDelivery = row.toEvaluationColumns.withoutDelivery) :
    tables.Reattributed (tables.updateEvaluation runId conditionId f hf) := by
  refine { Reattributed.refl tables with frame := rfl, evaluations := ?_ }
  rw [updateEvaluation, Table.map_rows_update h]

theorem reattributed_setEpisode (runId conditionId episode : String) (tables : Tables Timestamp υ) :
    tables.Reattributed (tables.setEpisode runId conditionId episode) :=
  reattributed_updateEvaluation fun _ _ _ => rfl

theorem reattributed_refreshEvaluation {runId conditionId episode : String} {state : AlertDeliveryState}
    {tables tables' : Tables Timestamp υ} (h : tables.refreshEvaluation runId conditionId episode state = .ok tables') :
    tables.Reattributed tables' := by
  unfold refreshEvaluation at h
  split at h
  · obtain rfl := Except.ok.inj h
    exact .refl _
  · rename_i row hfind
    split at h
    · simp only [readJson, Fallible.bind_eq_ok_iff, Fallible.mapError_eq_ok_iff] at h
      obtain ⟨evaluation, hevidence, h⟩ := h
      obtain rfl := Except.ok.inj h
      refine reattributed_updateEvaluation fun other hother hkey => ?_
      obtain ⟨hrow, hrowKey⟩ := Table.find?_eq_some_iff.mp hfind
      obtain rfl := tables.conditionEvaluations.eq_of_key_eq hother hrow (hkey.trans hrowKey.symm)
      simp only [EvaluationColumns.withoutDelivery, hevidence]
      rfl
    · obtain rfl := Except.ok.inj h
      exact .refl _

theorem reattributed_attributeMember {message : OutboxRecord Timestamp} {conditionId : String}
    {state state' : Tables Timestamp υ × List (Option String)}
    (h : attributeMember message state conditionId = .ok state') : state.1.Reattributed state'.1 := by
  simp only [attributeMember, Fallible.bind_eq_ok_iff] at h
  obtain ⟨summary, -, h⟩ := h
  obtain rfl := Except.ok.inj h
  refine Reattributed.trans ?_ (reattributed_setEpisode _ _ _ _)
  refine { Reattributed.refl state.1 with frame := rfl, members := ?_ }
  dsimp only
  rw [Table.map_rows_update]
  exact fun _ _ _ => rfl

theorem reattributed_quarantine (id : String) (tables : Tables Timestamp υ) :
    tables.Reattributed
      { tables with notificationOutbox := tables.notificationOutbox.update id quarantinedRow fun _ => rfl } := by
  refine { Reattributed.refl tables with frame := rfl, messages := Fallible.forall₂_map_self fun row => ?_ }
  split
  · exact .inr rfl
  · exact .inl rfl

theorem reattributed_disclaimLatch (conditionId episode : String) (tables : Tables Timestamp υ) :
    tables.Reattributed (tables.disclaimLatch conditionId episode) := by
  refine { Reattributed.refl tables with frame := rfl, latches := Fallible.forall₂_map_self fun latch => ?_ }
  split
  · dsimp only
    split
    · exact .inr rfl
    · exact .inl rfl
  · exact .inl rfl

theorem reattributed_settleMember {message : OutboxRecord Timestamp} {unconfirmed : Bool} {conditionId : String}
    {state state' : Tables Timestamp υ × List (String × String)}
    (h : settleMember message unconfirmed state conditionId = .ok state') : state.1.Reattributed state'.1 := by
  unfold settleMember at h
  split at h
  rename_i tables confirmed
  dsimp only at h
  cases unconfirmed with
  | true =>
    rw [if_pos rfl, Fallible.bind_eq_ok_iff] at h
    obtain ⟨settled, hsettled, h⟩ := h
    obtain rfl := Except.ok.inj h
    exact (reattributed_disclaimLatch ..).trans (reattributed_refreshEvaluation hsettled)
  | false =>
    rw [if_neg Bool.false_ne_true] at h
    obtain rfl := Except.ok.inj h
    exact .refl _

/-- One message of the history changes delivery states, episodes and summaries. -/
theorem reattributed_migrateMessage {message : OutboxRecord Timestamp}
    {state state' : Tables Timestamp υ × List (String × String)} (h : migrateMessage state message = .ok state') :
    state.1.Reattributed state'.1 := by
  simp only [migrateMessage, Fallible.bind_eq_ok_iff] at h
  obtain ⟨⟨attributed, summaries⟩, hattributed, h⟩ := h
  have hmembers : state.1.Reattributed attributed :=
    Fallible.foldlM_preserves (I := fun now : Tables Timestamp υ × List (Option String) => state.1.Reattributed now.1)
      (fun _ _ _ _ hnow hstep => hnow.trans (reattributed_attributeMember hstep)) (.refl _) hattributed
  have hsettled := Fallible.foldlM_preserves
    (I := fun now : Tables Timestamp υ × List (String × String) => attributed.Reattributed now.1)
    (fun _ _ _ _ hnow hstep => hnow.trans (reattributed_settleMember hstep)) ?_ h
  · exact hmembers.trans hsettled
  · dsimp only
    split
    · exact reattributed_quarantine _ _
    · exact .refl _

theorem reattributed_withdrawClaims (confirmed : List (String × String)) (tables : Tables Timestamp υ) :
    tables.Reattributed (tables.withdrawClaims confirmed) := by
  refine { Reattributed.refl tables with frame := rfl, latches := Fallible.forall₂_map_self fun latch => ?_ }
  split
  · exact .inr rfl
  · exact .inl rfl

theorem reattributed_refreshLatest {entry : String × LatchRecord Timestamp} {tables tables' : Tables Timestamp υ}
    (h : tables.refreshLatest entry = .ok tables') : tables.Reattributed tables' :=
  (reattributed_setEpisode ..).trans (reattributed_refreshEvaluation h)

/-- **The notification history** changes delivery states, episodes and
summaries, once every latch has its episode. -/
theorem reattributed_migrateNotificationHistory {tables tables' : Tables Timestamp υ}
    (h : tables.migrateNotificationHistory = .ok tables') : tables.nameEpisodes.Reattributed tables' := by
  simp only [migrateNotificationHistory, Fallible.bind_eq_ok_iff] at h
  obtain ⟨⟨settled, confirmed⟩, hsettled, h⟩ := h
  have hmessages := Fallible.foldlM_preserves
    (I := fun now : Tables Timestamp υ × List (String × String) => tables.nameEpisodes.Reattributed now.1)
    (fun _ _ _ _ hnow hstep => hnow.trans (reattributed_migrateMessage hstep)) (.refl _) hsettled
  have hlatest := Fallible.foldlM_preserves (I := fun now => (settled.withdrawClaims confirmed).Reattributed now)
    (fun _ _ _ _ hnow hstep => hnow.trans (reattributed_refreshLatest hstep)) (.refl _) h
  exact (hmessages.trans (reattributed_withdrawClaims ..)).trans hlatest

end Tables

/-! ### Version 1 becomes version 2 -/

section Carried

variable (packages : Packages)

theorem canonicalText_eq_ok {text : String} {instant : Timestamp} (h : canonicalText packages text = .ok instant) :
    packages.parseTimestamp text = some instant := by
  simp only [canonicalText, Fallible.bind_eq_ok_iff, Fallible.demand_eq_ok_iff] at h
  obtain ⟨parsed, hparsed, hcanonical⟩ := h
  rw [hparsed, canonicalTimestamp_eq_ok hcanonical]

theorem mapM_canonicalText_eq_ok {text : Option String} {instant : Option Timestamp}
    (h : text.mapM (canonicalText packages) = .ok instant) : text.map packages.parseTimestamp = instant.map some := by
  cases text with
  | none =>
    obtain rfl := Except.ok.inj h
    rfl
  | some text =>
    rw [Option.mapM_some] at h
    cases hrespelled : canonicalText packages text with
    | error error =>
      rw [hrespelled] at h
      cases h
    | ok respelled =>
      rw [hrespelled] at h
      obtain rfl := Except.ok.inj h
      rw [Option.map_some, canonicalText_eq_ok packages hrespelled]
      rfl

/-- A run with its timestamps respelled. -/
structure RunCarried (row : RunColumns String) (row' : RunRecord Timestamp) : Prop where
  startedAt : packages.parseTimestamp row.startedAt = some row'.startedAt
  completedAt : packages.parseTimestamp row.completedAt = some row'.completedAt
  columns : row'.toRunColumns = { row with startedAt := row'.startedAt, completedAt := row'.completedAt }
  deliveryActivity : row'.deliveryActivity = []

/-- An observation with its counters in text, inexact where they are
saturated. -/
structure ObservationCarried (row : LegacyObservation) (row' : ObservationRecord) : Prop where
  columns : row'.toObservationColumns = row.toObservationColumns
  queries : row'.queries = row.queries.map countText
  blocked : row'.blocked = row.blocked.map countText
  countersExact : row'.countersExact = false ↔
    row'.queries = some "9223372036854775807" ∨ row'.blocked = some "9223372036854775807"

/-- A latch with its timestamps respelled, in the episode of its last
transition. -/
structure LatchCarried (row : LatchColumns String) (row' : LatchRecord Timestamp) : Prop where
  firstObservedAt : row.firstObservedAt.map packages.parseTimestamp = row'.firstObservedAt.map some
  lastObservedAt : row.lastObservedAt.map packages.parseTimestamp = row'.lastObservedAt.map some
  columns : row'.toLatchColumns = { row with
    firstObservedAt := row'.firstObservedAt
    lastObservedAt := row'.lastObservedAt
    alertDeliveryState := row'.alertDeliveryState }
  delivery : row'.alertDeliveryState = row.alertDeliveryState ∨ row'.alertDeliveryState = .unknown
  episode : row'.episodeId = some (legacyEpisode (row.lastTransitionRun.getD "state") row.conditionId)

/-- A message with its timestamps respelled, or quarantined. -/
structure MessageCarried (row : LegacyMessage) (row' : OutboxRecord Timestamp) : Prop where
  createdAt : packages.parseTimestamp row.createdAt = some row'.createdAt
  deliveredAt : row.deliveredAt.map packages.parseTimestamp = row'.deliveredAt.map some
  columns : row'.toOutboxColumns = { row with
    createdAt := row'.createdAt
    deliveredAt := row'.deliveredAt
    status := row'.status
    nextRetryAt := row'.nextRetryAt
    errorClass := row'.errorClass }
  delivery : row'.status = row.status ∧ row'.errorClass = row.errorClass ∧
      row.nextRetryAt.map packages.parseTimestamp = row'.nextRetryAt.map some ∨
    row'.status = .unknown ∧ row'.errorClass = some "legacy_delivery_unconfirmed" ∧ row'.nextRetryAt = none
  attemptId : row'.attemptId = none

/-- An attempt with its timestamps respelled, made by the run of its message. -/
structure AttemptCarried (outbox : Table fun row : LegacyMessage => row.id) (row : LegacyAttempt)
    (row' : AttemptRecord Timestamp) : Prop where
  startedAt : packages.parseTimestamp row.startedAt = some row'.startedAt
  completedAt : some (packages.parseTimestamp row.completedAt) = row'.completedAt.map some
  columns : row'.toAttemptColumns = { row with startedAt := row'.startedAt }
  outcome : AttemptOutcome.decode row.outcome = some row'.outcome
  executingRunId : (outbox.find? row.notificationId).map (·.runId) = some row'.executingRunId

/-- **What becomes of the tables of version 1.** -/
structure Carried (source : LegacyTables UpstreamTable) (result : Tables Timestamp CountedUpstreamTable) : Prop where
  runs : List.Forall₂ (RunCarried packages) source.runs.rows result.runs.rows
  targetObservations : List.Forall₂ ObservationCarried source.targetObservations.rows result.targetObservations.rows
  upstreamObservations : result.upstreamObservations.rows = source.upstreamObservations.rows.map (·.rebuild)
  filterObservations : result.filterObservations.rows =
    source.filterObservations.rows.map fun row => ⟨row.toFilterColumns, countText row.rulesCount⟩
  rewriteObservations : result.rewriteObservations = source.rewriteObservations
  aggregateObservations : result.aggregateObservations.rows =
    source.aggregateObservations.rows.map fun row => ⟨row.toAggregateColumns, countText row.combinedQueries⟩
  conditionEvaluations : result.conditionEvaluations.rows.map (·.toEvaluationColumns.withoutDelivery) =
    source.conditionEvaluations.rows.map (·.withoutDelivery)
  conditionState : List.Forall₂ (LatchCarried packages) source.conditionState.rows result.conditionState.rows
  targetRuntimeState : result.targetRuntimeState = source.targetRuntimeState
  notificationOutbox : List.Forall₂ (MessageCarried packages) source.notificationOutbox.rows
    result.notificationOutbox.rows
  notificationConditions : result.notificationConditions.rows.map (·.toMemberColumns) =
    source.notificationConditions.rows
  notificationAttempts : List.Forall₂ (AttemptCarried packages source.notificationOutbox)
    source.notificationAttempts.rows result.notificationAttempts.rows

theorem RunCarried.of_steps {row : RunColumns String} {respelled row' : RunRecord Timestamp} {targets : List TargetReport}
    (hrespelled : row.rebuild.respell packages = .ok respelled)
    (hhealth : row' = { respelled with healthIssues := migratedIssues respelled targets }) : RunCarried packages row row' := by
  simp only [RunRecord.respell, Fallible.bind_eq_ok_iff] at hrespelled
  obtain ⟨started, hstarted, completed, hcompleted, hrespelled⟩ := hrespelled
  obtain rfl := Except.ok.inj hrespelled
  obtain rfl := hhealth
  exact ⟨canonicalText_eq_ok packages hstarted, canonicalText_eq_ok packages hcompleted, rfl, rfl⟩

theorem ObservationCarried.of_steps {row : LegacyObservation} {rebuilt : ObservationRecord}
    (h : row.rebuild = .ok rebuilt) : ObservationCarried row rebuilt.flagSaturated := by
  simp only [LegacyObservation.rebuild, Fallible.bind_eq_ok_iff] at h
  obtain ⟨_, -, h⟩ := h
  obtain rfl := Except.ok.inj h
  unfold ObservationRecord.flagSaturated saturatedText
  split
  case isTrue hsaturated => exact ⟨rfl, rfl, rfl, ⟨fun _ => hsaturated, fun _ => rfl⟩⟩
  case isFalse hexact => exact ⟨rfl, rfl, rfl, ⟨fun h => absurd h.symm Bool.false_ne_true, fun h => absurd h hexact⟩⟩

theorem LatchCarried.of_steps {row : LatchColumns String} {respelled row' : LatchRecord Timestamp}
    (hrespelled : row.rebuild.respell packages = .ok respelled)
    (hsettled : LatchRecord.Disclaimed { respelled with
      episodeId := some (legacyEpisode (respelled.lastTransitionRun.getD "state") respelled.conditionId) } row') :
    LatchCarried packages row row' := by
  simp only [LatchRecord.respell, Fallible.bind_eq_ok_iff] at hrespelled
  obtain ⟨first, hfirst, last, hlast, hrespelled⟩ := hrespelled
  obtain rfl := Except.ok.inj hrespelled
  have hfirst := mapM_canonicalText_eq_ok packages hfirst
  have hlast := mapM_canonicalText_eq_ok packages hlast
  rcases hsettled with rfl | rfl
  · exact ⟨hfirst, hlast, rfl, .inl rfl, rfl⟩
  · exact ⟨hfirst, hlast, rfl, .inr rfl, rfl⟩

theorem MessageCarried.of_steps {row : LegacyMessage} {respelled row' : OutboxRecord Timestamp}
    (hrespelled : row.rebuild.respell packages = .ok respelled) (hsettled : respelled.Quarantined row') :
    MessageCarried packages row row' := by
  simp only [OutboxRecord.respell, Fallible.bind_eq_ok_iff] at hrespelled
  obtain ⟨created, hcreated, retry, hretry, delivered, hdelivered, hrespelled⟩ := hrespelled
  obtain rfl := Except.ok.inj hrespelled
  have hcreated := canonicalText_eq_ok packages hcreated
  have hretry := mapM_canonicalText_eq_ok packages hretry
  have hdelivered := mapM_canonicalText_eq_ok packages hdelivered
  rcases hsettled with rfl | rfl
  · exact ⟨hcreated, hdelivered, rfl, .inl ⟨rfl, rfl, hretry⟩, rfl⟩
  · exact ⟨hcreated, hdelivered, rfl, .inr ⟨rfl, rfl, rfl⟩, rfl⟩

theorem AttemptCarried.of_steps {source : Table fun row : LegacyMessage => row.id}
    {outbox : Table fun row : OutboxRecord String => row.id} {row : LegacyAttempt} {rebuilt : AttemptRecord String}
    {row' : AttemptRecord Timestamp} (houtbox : outbox.rows = source.rows.map (·.rebuild))
    (hrebuilt : row.rebuild outbox = .ok rebuilt) (hrespelled : rebuilt.respell packages = .ok row') :
    AttemptCarried packages source row row' := by
  simp only [LegacyAttempt.rebuild, Fallible.bind_eq_ok_iff, constraint_eq_ok_iff] at hrebuilt
  obtain ⟨message, hmessage, outcome, houtcome, hrebuilt⟩ := hrebuilt
  obtain rfl := Except.ok.inj hrebuilt
  simp only [AttemptRecord.respell, Fallible.bind_eq_ok_iff] at hrespelled
  obtain ⟨started, hstarted, completed, hcompleted, hrespelled⟩ := hrespelled
  obtain rfl := Except.ok.inj hrespelled
  have hcompleted := mapM_canonicalText_eq_ok packages hcompleted
  refine ⟨canonicalText_eq_ok packages hstarted, hcompleted, rfl, houtcome, ?_⟩
  obtain ⟨hm, hid⟩ := Table.find?_eq_some_iff.mp hmessage
  rw [houtbox] at hm
  obtain ⟨original, horiginal, rfl⟩ := List.mem_map.mp hm
  have hfind : source.find? row.notificationId = some original := Table.find?_eq_some_iff.mpr ⟨horiginal, hid⟩
  rw [hfind]
  rfl

theorem runs_migrateHealth {tables tables' : Tables Timestamp CountedUpstreamTable}
    (h : tables.migrateHealth = .ok tables') : ∃ runs, tables' = { tables with runs } ∧
      List.Forall₂ (fun run run' => ∃ targets, run' = { run with healthIssues := migratedIssues run targets })
        tables.runs.rows runs.rows := by
  simp only [Tables.migrateHealth, Fallible.bind_eq_ok_iff] at h
  obtain ⟨runs, hruns, h⟩ := h
  refine ⟨runs, (Except.ok.inj h).symm, (carryRows_eq_ok hruns).imp fun run run' hrun => ?_⟩
  rw [Fallible.bind_eq_ok_iff] at hrun
  obtain ⟨targets, -, hrun⟩ := hrun
  exact ⟨targets, (Except.ok.inj hrun).symm⟩

theorem recordMigration_eq_ok {υ : Type} {checksum : ℤ → String} {appliedAt : ℤ → Timestamp} {version : ℤ}
    {tables tables' : Tables Timestamp υ} (h : tables.recordMigration checksum appliedAt version = .ok tables') :
    ∃ schemaMigrations, tables' = { tables with schemaMigrations } := by
  simp only [Tables.recordMigration, Fallible.bind_eq_ok_iff] at h
  obtain ⟨_, -, migrations, -, h⟩ := h
  exact ⟨migrations, (Except.ok.inj h).symm⟩

/-- The tables of version 1, rebuilt and respelled. -/
structure Respelled {υ : Type} (source : LegacyTables υ) (tables : Tables Timestamp υ) : Prop where
  runs : List.Forall₂ (fun row row' => row.rebuild.respell packages = .ok row') source.runs.rows tables.runs.rows
  targetObservations : List.Forall₂ (fun row row' => row.rebuild = .ok row') source.targetObservations.rows
    tables.targetObservations.rows
  upstreamObservations : tables.upstreamObservations = source.upstreamObservations
  filterObservations : tables.filterObservations.rows =
    source.filterObservations.rows.map fun row => ⟨row.toFilterColumns, countText row.rulesCount⟩
  rewriteObservations : tables.rewriteObservations = source.rewriteObservations
  aggregateObservations : tables.aggregateObservations.rows =
    source.aggregateObservations.rows.map fun row => ⟨row.toAggregateColumns, countText row.combinedQueries⟩
  conditionEvaluations : tables.conditionEvaluations.rows = source.conditionEvaluations.rows.map (·.rebuild)
  conditionState : List.Forall₂ (fun row row' => row.rebuild.respell packages = .ok row') source.conditionState.rows
    tables.conditionState.rows
  targetRuntimeState : tables.targetRuntimeState = source.targetRuntimeState
  notificationOutbox : List.Forall₂ (fun row row' => row.rebuild.respell packages = .ok row')
    source.notificationOutbox.rows tables.notificationOutbox.rows
  notificationConditions : tables.notificationConditions.rows = source.notificationConditions.rows.map (·.rebuild)
  notificationAttempts : List.Forall₂ (AttemptCarried packages source.notificationOutbox)
    source.notificationAttempts.rows tables.notificationAttempts.rows

theorem respelled_of_rebuild {υ : Type} {identity : Option RunMode} {source : LegacyTables υ}
    {rebuilt : Tables String υ} {tables : Tables Timestamp υ} (hrebuild : source.rebuild identity = .ok rebuilt)
    (hrespell : rebuilt.normalizeTimestamps packages = .ok tables) : Respelled packages source tables := by
  simp only [LegacyTables.rebuild, Fallible.bind_eq_ok_iff] at hrebuild
  obtain ⟨runs, hruns, targets, htargets, filters, hfilters, aggregates, haggregates, evaluations, hevaluations, latches,
    hlatches, outbox, houtbox, members, hmembers, attempts, hattempts, hrebuild⟩ := hrebuild
  obtain rfl := Except.ok.inj hrebuild
  simp only [Tables.normalizeTimestamps, Fallible.bind_eq_ok_iff] at hrespell
  obtain ⟨runs', hruns', outbox', houtbox', attempts', hattempts', latches', hlatches', migrations, -, hrespell⟩ := hrespell
  obtain rfl := Except.ok.inj hrespell
  have hruns' := carryRows_eq_ok hruns'
  have hlatches' := carryRows_eq_ok hlatches'
  have houtbox' := carryRows_eq_ok houtbox'
  rw [rows_carryRows hruns, List.forall₂_map_left_iff] at hruns'
  rw [rows_carryRows hlatches, List.forall₂_map_left_iff] at hlatches'
  rw [rows_carryRows houtbox, List.forall₂_map_left_iff] at houtbox'
  refine ⟨hruns', carryRows_eq_ok htargets, rfl, ?_, rfl, ?_, rows_carryRows hevaluations, hlatches', rfl, houtbox',
    rows_carryRows hmembers, ?_⟩
  · have hmap := map_carryRows (g := fun row : LegacyFilter => (⟨row.toFilterColumns, countText row.rulesCount⟩ : FilterRecord))
      (k := id) hfilters fun row row' hrow => by
        simp only [LegacyFilter.rebuild, Fallible.bind_eq_ok_iff] at hrow
        obtain ⟨_, -, hrow⟩ := hrow
        exact (Except.ok.inj hrow).symm
    rwa [List.map_id] at hmap
  · have hmap := map_carryRows
      (g := fun row : LegacyAggregate => (⟨row.toAggregateColumns, countText row.combinedQueries⟩ : AggregateRecord))
      (k := id) haggregates fun row row' hrow => by
        simp only [LegacyAggregate.rebuild, Fallible.bind_eq_ok_iff] at hrow
        obtain ⟨_, -, hrow⟩ := hrow
        exact (Except.ok.inj hrow).symm
    rwa [List.map_id] at hmap
  · exact Fallible.forall₂_trans (fun hrebuilt hrespelled => .of_steps packages (rows_carryRows houtbox) hrebuilt hrespelled)
      (carryRows_eq_ok hattempts) (carryRows_eq_ok hattempts')

/-- **The steps of a migration to version 2**: the tables are respelled, the
notification history is settled, the health of every run is derived. -/
theorem migrateToV2_eq_ok {checksum : ℤ → String} {appliedAt : ℤ → Timestamp}
    {source : LegacyTables CountedUpstreamTable} {result : Tables Timestamp CountedUpstreamTable}
    (h : source.migrateToV2 packages checksum appliedAt = .ok result) :
    ∃ respelled settled runs schemaMigrations, Respelled packages source respelled ∧
      respelled.flagSaturated.migrateNotificationHistory = .ok settled ∧
      List.Forall₂ (fun run run' => ∃ targets, run' = { run with healthIssues := migratedIssues run targets })
        settled.runs.rows runs.rows ∧
      result = { settled with runs, schemaMigrations } := by
  simp only [LegacyTables.migrateToV2, Fallible.bind_eq_ok_iff] at h
  obtain ⟨identity, -, rebuilt, hrebuild, respelled, hrespell, settled, hhistory, healthy, hhealth, hrecord⟩ := h
  obtain ⟨runs, rfl, hruns⟩ := runs_migrateHealth hhealth
  obtain ⟨schemaMigrations, hresult⟩ := recordMigration_eq_ok hrecord
  exact ⟨respelled, settled, runs, schemaMigrations, respelled_of_rebuild packages hrebuild hrespell, hhistory, hruns, hresult⟩

/-- The tables of version 1, with counted upstreams, are carried over. -/
theorem carried_migrateToV2 {checksum : ℤ → String} {appliedAt : ℤ → Timestamp} {source : LegacyTables UpstreamTable}
    {upstreams : CountedUpstreamTable} {result : Tables Timestamp CountedUpstreamTable}
    (hupstreams : upstreams.rows = source.upstreamObservations.rows.map (·.rebuild))
    (h : { source with upstreamObservations := upstreams }.migrateToV2 packages checksum appliedAt = .ok result) :
    Carried packages source result := by
  obtain ⟨respelled, settled, runs, migrations, hrespelled, hhistory, hhealthy, rfl⟩ := migrateToV2_eq_ok packages h
  have hsettled := Tables.reattributed_migrateNotificationHistory hhistory
  have hframe := hsettled.frame
  have hsameRuns : settled.runs = respelled.runs := by rw [hframe]; rfl
  have hsameTargets : settled.targetObservations.rows = respelled.targetObservations.rows.map (·.flagSaturated) := by
    rw [hframe]; rfl
  have hsameAttempts : settled.notificationAttempts = respelled.notificationAttempts := by rw [hframe]; rfl
  rw [hsameRuns] at hhealthy
  constructor
  · exact Fallible.forall₂_trans (fun hrow ⟨_, hhealth⟩ => .of_steps packages hrow hhealth) hrespelled.runs hhealthy
  · show List.Forall₂ ObservationCarried _ settled.targetObservations.rows
    rw [hsameTargets, List.forall₂_map_right_iff]
    exact hrespelled.targetObservations.imp fun _ _ hrow => .of_steps hrow
  · rw [hframe]
    exact hrespelled.upstreamObservations ▸ hupstreams
  · rw [hframe]
    exact hrespelled.filterObservations
  · rw [hframe]
    exact hrespelled.rewriteObservations
  · rw [hframe]
    exact hrespelled.aggregateObservations
  · refine hsettled.evaluations.trans ?_
    show respelled.conditionEvaluations.rows.map _ = _
    rw [hrespelled.conditionEvaluations, List.map_map]
    rfl
  · have hdisclaimed : List.Forall₂ LatchRecord.Disclaimed (respelled.conditionState.rows.map fun latch =>
        { latch with episodeId := some (legacyEpisode (latch.lastTransitionRun.getD "state") latch.conditionId) })
        settled.conditionState.rows := hsettled.latches
    rw [List.forall₂_map_left_iff] at hdisclaimed
    exact Fallible.forall₂_trans (fun hrow hlatch => .of_steps packages hrow hlatch) hrespelled.conditionState hdisclaimed
  · rw [hframe]
    exact hrespelled.targetRuntimeState
  · exact Fallible.forall₂_trans (fun hrow hmessage => .of_steps packages hrow hmessage) hrespelled.notificationOutbox
      hsettled.messages
  · refine hsettled.members.trans ?_
    show respelled.notificationConditions.rows.map _ = _
    rw [hrespelled.notificationConditions, List.map_map]
    exact List.map_id _
  · show List.Forall₂ _ _ settled.notificationAttempts.rows
    rw [hsameAttempts]
    exact hrespelled.notificationAttempts

end Carried

/-! ### The whole migration -/

/-- The tables of version 2 stay, but for the counts and the record of the
migration. -/
structure CountsAdded (source : Tables Timestamp UpstreamTable) (result : Tables Timestamp CountedUpstreamTable) : Prop where
  frame : result = { source with
    upstreamObservations := result.upstreamObservations
    schemaMigrations := result.schemaMigrations }
  upstreamObservations : result.upstreamObservations.rows = source.upstreamObservations.rows.map (·.rebuild)

/-- **What a file becomes**, by the version it had. -/
def StateFile.CarriedTo (packages : Packages) (file : StateFile) (result : Tables Timestamp CountedUpstreamTable) : Prop :=
  match file with
  | .v1 source => Carried packages source result
  | .v2 source => CountsAdded source result
  | .v3 _ => False

theorem finishMigration_eq_ok {checksum : ℤ → String} {appliedAt : ℤ → Timestamp}
    {tables tables' : Tables Timestamp CountedUpstreamTable}
    (h : tables.finishMigration checksum appliedAt = .ok tables') :
    ∃ schemaMigrations, tables' = { tables with schemaMigrations } := by
  simp only [Tables.finishMigration, Fallible.bind_eq_ok_iff] at h
  obtain ⟨recorded, hrecord, _, -, h⟩ := h
  obtain rfl := Except.ok.inj h
  exact recordMigration_eq_ok hrecord

/-- A migrated file has the run of every observation. -/
theorem runs_finishMigration {checksum : ℤ → String} {appliedAt : ℤ → Timestamp}
    {tables tables' : Tables Timestamp CountedUpstreamTable} (h : tables.finishMigration checksum appliedAt = .ok tables') :
    ∀ row ∈ tables'.targetObservations.rows, (tables'.runs.find? row.runId).isSome := by
  simp only [Tables.finishMigration, Fallible.bind_eq_ok_iff, Fallible.ensure_eq_ok_iff, decide_eq_true_eq] at h
  obtain ⟨recorded, -, _, hkeys, h⟩ := h
  obtain rfl := Except.ok.inj h
  intro row hrow
  simp only [Tables.brokenForeignKeys] at hkeys
  have hnone : recorded.targetObservations.rows.countP (fun row => (recorded.runs.find? row.runId).isNone) = 0 := by omega
  have hpresent := List.countP_eq_zero.mp hnone row hrow
  rwa [Option.isNone_iff_eq_none, ← ne_eq, Option.ne_none_iff_isSome] at hpresent

/-- **The migration carries over every table.** -/
theorem carriedTo_migrateTransaction {packages : Packages} {checksum : ℤ → String} {appliedAt : ℤ → Timestamp}
    {file : StateFile} {result : Tables Timestamp CountedUpstreamTable}
    (h : migrateTransaction packages checksum appliedAt file = .ok result) : file.CarriedTo packages result := by
  cases file with
  | v1 source =>
    simp only [migrateTransaction, Fallible.bind_eq_ok_iff] at h
    obtain ⟨upstreams, hupstreams, tables, hmigrate, hfinish⟩ := h
    have hcarried := carried_migrateToV2 packages (rows_carryRows hupstreams) hmigrate
    obtain ⟨migrations, rfl⟩ := finishMigration_eq_ok hfinish
    exact { hcarried with }
  | v2 source =>
    simp only [migrateTransaction, Fallible.bind_eq_ok_iff] at h
    obtain ⟨upstreams, hupstreams, hfinish⟩ := h
    obtain ⟨migrations, rfl⟩ := finishMigration_eq_ok hfinish
    exact ⟨rfl, rows_carryRows hupstreams⟩
  | v3 _ => cases h

/-- **A migration is one step**: it fails and leaves the file as it was, or
carries over every table. -/
theorem migrate_cases (packages : Packages) (checksum : ℤ → String) (appliedAt : ℤ → Timestamp) (version : ℤ)
    (file : StateFile) :
    (∃ error, migrate packages checksum appliedAt version file = ([], .error error)) ∨
      ∃ result, migrate packages checksum appliedAt version file = ([.v3 result], .ok ((), .v3 result)) ∧
        migrateTransaction packages checksum appliedAt file = .ok result := by
  rcases CrashTxn.read_commit_cases (fun file : StateFile => do
      Fallible.ensure (1 ≤ version ∧ version < 3) (.unsupportedVersion version)
      file.validate checksum version)
    (fun file => do return (.v3 (← migrateTransaction packages checksum appliedAt file), ())) file with
    herror | ⟨_, migrated, _, hmigrated, -, htransaction⟩
  · exact .inl herror
  · rw [Fallible.bind_eq_ok_iff] at htransaction
    obtain ⟨result, hresult, htransaction⟩ := htransaction
    obtain ⟨rfl, -⟩ := Prod.mk.inj (Except.ok.inj htransaction)
    exact .inr ⟨result, hmigrated, hresult⟩

end Sentinel
