/-
# Migrated deliveries are proved deliveries

The migration believes a delivered message when its text is exactly the
summaries recorded for its members and an attempt was accepted under its
request id; any other message that is not final is of unknown delivery
afterwards, and a latch stays delivered by an alert that does. What decides a
message is read from columns the history does not change, so the verdict is the
same before, during and after the pass.

Key theorems: `migrateMessage_eq_ok`, `migrateNotificationHistory_eq_ok`, `migration_conservative`.
-/
import Sentinel.Delivery.Histories
import Sentinel.Migration.Carried

namespace Sentinel

open Collections

namespace Tables

variable {υ : Type}

/-! ### The verdict on a message -/

/-- The history leaves the message unconfirmed. -/
def quarantines (message : OutboxRecord Timestamp) (tables : Tables Timestamp υ) : Except StoreError Bool := do
  let members := tables.memberIds message.id
  let summaries ← members.mapM fun conditionId => tables.recordedSummary message.runId conditionId
  return isUnconfirmed message.status (isVisible message members summaries) (tables.isAcknowledged message)

/-- The message is an alert with the member, and its delivery is proved. -/
structure Confirms (tables : Tables Timestamp υ) (message : OutboxRecord Timestamp) (conditionId episode : String) :
    Prop where
  status : message.status = .delivered
  transition : message.transition = .alert
  proved : tables.quarantines message = .ok false
  member : conditionId ∈ tables.memberIds message.id
  episode : episode = legacyEpisode message.runId conditionId

namespace Reattributed

variable {tables tables' : Tables Timestamp υ}

theorem memberIds (h : tables.Reattributed tables') (notificationId : String) :
    tables'.memberIds notificationId = tables.memberIds notificationId := by
  have hcolumns : ∀ tables : Tables Timestamp υ, tables.memberIds notificationId =
      orderBy id (((tables.notificationConditions.rows.map (·.toMemberColumns)).filter
        (·.notificationId = notificationId)).map (·.conditionId)) := by
    intro tables
    rw [List.filter_map, List.map_map]
    rfl
  rw [hcolumns, hcolumns, h.members]

theorem recordedSummary (h : tables.Reattributed tables') (runId conditionId : String) :
    tables'.recordedSummary runId conditionId = tables.recordedSummary runId conditionId := by
  have hcolumns : ∀ tables : Tables Timestamp υ, tables.recordedSummary runId conditionId =
      ((tables.conditionEvaluations.rows.map (·.toEvaluationColumns.withoutDelivery)).find?
        (·.key = (runId, conditionId))).mapM fun row => do return (← readJson row.evidence).summary := by
    intro tables
    rw [List.find?_map]
    show (tables.conditionEvaluations.rows.find? (·.key = (runId, conditionId))).mapM _ =
      ((tables.conditionEvaluations.rows.find? (·.key = (runId, conditionId))).map _).mapM _
    cases tables.conditionEvaluations.rows.find? (·.key = (runId, conditionId)) with
    | none => rfl
    | some row =>
      rw [Option.map_some, Option.mapM_some, Option.mapM_some]
      unfold EvaluationColumns.withoutDelivery
      cases row.evidence <;> rfl
  rw [hcolumns, hcolumns, h.evaluations]

theorem isAcknowledged (h : tables.Reattributed tables') (message : OutboxRecord Timestamp) :
    tables'.isAcknowledged message = tables.isAcknowledged message := by
  rw [h.frame]
  rfl

theorem quarantines (h : tables.Reattributed tables') (message : OutboxRecord Timestamp) :
    tables'.quarantines message = tables.quarantines message := by
  unfold Tables.quarantines
  simp only [h.memberIds, h.recordedSummary, h.isAcknowledged]

end Reattributed

/-! ### One message -/

theorem refreshEvaluation_frame {runId conditionId episode : String} {state : AlertDeliveryState}
    {tables tables' : Tables Timestamp υ} (h : tables.refreshEvaluation runId conditionId episode state = .ok tables') :
    tables' = { tables with conditionEvaluations := tables'.conditionEvaluations } := by
  unfold refreshEvaluation at h
  split at h
  · obtain rfl := Except.ok.inj h
    rfl
  · split at h
    · rw [Fallible.bind_eq_ok_iff] at h
      obtain ⟨_, -, h⟩ := h
      obtain rfl := Except.ok.inj h
      rfl
    · obtain rfl := Except.ok.inj h
      rfl

/-- Attributing members reads their recorded summaries, and changes no message
and no latch. -/
theorem foldlM_attributeMember {message : OutboxRecord Timestamp} {tables : Tables Timestamp υ} :
    ∀ {members : List String} {state state' : Tables Timestamp υ × List (Option String)},
      tables.Reattributed state.1 → members.foldlM (attributeMember message) state = .ok state' →
      ∃ summaries, members.mapM (fun conditionId => tables.recordedSummary message.runId conditionId) = .ok summaries ∧
        state'.2 = state.2 ++ summaries ∧ tables.Reattributed state'.1 ∧
        state'.1.notificationOutbox = state.1.notificationOutbox
  | [], state, state', h, hfold => by
    obtain rfl := Except.ok.inj hfold
    exact ⟨[], rfl, (List.append_nil _).symm, h, rfl⟩
  | conditionId :: members, state, state', h, hfold => by
    rw [List.foldlM_cons, Fallible.bind_eq_ok_iff] at hfold
    obtain ⟨next, hnext, hfold⟩ := hfold
    obtain ⟨summaries, hsummaries, hstate, hreattributed, houtbox⟩ :=
      foldlM_attributeMember (h.trans (reattributed_attributeMember hnext)) hfold
    simp only [attributeMember, Fallible.bind_eq_ok_iff] at hnext
    obtain ⟨summary, hsummary, hnext⟩ := hnext
    obtain rfl := Except.ok.inj hnext
    rw [h.recordedSummary] at hsummary
    refine ⟨summary :: summaries, ?_, ?_, hreattributed, houtbox⟩
    · rw [List.mapM_cons, hsummary, hsummaries]
      rfl
    · rw [hstate, List.append_assoc]
      rfl

/-- Settling members confirms all of them or none, and changes no message. -/
theorem foldlM_settleMember {message : OutboxRecord Timestamp} {unconfirmed : Bool} :
    ∀ {members : List String} {state state' : Tables Timestamp υ × List (String × String)},
      members.foldlM (settleMember message unconfirmed) state = .ok state' →
      state'.1.notificationOutbox = state.1.notificationOutbox ∧
        ∀ entry ∈ state'.2, entry ∈ state.2 ∨ message.status = .delivered ∧ message.transition = .alert ∧
          unconfirmed = false ∧ entry.1 ∈ members ∧ entry.2 = legacyEpisode message.runId entry.1
  | [], state, state', h => by
    obtain rfl := Except.ok.inj h
    exact ⟨rfl, fun _ hentry => .inl hentry⟩
  | conditionId :: members, state, state', h => by
    rw [List.foldlM_cons, Fallible.bind_eq_ok_iff] at h
    obtain ⟨next, hnext, h⟩ := h
    obtain ⟨houtbox, hentries⟩ := foldlM_settleMember h
    have hstep : next.1.notificationOutbox = state.1.notificationOutbox ∧
        next.2 = if message.status = .delivered && message.transition = .alert && !unconfirmed
          then state.2 ++ [(conditionId, legacyEpisode message.runId conditionId)] else state.2 := by
      unfold settleMember at hnext
      dsimp only at hnext
      cases unconfirmed with
      | true =>
        rw [if_pos rfl, Fallible.bind_eq_ok_iff] at hnext
        obtain ⟨tables, hrefresh, hnext⟩ := hnext
        obtain rfl := Except.ok.inj hnext
        refine ⟨?_, rfl⟩
        rw [refreshEvaluation_frame hrefresh]
        rfl
      | false =>
        rw [if_neg Bool.false_ne_true] at hnext
        obtain rfl := Except.ok.inj hnext
        exact ⟨rfl, rfl⟩
    refine ⟨houtbox.trans hstep.1, fun entry hentry => ?_⟩
    rcases hentries entry hentry with hnew | ⟨hstatus, htransition, hconfirmed, hmember, hepisode⟩
    · rw [hstep.2] at hnew
      split at hnew
      case isTrue hconfirms =>
        simp only [Bool.and_eq_true, decide_eq_true_eq, Bool.not_eq_true'] at hconfirms
        obtain ⟨⟨hstatus, htransition⟩, hconfirmed⟩ := hconfirms
        rcases List.mem_append.mp hnew with hold | hown
        · exact .inl hold
        · obtain rfl := List.mem_singleton.mp hown
          exact .inr ⟨hstatus, htransition, hconfirmed, List.mem_cons_self, rfl⟩
      case isFalse => exact .inl hnew
    · exact .inr ⟨hstatus, htransition, hconfirmed, List.mem_cons_of_mem _ hmember, hepisode⟩

/-- **One message of the history**: the verdict quarantines it or confirms its
members. -/
theorem migrateMessage_eq_ok {message : OutboxRecord Timestamp} {state state' : Tables Timestamp υ × List (String × String)}
    (h : migrateMessage state message = .ok state') :
    ∃ unconfirmed, state.1.quarantines message = .ok unconfirmed ∧
      state'.1.notificationOutbox.rows = (if unconfirmed
        then (state.1.notificationOutbox.update message.id quarantinedRow fun _ => rfl).rows
        else state.1.notificationOutbox.rows) ∧
      ∀ entry ∈ state'.2, entry ∈ state.2 ∨ state.1.Confirms message entry.1 entry.2 := by
  simp only [migrateMessage, Fallible.bind_eq_ok_iff] at h
  obtain ⟨⟨attributed, summaries⟩, hattributed, h⟩ := h
  obtain ⟨recorded, hrecorded, hsummaries, hreattributed, houtbox⟩ := foldlM_attributeMember (.refl _) hattributed
  dsimp only at hrecorded hsummaries hreattributed houtbox h
  obtain rfl : summaries = recorded := hsummaries.trans (List.nil_append _)
  have hverdict : state.1.quarantines message = .ok (isUnconfirmed message.status
      (isVisible message (state.1.memberIds message.id) summaries) (attributed.isAcknowledged message)) := by
    unfold quarantines
    dsimp only
    rw [hrecorded, hreattributed.isAcknowledged]
    rfl
  obtain ⟨hsettled, hentries⟩ := foldlM_settleMember h
  refine ⟨_, hverdict, ?_, fun entry hentry => ?_⟩
  · rw [hsettled]
    dsimp only
    split
    · show (attributed.notificationOutbox.update message.id quarantinedRow fun _ => rfl).rows = _
      rw [houtbox]
    · rw [houtbox]
  · rcases hentries entry hentry with hold | ⟨hstatus, htransition, hconfirmed, hmember, hepisode⟩
    · exact .inl hold
    · exact .inr ⟨hstatus, htransition, hconfirmed ▸ hverdict, hmember, hepisode⟩

/-! ### The whole history -/

/-- The row of a message, as its verdict leaves it. -/
def Judged (tables : Tables Timestamp υ) (message row : OutboxRecord Timestamp) : Prop :=
  ∃ unconfirmed, tables.quarantines message = .ok unconfirmed ∧ row = if unconfirmed then quarantinedRow message else message

/-- The row of a message once those of `done` are judged. -/
def JudgedOf (tables : Tables Timestamp υ) (done : List (OutboxRecord Timestamp)) (message row : OutboxRecord Timestamp) :
    Prop :=
  (message ∈ done → tables.Judged message row) ∧ (message ∉ done → row = message)

theorem JudgedOf.id {tables : Tables Timestamp υ} {done : List (OutboxRecord Timestamp)}
    {message row : OutboxRecord Timestamp} (h : tables.JudgedOf done message row) : row.id = message.id := by
  by_cases hm : message ∈ done
  · obtain ⟨unconfirmed, -, rfl⟩ := h.1 hm
    cases unconfirmed <;> rfl
  · rw [h.2 hm]

/-- Judging a message again changes nothing. -/
theorem JudgedOf.step {tables : Tables Timestamp υ} {done : List (OutboxRecord Timestamp)}
    {message other row : OutboxRecord Timestamp} {unconfirmed : Bool} (h : tables.JudgedOf done other row)
    (hverdict : tables.quarantines message = .ok unconfirmed) (hsame : other.id = message.id → other = message) :
    tables.JudgedOf (done ++ [message]) other
      (if unconfirmed then (if row.id = message.id then quarantinedRow row else row) else row) := by
  have hid := h.id
  by_cases hother : other = message
  · subst hother
    refine ⟨fun _ => ⟨unconfirmed, hverdict, ?_⟩, fun hm => absurd (List.mem_append_right _ List.mem_cons_self) hm⟩
    rw [if_pos hid]
    by_cases hm : other ∈ done
    · obtain ⟨unconfirmed', hverdict', rfl⟩ := h.1 hm
      obtain rfl := Except.ok.inj (hverdict.symm.trans hverdict')
      cases unconfirmed <;> rfl
    · rw [h.2 hm]
  · have hne : row.id ≠ message.id := fun he => hother (hsame (hid.symm.trans he))
    rw [if_neg hne, ite_self]
    refine ⟨fun hm => h.1 ?_, fun hm => h.2 fun hdone => hm (List.mem_append_left _ hdone)⟩
    rcases List.mem_append.mp hm with hdone | hlast
    · exact hdone
    · exact absurd (List.mem_singleton.mp hlast) hother

/-- **Every message of the history is judged**, in its place; what is confirmed
is a member of an alert whose delivery is proved. -/
theorem foldlM_migrateMessage {tables : Tables Timestamp υ} {messages : List (OutboxRecord Timestamp)}
    {state : Tables Timestamp υ × List (String × String)}
    (hof : ∀ message ∈ messages, message ∈ tables.notificationOutbox.rows)
    (h : messages.foldlM migrateMessage (tables, []) = .ok state) :
    List.Forall₂ (tables.JudgedOf messages) tables.notificationOutbox.rows state.1.notificationOutbox.rows ∧
      ∀ entry ∈ state.2, ∃ message ∈ messages, tables.Confirms message entry.1 entry.2 := by
  let I (done : List (OutboxRecord Timestamp)) (state : Tables Timestamp υ × List (String × String)) : Prop :=
    (∀ message ∈ done, message ∈ tables.notificationOutbox.rows) → tables.Reattributed state.1 ∧
      List.Forall₂ (tables.JudgedOf done) tables.notificationOutbox.rows state.1.notificationOutbox.rows ∧
      ∀ entry ∈ state.2, ∃ message ∈ done, tables.Confirms message entry.1 entry.2
  have hstart : I [] (tables, []) := by
    refine fun _ => ⟨.refl _, List.forall₂_same.mpr fun row _ => ⟨fun hm => ?_, fun _ => rfl⟩, fun _ hm => ?_⟩
    · cases hm
    · cases hm
  have hstep : ∀ done message state state', I done state → migrateMessage state message = .ok state' →
      I (done ++ [message]) state' := by
    intro done message state state' hstate hmessage hof
    obtain ⟨hreattributed, hrows, hentries⟩ := hstate fun other hm => hof other (List.mem_append_left _ hm)
    obtain ⟨unconfirmed, hverdict, houtbox, hconfirmed⟩ := migrateMessage_eq_ok hmessage
    rw [hreattributed.quarantines] at hverdict
    have hown := hof message (List.mem_append_right _ List.mem_cons_self)
    refine ⟨hreattributed.trans (reattributed_migrateMessage hmessage), ?_, fun entry hentry => ?_⟩
    · have hmap : state'.1.notificationOutbox.rows = state.1.notificationOutbox.rows.map fun row =>
          if unconfirmed then (if row.id = message.id then quarantinedRow row else row) else row := by
        rw [houtbox]
        cases unconfirmed with
        | true => rfl
        | false => exact (List.map_id _).symm
      rw [hmap, List.forall₂_map_right_iff]
      exact (Fallible.forall₂_mem hrows).imp fun other row ⟨hother, _, hjudged⟩ =>
        hjudged.step hverdict (tables.notificationOutbox.eq_of_key_eq hother hown)
    · rcases hconfirmed entry hentry with hold | hnew
      · obtain ⟨earlier, hearlier, hconfirms⟩ := hentries entry hold
        exact ⟨earlier, List.mem_append_left _ hearlier, hconfirms⟩
      · obtain ⟨hstatus, htransition, hproved, hmember, hepisode⟩ := hnew
        rw [hreattributed.quarantines] at hproved
        rw [hreattributed.memberIds] at hmember
        exact ⟨message, List.mem_append_right _ List.mem_cons_self, hstatus, htransition, hproved, hmember, hepisode⟩
  exact (Fallible.foldlM_ok hstep hstart h hof).2

theorem refreshLatest_frame {entry : String × LatchRecord Timestamp} {tables tables' : Tables Timestamp υ}
    (h : tables.refreshLatest entry = .ok tables') :
    tables'.notificationOutbox = tables.notificationOutbox ∧ tables'.conditionState = tables.conditionState := by
  rw [refreshEvaluation_frame h]
  exact ⟨rfl, rfl⟩

/-- A latch that stays delivered was so, by an alert whose delivery is proved. -/
structure Upheld (tables : Tables Timestamp υ) (latch latch' : LatchRecord Timestamp) : Prop where
  settled : latch'.alertDeliveryState ≠ .pending
  delivered : latch'.alertDeliveryState = .delivered → latch' = latch ∧ ∃ message ∈ tables.notificationOutbox.rows,
    tables.Confirms message latch.conditionId (latch.episodeId.getD "")

/-- **The notification history judges every message, and upholds every latch.** -/
theorem migrateNotificationHistory_eq_ok {tables tables' : Tables Timestamp υ}
    (h : tables.migrateNotificationHistory = .ok tables') :
    List.Forall₂ tables.nameEpisodes.Judged tables.notificationOutbox.rows tables'.notificationOutbox.rows ∧
      List.Forall₂ tables.nameEpisodes.Upheld tables.nameEpisodes.conditionState.rows tables'.conditionState.rows := by
  simp only [migrateNotificationHistory, Fallible.bind_eq_ok_iff] at h
  obtain ⟨⟨settled, confirmed⟩, hsettled, h⟩ := h
  obtain ⟨hjudged, hconfirmed⟩ := foldlM_migrateMessage (fun message hm => mem_orderBy.mp hm) hsettled
  have hlatest := Fallible.foldlM_preserves (f := refreshLatest)
    (I := fun now : Tables Timestamp υ => now.notificationOutbox = (settled.withdrawClaims confirmed).notificationOutbox ∧
      now.conditionState = (settled.withdrawClaims confirmed).conditionState)
    (fun entry _ now now' hnow hstep =>
      ⟨(refreshLatest_frame hstep).1.trans hnow.1, (refreshLatest_frame hstep).2.trans hnow.2⟩) ⟨rfl, rfl⟩ h
  have hmessages := Fallible.foldlM_preserves
    (I := fun now : Tables Timestamp υ × List (String × String) => tables.nameEpisodes.Reattributed now.1)
    (fun _ _ _ _ hnow hstep => hnow.trans (reattributed_migrateMessage hstep)) (.refl _) hsettled
  refine ⟨?_, ?_⟩
  · rw [hlatest.1]
    show List.Forall₂ _ _ settled.notificationOutbox.rows
    exact (Fallible.forall₂_mem hjudged).imp fun _ _ hrow => hrow.2.2.1 (mem_orderBy.mpr hrow.1)
  · rw [hlatest.2]
    show List.Forall₂ _ _ (settled.conditionState.rows.map _)
    rw [List.forall₂_map_right_iff]
    refine hmessages.latches.imp fun latch latch' hlatch => ?_
    split
    case isTrue => exact ⟨fun hpending => (by cases hpending), fun hdelivered => (by cases hdelivered)⟩
    case isFalse hkept =>
      rw [not_or, not_and, not_not] at hkept
      refine ⟨hkept.1, fun hdelivered => ?_⟩
      obtain ⟨message, hm, hconfirms⟩ := hconfirmed _ (hkept.2 hdelivered)
      rcases hlatch with rfl | rfl
      · exact ⟨rfl, message, mem_orderBy.mp hm, hconfirms⟩
      · cases hdelivered

end Tables

/-! ### What version 1 recorded of a message -/

namespace LegacyTables

variable {υ : Type} (source : LegacyTables υ)

/-- The conditions of a message, in the order of their ids. -/
def memberIds (notificationId : String) : List String :=
  orderBy id ((source.notificationConditions.rows.filter (·.notificationId = notificationId)).map (·.conditionId))

/-- The run recorded the summary for the condition. -/
def Records (runId conditionId summary : String) : Prop :=
  ∃ row ∈ source.conditionEvaluations.rows, row.runId = runId ∧ row.conditionId = conditionId ∧
    ∃ evaluation, row.evidence = .ok evaluation ∧ evaluation.summary = summary

/-- **The delivery of a message is proved**: its text is a line for each of its
members, by the summaries recorded of them, and an attempt that completed was
accepted under its request id. -/
structure Proves (message : LegacyMessage) : Prop where
  members : source.memberIds message.id ≠ []
  text : ∃ summaries, List.Forall₂ (source.Records message.runId) (source.memberIds message.id) summaries ∧
    message.message = "\n".intercalate (summaries.map ("- " ++ ·))
  length : message.message.length ≤ 1024
  accepted : ∃ requestId, message.remoteRequestId = some requestId ∧ isNonblank requestId ∧
    ∃ attempt ∈ source.notificationAttempts.rows, attempt.notificationId = message.id ∧
      AttemptOutcome.decode attempt.outcome = some .delivered ∧ attempt.httpStatus = some 200 ∧
      attempt.remoteRequestId = some requestId

end LegacyTables

section Proved

variable {packages : Packages} {υ : Type} {source : LegacyTables υ} {tables : Tables Timestamp υ}

/-- The tables whose messages the history judges. -/
def Tables.judging (tables : Tables Timestamp υ) : Tables Timestamp υ := tables.flagSaturated.nameEpisodes

theorem Respelled.memberIds (h : Respelled packages source tables) (notificationId : String) :
    tables.judging.memberIds notificationId = source.memberIds notificationId := by
  show orderBy id ((tables.notificationConditions.rows.filter _).map _) = _
  rw [h.notificationConditions, List.filter_map, List.map_map]
  rfl

theorem Respelled.records (h : Respelled packages source tables) {runId conditionId summary : String}
    (hsummary : tables.judging.recordedSummary runId conditionId = .ok (some summary)) :
    source.Records runId conditionId summary := by
  unfold Tables.recordedSummary at hsummary
  cases hfind : tables.judging.conditionEvaluations.find? (runId, conditionId) with
  | none =>
    rw [hfind] at hsummary
    cases hsummary
  | some row =>
    rw [hfind, Option.mapM_some] at hsummary
    obtain ⟨hrow, hkey⟩ := Table.find?_eq_some_iff.mp hfind
    have hrow : row ∈ tables.conditionEvaluations.rows := hrow
    rw [h.conditionEvaluations] at hrow
    obtain ⟨original, horiginal, rfl⟩ := List.mem_map.mp hrow
    obtain ⟨hrunId, hconditionId⟩ := Prod.mk.inj hkey
    refine ⟨original, horiginal, hrunId, hconditionId, ?_⟩
    cases hevidence : original.evidence with
    | error detail =>
      have hread : original.rebuild.evidence = .error detail := hevidence
      rw [hread] at hsummary
      cases hsummary
    | ok evaluation =>
      have hread : original.rebuild.evidence = .ok evaluation := hevidence
      rw [hread] at hsummary
      exact ⟨evaluation, rfl, Option.some.inj (Except.ok.inj hsummary)⟩

/-- **A delivered message the verdict spares is proved.** -/
theorem Respelled.proves (h : Respelled packages source tables) {message : LegacyMessage} {row : OutboxRecord Timestamp}
    (hrow : message.rebuild.respell packages = .ok row) (hstatus : row.status = .delivered)
    (hverdict : tables.judging.quarantines row = .ok false) : source.Proves message := by
  obtain ⟨-, -, hcolumns, -, -⟩ := MessageCarried.of_steps packages hrow (.inl rfl)
  have hid : row.id = message.id := congrArg (·.id) hcolumns
  have hrunId : row.runId = message.runId := congrArg (·.runId) hcolumns
  have htext : row.message = message.message := congrArg (·.message) hcolumns
  have hrequest : row.remoteRequestId = message.remoteRequestId := congrArg (·.remoteRequestId) hcolumns
  simp only [Tables.quarantines, Fallible.bind_eq_ok_iff] at hverdict
  obtain ⟨summaries, hsummaries, hverdict⟩ := hverdict
  have hconfirmed := Except.ok.inj hverdict
  simp only [Tables.isUnconfirmed, hstatus, Bool.or_eq_false_iff, Bool.and_eq_false_iff, decide_true, Bool.not_eq_false',
    Bool.true_eq_false, false_or] at hconfirmed
  obtain ⟨-, hvisible, hacknowledged⟩ := hconfirmed
  rw [h.memberIds, hid] at hvisible hsummaries
  simp only [Tables.isVisible, Bool.and_eq_true, decide_eq_true_eq, Option.map_eq_some_iff] at hvisible
  obtain ⟨⟨hmembers, lines, hlines, hjoined⟩, hlength⟩ := hvisible
  obtain ⟨texts, rfl, rfl⟩ := Fallible.mapM_map_eq_some hlines
  have hrecorded := Fallible.mapM_eq_ok_iff.mp hsummaries
  rw [List.forall₂_map_right_iff, hrunId] at hrecorded
  rw [htext] at hjoined hlength
  refine ⟨hmembers, ⟨texts, hrecorded.imp fun _ _ hsummary => h.records hsummary, hjoined.symm⟩, hlength, ?_⟩
  obtain ⟨attempt, hattempt, haccepted⟩ := List.any_eq_true.mp hacknowledged
  simp only [Bool.and_eq_true, decide_eq_true_eq] at haccepted
  obtain ⟨⟨⟨⟨⟨hof, hnonblank⟩, hsame⟩, houtcome⟩, hhttp⟩, -⟩ := haccepted
  obtain ⟨requestId, hrequestId, hnonblank⟩ := (Option.any_eq_true ..).mp hnonblank
  obtain ⟨original, horiginal, hcarried⟩ := Fallible.exists_of_forall₂_right h.notificationAttempts attempt hattempt
  have hattemptColumns := hcarried.columns
  refine ⟨requestId, hrequest ▸ hrequestId, hnonblank, original, horiginal, ?_, ?_, ?_, ?_⟩
  · have hnotification : attempt.notificationId = original.notificationId := congrArg (·.notificationId) hattemptColumns
    rw [← hnotification, hof, hid]
  · rw [hcarried.outcome, houtcome]
  · have hstatus : attempt.httpStatus = original.httpStatus := congrArg (·.httpStatus) hattemptColumns
    rw [← hstatus, hhttp]
  · have hremote : attempt.remoteRequestId = original.remoteRequestId := congrArg (·.remoteRequestId) hattemptColumns
    rw [← hremote, hsame, hrequestId]

end Proved

/-! ### What version 3 claims -/

/-- **What becomes of a message**: a delivery that is not proved is unknown. -/
structure MessageSettled {υ : Type} (source : LegacyTables υ) (message : LegacyMessage) (row : OutboxRecord Timestamp) :
    Prop where
  id : row.id = message.id
  final : row.status ≠ .pending ∧ row.status ≠ .retryable
  status : row.status = message.status ∨ row.status = .unknown ∧
    (message.status = .pending ∨ message.status = .retryable ∨ message.status = .delivered)
  proved : row.status = .delivered → source.Proves message

/-- An alert that stayed delivered announced the condition, from the run of the
latch's last transition. -/
def Tables.Vouches {υ : Type} (tables : Tables Timestamp υ) (latch : LatchColumns String) : Prop :=
  ∃ message ∈ tables.notificationOutbox.rows, message.status = .delivered ∧ message.transition = .alert ∧
    message.runId = latch.lastTransitionRun.getD "state" ∧ latch.conditionId ∈ tables.memberIds message.id

/-- **What becomes of a latch**: it stays delivered by an alert that did. -/
structure LatchSettled {υ : Type} (tables : Tables Timestamp υ) (latch : LatchColumns String)
    (row : LatchRecord Timestamp) : Prop where
  conditionId : row.conditionId = latch.conditionId
  settled : row.alertDeliveryState ≠ .pending
  delivered : row.alertDeliveryState = .delivered → latch.alertDeliveryState = .delivered ∧ tables.Vouches latch

theorem legacyEpisode_inj {runId runId' conditionId : String}
    (h : legacyEpisode runId conditionId = legacyEpisode runId' conditionId) : runId = runId' := by
  unfold legacyEpisode at h
  rw [String.append_left_inj, String.append_left_inj, String.append_right_inj] at h
  exact h

section Settled

variable {packages : Packages} {υ : Type} {source : LegacyTables υ} {tables : Tables Timestamp υ}

theorem Respelled.messageSettled (h : Respelled packages source tables) {message : LegacyMessage}
    {respelled row : OutboxRecord Timestamp} (hrow : message.rebuild.respell packages = .ok respelled)
    (hjudged : tables.judging.Judged respelled row) : MessageSettled source message row := by
  obtain ⟨-, -, hcolumns, -, -⟩ := MessageCarried.of_steps packages hrow (.inl rfl)
  have hid : respelled.id = message.id := congrArg (·.id) hcolumns
  have hstatus : respelled.status = message.status := by
    simp only [OutboxRecord.respell, Fallible.bind_eq_ok_iff] at hrow
    obtain ⟨_, -, _, -, _, -, hrow⟩ := hrow
    obtain rfl := Except.ok.inj hrow
    rfl
  obtain ⟨unconfirmed, hverdict, rfl⟩ := hjudged
  have hverdict' := hverdict
  simp only [Tables.quarantines, Fallible.bind_eq_ok_iff] at hverdict'
  obtain ⟨summaries, -, hunconfirmed⟩ := hverdict'
  have hunconfirmed := Except.ok.inj hunconfirmed
  cases unconfirmed with
  | true =>
    refine ⟨hid, ⟨fun hpending => (by cases hpending), fun hretryable => (by cases hretryable)⟩, .inr ⟨rfl, ?_⟩,
      fun hdelivered => by cases hdelivered⟩
    simp only [Tables.isUnconfirmed, Bool.or_eq_true, Bool.and_eq_true, decide_eq_true_eq, hstatus] at hunconfirmed
    rcases hunconfirmed with (hpending | hretryable) | ⟨hdelivered, -⟩
    · exact .inl hpending
    · exact .inr (.inl hretryable)
    · exact .inr (.inr hdelivered)
  | false =>
    simp only [Tables.isUnconfirmed, Bool.or_eq_false_iff, decide_eq_false_iff_not] at hunconfirmed
    exact ⟨hid, ⟨hunconfirmed.1.1, hunconfirmed.1.2⟩, .inl hstatus, fun hdelivered => h.proves hrow hdelivered hverdict⟩

/-- A latch upheld by the history is settled in its tables. -/
theorem Respelled.latchSettled {settled : Tables Timestamp υ}
    (hjudged : List.Forall₂ tables.judging.Judged tables.notificationOutbox.rows settled.notificationOutbox.rows)
    (hreattributed : tables.judging.Reattributed settled) {latch : LatchColumns String} {respelled row : LatchRecord Timestamp}
    (hrow : latch.rebuild.respell packages = .ok respelled)
    (hupheld : tables.judging.Upheld { respelled with
      episodeId := some (legacyEpisode (respelled.lastTransitionRun.getD "state") respelled.conditionId) } row)
    (hdisclaimed : LatchRecord.Disclaimed { respelled with
      episodeId := some (legacyEpisode (respelled.lastTransitionRun.getD "state") respelled.conditionId) } row) :
    LatchSettled settled latch row := by
  have hcarried := LatchCarried.of_steps packages hrow hdisclaimed
  have hid : row.conditionId = latch.conditionId := congrArg (·.conditionId) hcarried.columns
  refine ⟨hid, hupheld.settled, fun hdelivered => ?_⟩
  obtain ⟨rfl, message, hm, hconfirms⟩ := hupheld.delivered hdelivered
  have hstayed : latch.alertDeliveryState = .delivered := by
    rcases hcarried.delivery with hsame | hunknown
    · rw [← hsame, hdelivered]
    · rw [hunknown] at hdelivered
      cases hdelivered
  obtain ⟨row', hrow', unconfirmed, hverdict, hkept⟩ := Fallible.exists_of_forall₂_left hjudged message hm
  obtain rfl := Except.ok.inj (hconfirms.proved.symm.trans hverdict)
  obtain rfl : row' = message := hkept
  refine ⟨hstayed, row', hrow', hconfirms.status, hconfirms.transition, ?_, ?_⟩
  · have hlast : respelled.lastTransitionRun = latch.lastTransitionRun := congrArg (·.lastTransitionRun) hcarried.columns
    rw [← hlast]
    exact (legacyEpisode_inj hconfirms.episode).symm
  · rw [hreattributed.memberIds, ← hid]
    exact hconfirms.member

/-- **A migration to version 2 settles every delivery.** -/
theorem settled_migrateToV2 {checksum : ℤ → String} {appliedAt : ℤ → Timestamp} {source : LegacyTables CountedUpstreamTable}
    {result : Tables Timestamp CountedUpstreamTable} (h : source.migrateToV2 packages checksum appliedAt = .ok result) :
    List.Forall₂ (MessageSettled source) source.notificationOutbox.rows result.notificationOutbox.rows ∧
      List.Forall₂ (LatchSettled result) source.conditionState.rows result.conditionState.rows := by
  obtain ⟨respelled, settled, runs, migrations, hrespelled, hhistory, -, rfl⟩ := migrateToV2_eq_ok packages h
  have hreattributed := Tables.reattributed_migrateNotificationHistory hhistory
  obtain ⟨hjudged, hupheld⟩ := Tables.migrateNotificationHistory_eq_ok hhistory
  have hmessages : List.Forall₂ (MessageSettled source) source.notificationOutbox.rows settled.notificationOutbox.rows := by
    refine Fallible.forall₂_trans (fun hrow hmessage => ?_) hrespelled.notificationOutbox hjudged
    exact hrespelled.messageSettled hrow hmessage
  have hnamed := List.forall₂_map_left_iff.mp
    (List.Forall₂.mp (fun _ _ hlatch hrow => And.intro hlatch hrow) hupheld hreattributed.latches)
  have hlatches : List.Forall₂ (LatchSettled settled) source.conditionState.rows settled.conditionState.rows := by
    refine Fallible.forall₂_trans (fun hrow hlatch => ?_) hrespelled.conditionState hnamed
    exact Respelled.latchSettled hjudged hreattributed hrow hlatch.1 hlatch.2
  exact ⟨hmessages, hlatches.imp fun _ _ hlatch => ⟨hlatch.conditionId, hlatch.settled, hlatch.delivered⟩⟩

end Settled

/-- **Migration is conservative about delivery.** A migrated file of version 1
has no message and no latch waiting, a message it calls delivered is proved so,
and a latch stays delivered by an alert that does; so the next run sends a
resolution for such latches only. -/
theorem migration_conservative {packages : Packages} {checksum : ℤ → String} {appliedAt : ℤ → Timestamp} {version : ℤ}
    {source : LegacyTables UpstreamTable} {written : List StateFile} {file : StateFile}
    (h : migrate packages checksum appliedAt version (.v1 source) = (written, .ok ((), file))) :
    ∃ result, file = .v3 result ∧
      List.Forall₂ (MessageSettled source) source.notificationOutbox.rows result.notificationOutbox.rows ∧
      List.Forall₂ (LatchSettled result) source.conditionState.rows result.conditionState.rows ∧
      ∀ (uuids : ℕ → String) (report : RunReport) (config : Config) (now : ℤ) (cutoff : Timestamp) (committed : Committed),
        result.store.commitRun uuids report config now cutoff false = .ok committed →
        ∀ transition ∈ committed.report.transitions, transition.kind = .resolution →
          ∃ latch ∈ source.conditionState.rows, latch.conditionId = transition.conditionId ∧
            latch.alertDeliveryState = .delivered ∧ result.Vouches latch := by
  rcases migrate_cases packages checksum appliedAt version (.v1 source) with ⟨error, herror⟩ | ⟨result, hresult, htransaction⟩
  · rw [herror] at h
    cases h
  rw [hresult] at h
  obtain ⟨-, hfile⟩ := Prod.mk.inj h
  obtain rfl := (Prod.mk.inj (Except.ok.inj hfile)).2
  simp only [migrateTransaction, Fallible.bind_eq_ok_iff] at htransaction
  obtain ⟨upstreams, -, migrated, hmigrate, hfinish⟩ := htransaction
  obtain ⟨hmessages, hlatches⟩ := settled_migrateToV2 hmigrate
  obtain ⟨migrations, rfl⟩ := finishMigration_eq_ok hfinish
  have hmessages' : List.Forall₂ (MessageSettled source) source.notificationOutbox.rows migrated.notificationOutbox.rows := by
    refine hmessages.imp fun message row hm => ⟨hm.id, hm.final, hm.status, fun hdelivered => ?_⟩
    obtain ⟨hmembers, htext, hlength, haccepted⟩ := hm.proved hdelivered
    exact ⟨hmembers, htext, hlength, haccepted⟩
  refine ⟨_, rfl, hmessages', ?_, ?_⟩
  · exact hlatches.imp fun _ _ hlatch => ⟨hlatch.conditionId, hlatch.settled, hlatch.delivered⟩
  · intro uuids report config now cutoff committed hcommit transition ht hkind
    obtain ⟨latching, persisted, hcommitted⟩ := commitRun_eq_ok hcommit
    have hdelivered := hcommitted.delivered_of_resolution ht hkind
    unfold latchView at hdelivered
    split at hdelivered
    case h_2 => cases hdelivered
    case h_1 state hfind =>
      obtain ⟨hstate, hid⟩ := Table.find?_eq_some_iff.mp hfind
      obtain ⟨row, hrow, rfl⟩ := List.mem_map.mp hstate
      obtain ⟨latch, hlatch, hsettled⟩ := Fallible.exists_of_forall₂_right hlatches row hrow
      obtain ⟨hwas, hvouches⟩ := hsettled.delivered hdelivered
      exact ⟨latch, hlatch, hsettled.conditionId.symm.trans hid, hwas, hvouches⟩

/-- A file of version 1 with one run, which sent one alert, and the latch of its
condition. -/
def legacyAlert (runId : String) (lastTransitionRun : Option String) : LegacyTables UpstreamTable where
  schemaMigrations := ⟨[⟨1, "initial", "checksum", "1970-01-01T00:00:01Z"⟩], List.nodup_singleton _⟩
  runs := ⟨[⟨runId, "1970-01-01T00:00:01Z", "1970-01-01T00:00:01Z", .live, "", .complete, 0, 0, 0, 0⟩],
    List.nodup_singleton _⟩
  targetObservations := .empty
  upstreamObservations := .empty
  filterObservations := .empty
  rewriteObservations := .empty
  aggregateObservations := .empty
  conditionEvaluations := ⟨[⟨runId, "c", .active, .null, .null, .ok { apiEvaluation .active with summary := "down" }, true⟩],
    List.nodup_singleton _⟩
  conditionState := ⟨[⟨"c", none, "api", .warning, .firing, none, none, 1, 0, .delivered, lastTransitionRun⟩],
    List.nodup_singleton _⟩
  targetRuntimeState := .empty
  notificationOutbox := ⟨[{
    id := "m", runId, transition := .alert, title := "Alert", message := "- down", priority := 0, status := .delivered
    createdAt := "1970-01-01T00:00:01Z", nextRetryAt := none, deliveredAt := none, remoteRequestId := some "r"
    errorClass := none, status_check := by decide }], List.nodup_singleton _⟩
  notificationConditions := ⟨[⟨"m", "c"⟩], List.nodup_singleton _⟩
  notificationAttempts := ⟨[{
    id := "a", notificationId := "m", startedAt := "1970-01-01T00:00:01Z", httpStatus := some 200
    remoteRequestId := some "r", errorClass := none, completedAt := "1970-01-01T00:00:01Z", outcome := "delivered" }],
    List.nodup_singleton _⟩

def legacyMigration (runId : String) (lastTransitionRun : Option String) :
    List StateFile × Except StoreError (Unit × StateFile) :=
  migrate { (default : Packages) with parseTimestamp := fun _ => some (second 1) } (fun _ => "checksum") (fun _ => second 2) 1
    (.v1 (legacyAlert runId lastTransitionRun))

/-- The messages and latches of a current file. -/
def StateFile.deliveries : StateFile → List NotificationStatus × List AlertDeliveryState
  | .v3 tables => (tables.notificationOutbox.rows.map fun row => row.status,
      tables.conditionState.rows.map fun row => row.alertDeliveryState)
  | _ => ([], [])

/-- An alert whose delivery is proved upholds its latch. -/
theorem migration_conservative_alert : ∃ written result,
    legacyMigration "run" (some "run") = (written, .ok ((), .v3 result)) ∧
    (StateFile.v3 result).deliveries = ([.delivered], [.delivered]) ∧
    List.Forall₂ (LatchSettled result) (legacyAlert "run" (some "run")).conditionState.rows result.conditionState.rows := by
  have hrun : (legacyMigration "run" (some "run")).2.toOption.any (fun out =>
      decide (out.2.deliveries = ([.delivered], [.delivered]))) = true := by decide +kernel
  obtain ⟨⟨_, file⟩, hfile, hdeliveries⟩ := Fallible.ok_of_any hrun
  have hmigrate : legacyMigration "run" (some "run") = ((legacyMigration "run" (some "run")).1, .ok ((), file)) :=
    Prod.ext rfl hfile
  obtain ⟨result, rfl, -, hlatches, -⟩ := migration_conservative hmigrate
  exact ⟨_, result, hmigrate, of_decide_eq_true hdeliveries, hlatches⟩

/-- A latch with no last transition is upheld by an alert of a run named
`state`. -/
theorem upheld_without_transition : ∃ written file, legacyMigration "state" none = (written, .ok ((), file)) ∧
    file.deliveries = ([.delivered], [.delivered]) ∧
    (legacyAlert "state" none).conditionState.rows.map (fun latch => latch.lastTransitionRun) = [none] := by
  have hrun : (legacyMigration "state" none).2.toOption.any (fun out =>
      decide (out.2.deliveries = ([.delivered], [.delivered]))) = true := by decide +kernel
  obtain ⟨⟨_, file⟩, hfile, hdeliveries⟩ := Fallible.ok_of_any hrun
  exact ⟨_, file, Prod.ext rfl hfile, of_decide_eq_true hdeliveries, rfl⟩

end Sentinel
