/-
# The outbox

Messages built from a run's transitions, stored with their members, read
back, and cancelled. Every identifier a function draws comes from a supply
`uuids`; a function that draws takes the number drawn before and returns the
number drawn after.

Key theorems: `insertOutbox_eq_ok`, `cancelMessage_eq_ok`, `cancelUnsentCondition_eq_ok`.
-/
import Sentinel.Store.Schema
import Mathlib.Logic.Relation

namespace Sentinel

open Collections

/-! ### Payloads -/

/-- The characters a notification may have. -/
def notificationLimit : ℕ := 1024

def truncateChars (value : String) (maximum : ℕ) : String := String.ofList (value.toList.take maximum)

def truncationSuffix : String := " [truncated; see report]"

/-- The line a summary has in a payload. -/
def notificationLine (summary : String) : String :=
  let line := "- " ++ summary
  if line.length ≤ notificationLimit then line
  else truncateChars line (notificationLimit - truncationSuffix.length) ++ truncationSuffix

/-- The payload of a message with these members. -/
def notificationPayload (members : List NotificationCondition) : String :=
  "\n".intercalate (members.map fun member => notificationLine member.summary)

/-! ### Building messages -/

section Build

variable (uuids : ℕ → String) (report : RunReport) (suppressed : Bool)

def notificationBatch (uuid : String) (kind : TransitionKind) (lines conditionIds : List String) :
    OutboxMessage where
  id := uuid
  runId := report.runId
  transition := kind
  title := match kind with
    | .alert => "AdGuard anomaly detected"
    | .resolution => "AdGuard anomaly resolved"
  message := "\n".intercalate lines
  priority := match kind with
    | .alert => 0
    | .resolution => -1
  status := if suppressed then .suppressed else .pending
  conditionIds

/-- The messages finished so far and the batch being filled. -/
structure Batching where
  messages : List OutboxMessage
  lines : List String
  conditionIds : List String
  length : ℕ

/-- Closes the batch being filled. -/
def Batching.flush (kind : TransitionKind) (batching : Batching) : Batching where
  messages := batching.messages ++
    [notificationBatch report suppressed (uuids batching.messages.length) kind batching.lines
      batching.conditionIds]
  lines := []
  conditionIds := []
  length := 0

def Batching.add (kind : TransitionKind) (batching : Batching) (transition : ConditionTransition) : Batching :=
  let line := notificationLine transition.summary
  let batching :=
    if batching.lines ≠ [] ∧ notificationLimit < batching.length + 1 + line.length then
      batching.flush uuids report suppressed kind
    else batching
  { messages := batching.messages
    lines := batching.lines ++ [line]
    conditionIds := batching.conditionIds ++ [transition.conditionId]
    length := (if batching.lines ≠ [] then batching.length + 1 else batching.length) + line.length }

/-- The messages of one kind, after those in `messages`. -/
def buildKind (transitions : List ConditionTransition) (messages : List OutboxMessage)
    (kind : TransitionKind) : List OutboxMessage :=
  let batching := (transitions.filter (·.kind = kind)).foldl (Batching.add uuids report suppressed kind)
    ⟨messages, [], [], 0⟩
  if batching.lines ≠ [] then (batching.flush uuids report suppressed kind).messages
  else batching.messages

def buildOutbox (transitions : List ConditionTransition) : List OutboxMessage :=
  [.alert, .resolution].foldl (buildKind uuids report suppressed transitions) []

end Build

/-! ### Reading messages -/

/-- `notification_members`: a message's members in the order of their ids. -/
def OutboxRow.members (row : OutboxRow) : List NotificationCondition :=
  orderBy (·.conditionId) row.conditions.rows

/-- The message names the condition. -/
def OutboxRow.Names (conditionId : String) (row : OutboxRow) : Prop :=
  ∃ member ∈ row.conditions.rows, member.conditionId = conditionId

def OutboxRow.toMessage (row : OutboxRow) : Except StoreError OutboxMessage := do
  let priority ← i8FromI64 row.priority "priority out of range"
  return ⟨row.id, row.runId, row.transition, row.title, row.message, priority, row.status,
    row.members.map (·.conditionId)⟩

namespace StateStore

def notificationMembers (store : StateStore) (id : String) : List NotificationCondition :=
  match store.notificationOutbox.find? id with
  | some row => row.members
  | none => []

def loadOutboxMessage (store : StateStore) (id : String) : Except StoreError OutboxMessage := do
  (← constraint (store.notificationOutbox.find? id)).toMessage

/-! ### Writing messages -/

/-- `INSERT INTO notification_outbox`. -/
def insertMessage (row : OutboxRow) (store : StateStore) : Except StoreError StateStore := do
  columnCheck (-2 ≤ row.priority ∧ row.priority ≤ 2)
  columnCheck (store.runs.find? row.runId).isSome
  return { store with notificationOutbox := ← constraint (store.notificationOutbox.insert? row) }

/-- `UPDATE notification_outbox … WHERE id = ?`. -/
def updateMessage (id : String) (f : OutboxRow → OutboxRow) (hf : ∀ row, (f row).id = row.id)
    (store : StateStore) : StateStore :=
  { store with notificationOutbox := store.notificationOutbox.update id f hf }

/-- `INSERT INTO notification_conditions`. -/
def insertCondition (id : String) (store : StateStore) (member : NotificationCondition) :
    Except StoreError StateStore := do
  let row ← constraint (store.notificationOutbox.find? id)
  let conditions ← constraint (row.conditions.insert? member)
  return store.updateMessage id (fun row => { row with conditions }) fun _ => rfl

/-- Inserts the members of a message one after the other. -/
def insertConditions (id : String) (members : List (Except StoreError NotificationCondition))
    (store : StateStore) : Except StoreError StateStore :=
  members.foldlM (fun store member => do store.insertCondition id (← member)) store

/-- A member of a new message: the summary of its transition, the episode of
its latch. -/
def outboxMember (states : Table ConditionState.id) (transitions : List ConditionTransition)
    (kind : TransitionKind) (conditionId : String) : Except StoreError NotificationCondition := do
  let transition ← Fallible.demand (.invalidData "notification member lacks its transition")
    (transitions.find? fun transition => transition.conditionId = conditionId ∧ transition.kind = kind)
  let state ← constraint (states.find? conditionId)
  let episode ← Fallible.demand (.invalidData "notification member lacks its episode") state.episodeId
  return ⟨conditionId, episode, transition.summary⟩

/-- The row of a new message. -/
def outboxRow (message : OutboxMessage) (createdAt : Timestamp) : OutboxRow where
  id := message.id
  runId := message.runId
  transition := message.transition
  title := message.title
  message := message.message
  priority := message.priority
  status := message.status
  createdAt
  nextRetryAt := none
  deliveredAt := none
  remoteRequestId := none
  errorClass := none
  attemptId := none
  conditions := .empty
  attempts := .empty

def insertOutbox (createdAt : Timestamp) (transitions : List ConditionTransition) (outbox : List OutboxMessage)
    (store : StateStore) : Except StoreError StateStore :=
  outbox.foldlM (fun store message => do
    let members := message.conditionIds.map (outboxMember store.conditionState transitions message.transition)
    (← store.insertMessage (outboxRow message createdAt)).insertConditions message.id members) store

/-! ### Cancelling -/

/-- The message waits for an attempt, and is of the kind asked for. -/
def isUnsent (kind : Option TransitionKind) (row : OutboxRow) : Bool :=
  (∀ k ∈ kind, row.transition = k) ∧ row.status ∈ [.pending, .retryable]

/-- The messages of a condition that no attempt has claimed. -/
def unsentMessages (conditionId : String) (kind : Option TransitionKind) (store : StateStore) : List String :=
  (orderBy (·.createdAt) ((store.notificationOutbox.rows.filter (isUnsent kind)).flatMap fun row =>
    (row.conditions.rows.filter (·.conditionId = conditionId)).map fun _ => row)).map (·.id)

/-- The row that replaces a cancelled one for its other members. -/
def replacementRow (original : OutboxRow) (uuid payload : String) : OutboxRow where
  id := uuid
  runId := original.runId
  transition := original.transition
  title := original.title
  message := payload
  priority := original.priority
  status := original.status
  createdAt := original.createdAt
  nextRetryAt := original.nextRetryAt
  deliveredAt := none
  remoteRequestId := none
  errorClass := none
  attemptId := none
  conditions := .empty
  attempts := .empty

/-- Inserts the replacement of a message, with its members, if there are any. -/
def insertReplacement (uuids : ℕ → String) (id : String) (survivors : List NotificationCondition)
    (state : StateStore × ℕ) : Except StoreError (StateStore × ℕ) :=
  if survivors ≠ [] then do
    let original ← constraint (state.1.notificationOutbox.find? id)
    let store ← state.1.insertMessage
      (replacementRow original (uuids state.2) (notificationPayload survivors))
    return (← store.insertConditions (uuids state.2) (survivors.map .ok), state.2 + 1)
  else return state

/-- The row of a cancelled message. -/
def cancelledRow (row : OutboxRow) : OutboxRow := { row with status := .cancelled, nextRetryAt := none }

/-- One message of the cancellation: the original stays as evidence, a
replacement takes its other members. -/
def cancelMessage (uuids : ℕ → String) (conditionId : String) (state : StateStore × ℕ) (id : String) :
    Except StoreError (StateStore × ℕ) := do
  let original ← state.1.loadOutboxMessage id
  let survivors := (state.1.notificationMembers id).filter (·.conditionId ≠ conditionId)
  let (store, drawn) ← insertReplacement uuids id survivors state
  return (store.updateMessage original.id cancelledRow fun _ => rfl, drawn)

def cancelUnsentCondition (uuids : ℕ → String) (conditionId : String) (kind : Option TransitionKind)
    (state : StateStore × ℕ) : Except StoreError (StateStore × ℕ) :=
  (state.1.unsentMessages conditionId kind).foldlM (cancelMessage uuids conditionId) state

/-! ### What an insertion leaves -/

theorem insertMessage_eq_ok {row : OutboxRow} {store store' : StateStore}
    (h : store.insertMessage row = .ok store') :
    ∃ outbox, store' = { store with notificationOutbox := outbox } ∧
      outbox.rows = store.notificationOutbox.rows ++ [row] ∧
      (∀ old ∈ store.notificationOutbox.rows, old.id ≠ row.id) ∧ (store.runs.find? row.runId).isSome := by
  simp only [insertMessage, Fallible.bind_eq_ok_iff, columnCheck_eq_ok_iff, constraint_eq_ok_iff] at h
  obtain ⟨_, -, _, hrun, outbox, ho, h⟩ := h
  obtain ⟨hnew, hrows⟩ := Table.insert?_eq_some_iff.mp ho
  exact ⟨outbox, (Except.ok.inj h).symm, hrows, hnew, hrun⟩

theorem insertCondition_eq_ok {id : String} {member : NotificationCondition} {store store' : StateStore}
    {before : List OutboxRow} {row : OutboxRow}
    (h : store.insertCondition id member = .ok store')
    (hr : store.notificationOutbox.rows = before ++ [row]) (hid : row.id = id) :
    ∃ conditions outbox, conditions.rows = row.conditions.rows ++ [member] ∧
      outbox.rows = before ++ [{ row with conditions }] ∧
      store' = { store with notificationOutbox := outbox } := by
  have hfind : store.notificationOutbox.find? id = some row :=
    Table.find?_eq_some_iff.mpr ⟨by rw [hr]; simp, hid⟩
  simp only [insertCondition, Fallible.bind_eq_ok_iff, constraint_eq_ok_iff, hfind, Option.some.injEq] at h
  obtain ⟨_, rfl, conditions, hc, h⟩ := h
  refine ⟨conditions, _, (Table.insert?_eq_some_iff.mp hc).2, ?_, (Except.ok.inj h).symm⟩
  exact Table.rows_update_of_split hr hid

/-- Inserting members fills the row that was inserted last. -/
theorem insertConditions_eq_ok {id : String} : ∀ {members : List (Except StoreError NotificationCondition)}
    {store store' : StateStore} {before : List OutboxRow} {row : OutboxRow},
    store.insertConditions id members = .ok store' →
    store.notificationOutbox.rows = before ++ [row] → row.id = id →
    ∃ inserted conditions outbox, List.Forall₂ (fun member m => member = .ok m) members inserted ∧
      conditions.rows = row.conditions.rows ++ inserted ∧
      outbox.rows = before ++ [{ row with conditions }] ∧
      store' = { store with notificationOutbox := outbox }
  | [], store, store', before, row, h, hr, hid => by
    obtain rfl : store = store' := Except.ok.inj h
    exact ⟨[], row.conditions, store.notificationOutbox, .nil, by simp, hr, rfl⟩
  | member :: members, store, store', before, row, h, hr, hid => by
    simp only [insertConditions, List.foldlM_cons, Fallible.bind_eq_ok_iff] at h
    obtain ⟨store₁, ⟨m, hm, h₁⟩, h⟩ := h
    obtain ⟨conditions₁, outbox₁, hc₁, ho₁, rfl⟩ := insertCondition_eq_ok h₁ hr hid
    obtain ⟨inserted, conditions, outbox, hall, hc, ho, rfl⟩ := insertConditions_eq_ok h ho₁ hid
    refine ⟨m :: inserted, conditions, outbox, .cons hm hall, ?_, ho, rfl⟩
    rw [hc, hc₁, List.append_assoc, List.singleton_append]

/-- A new message's row: what the message says, with the members its
transitions and latches name. -/
structure IsQueued (states : Table ConditionState.id) (transitions : List ConditionTransition)
    (createdAt : Timestamp) (message : OutboxMessage) (row : OutboxRow) : Prop where
  header : row = { outboxRow message createdAt with conditions := row.conditions }
  members : List.Forall₂ (fun conditionId member =>
    outboxMember states transitions message.transition conditionId = .ok member)
    message.conditionIds row.conditions.rows

/-- **What queueing leaves.** The messages' rows come after the rows that were
there; nothing else changes. -/
theorem insertOutbox_eq_ok {createdAt : Timestamp} {transitions : List ConditionTransition} :
    ∀ {outbox : List OutboxMessage} {store store' : StateStore},
    store.insertOutbox createdAt transitions outbox = .ok store' →
    ∃ rows table, List.Forall₂ (IsQueued store.conditionState transitions createdAt) outbox rows ∧
      table.rows = store.notificationOutbox.rows ++ rows ∧
      store' = { store with notificationOutbox := table }
  | [], store, store', h => by
    obtain rfl : store = store' := Except.ok.inj h
    exact ⟨[], store.notificationOutbox, .nil, by simp, rfl⟩
  | message :: outbox, store, store', h => by
    simp only [insertOutbox, List.foldlM_cons, Fallible.bind_eq_ok_iff] at h
    obtain ⟨store₂, ⟨store₁, h₁, h₂⟩, h⟩ := h
    obtain ⟨outbox₁, rfl, hr₁, -, -⟩ := insertMessage_eq_ok h₁
    obtain ⟨inserted, conditions, outbox₂, hall, hc, hr₂, rfl⟩ := insertConditions_eq_ok h₂ hr₁ rfl
    obtain ⟨rows, table, hrows, ht, rfl⟩ := insertOutbox_eq_ok h
    refine ⟨{ outboxRow message createdAt with conditions } :: rows, table, .cons ⟨rfl, ?_⟩ hrows, ?_, rfl⟩
    · rw [List.forall₂_map_left_iff] at hall
      simpa [outboxRow, hc] using hall
    · rw [ht, hr₂, List.append_assoc, List.singleton_append]

/-! ### What a cancellation leaves -/

/-- The members a message keeps without a condition. -/
def survivors (conditionId : String) (row : OutboxRow) : List NotificationCondition :=
  row.members.filter (·.conditionId ≠ conditionId)

/-- What replaces a cancelled message: nothing, or one message with its other
members. -/
def IsReplacement (conditionId : String) (row : OutboxRow) (replacements : List OutboxRow) : Prop :=
  (survivors conditionId row = [] ∧ replacements = []) ∨
    (survivors conditionId row ≠ [] ∧ ∃ uuid conditions,
      conditions.rows = survivors conditionId row ∧
      replacements =
        [{ replacementRow row uuid (notificationPayload (survivors conditionId row)) with conditions }])

theorem insertReplacement_eq_ok {uuids : ℕ → String} {conditionId : String} {state state' : StateStore × ℕ}
    {row : OutboxRow}
    (h : insertReplacement uuids row.id (survivors conditionId row) state = .ok state')
    (hrow : row ∈ state.1.notificationOutbox.rows) :
    ∃ replacements outbox, IsReplacement conditionId row replacements ∧
      (∀ replacement ∈ replacements, replacement.id ≠ row.id) ∧
      outbox.rows = state.1.notificationOutbox.rows ++ replacements ∧
      state'.1 = { state.1 with notificationOutbox := outbox } := by
  unfold insertReplacement at h
  split at h
  case isTrue hne =>
    have hfind : state.1.notificationOutbox.find? row.id = some row := Table.find?_key hrow
    simp only [Fallible.bind_eq_ok_iff, constraint_eq_ok_iff, hfind, Option.some.injEq] at h
    obtain ⟨_, rfl, store₁, h₁, store₂, h₂, h⟩ := h
    obtain rfl := Except.ok.inj h
    obtain ⟨outbox₁, rfl, hr₁, hnew, -⟩ := insertMessage_eq_ok h₁
    obtain ⟨inserted, conditions, outbox, hall, hc, ho, rfl⟩ := insertConditions_eq_ok h₂ hr₁ rfl
    have hins : inserted = survivors conditionId row := by
      rw [List.forall₂_map_left_iff] at hall
      have heq : List.Forall₂ Eq (survivors conditionId row) inserted :=
        hall.imp fun _ _ h => Except.ok.inj h
      exact (List.forall₂_eq_eq_eq ▸ heq).symm
    refine ⟨_, outbox, .inr ⟨hne, uuids state.2, conditions, ?_, rfl⟩, ?_, ho, rfl⟩
    · rw [hc, hins]
      exact List.nil_append _
    · intro replacement hm
      rw [List.mem_singleton.mp hm]
      exact (hnew row hrow).symm
  case isFalse hnil =>
    obtain rfl := Except.ok.inj h
    exact ⟨[], state.1.notificationOutbox, .inl ⟨by simpa using hnil, rfl⟩, by simp, by simp, rfl⟩

/-- **What cancelling a message leaves.** Its row stays where it was, marked
cancelled; its replacement comes last; nothing else changes. -/
theorem cancelMessage_eq_ok {uuids : ℕ → String} {conditionId : String} {state state' : StateStore × ℕ}
    {row : OutboxRow} (h : cancelMessage uuids conditionId state row.id = .ok state')
    (hrow : row ∈ state.1.notificationOutbox.rows) :
    ∃ before after replacements outbox, state.1.notificationOutbox.rows = before ++ row :: after ∧
      IsReplacement conditionId row replacements ∧
      outbox.rows = before ++ cancelledRow row :: (after ++ replacements) ∧
      state'.1 = { state.1 with notificationOutbox := outbox } := by
  have hfind : state.1.notificationOutbox.find? row.id = some row := Table.find?_key hrow
  simp only [cancelMessage, Fallible.bind_eq_ok_iff, loadOutboxMessage, constraint_eq_ok_iff, hfind] at h
  obtain ⟨original, ⟨_, hrow', horiginal⟩, ⟨store₁, drawn₁⟩, hins, h⟩ := h
  obtain rfl := Option.some.inj hrow'
  simp only [OutboxRow.toMessage, Fallible.bind_eq_ok_iff] at horiginal
  obtain ⟨priority, -, horiginal⟩ := horiginal
  obtain rfl := Except.ok.inj horiginal
  obtain rfl := Except.ok.inj h
  simp only [notificationMembers, hfind] at hins
  obtain ⟨replacements, outbox₁, hrep, hids, hr₁, hs₁⟩ := insertReplacement_eq_ok hins hrow
  obtain rfl : store₁ = _ := hs₁
  obtain ⟨before, after, hsplit⟩ := List.append_of_mem hrow
  rw [hsplit, List.append_assoc, List.cons_append] at hr₁
  refine ⟨before, after, replacements, _, hsplit, hrep, ?_, rfl⟩
  exact Table.rows_update_of_split hr₁ rfl

theorem mem_unsentMessages {conditionId : String} {kind : Option TransitionKind} {store : StateStore}
    {id : String} : id ∈ store.unsentMessages conditionId kind ↔
      ∃ row ∈ store.notificationOutbox.rows, isUnsent kind row ∧ row.Names conditionId ∧ row.id = id := by
  simp only [unsentMessages, List.mem_map, mem_orderBy, List.mem_flatMap, List.mem_filter, decide_eq_true_eq]
  constructor
  · rintro ⟨_, ⟨row, ⟨hm, hu⟩, member, ⟨hmem, hc⟩, rfl⟩, rfl⟩
    exact ⟨row, hm, hu, ⟨member, hmem, hc⟩, rfl⟩
  · rintro ⟨row, hm, hu, ⟨member, hmem, hc⟩, rfl⟩
    exact ⟨row, ⟨row, ⟨hm, hu⟩, member, ⟨hmem, hc⟩, rfl⟩, rfl⟩

theorem nodup_unsentMessages (conditionId : String) (kind : Option TransitionKind) (store : StateStore) :
    (store.unsentMessages conditionId kind).Nodup := by
  refine ((perm_orderBy _ _).map OutboxRow.id).nodup_iff.mpr ?_
  rw [List.map_flatMap, List.nodup_flatMap]
  constructor
  · intro row _
    rw [Table.filter_key]
    cases row.conditions.find? conditionId <;> simp
  · have hids : store.notificationOutbox.rows.Pairwise fun a b => a.id ≠ b.id :=
      List.pairwise_map.mp store.notificationOutbox.distinct
    refine (hids.sublist List.filter_sublist).imp fun {a b} hab => ?_
    intro id ha hb
    simp only [List.mem_map] at ha hb
    obtain ⟨_, ⟨_, -, rfl⟩, rfl⟩ := ha
    obtain ⟨_, ⟨_, -, rfl⟩, he⟩ := hb
    exact hab he.symm

/-- One message of a condition is cancelled. -/
inductive CancelStep (conditionId : String) (kind : Option TransitionKind) : StateStore → StateStore → Prop
  | cancel {store : StateStore} {row : OutboxRow} {before after replacements : List OutboxRow}
      {outbox : Table OutboxRow.id} (split : store.notificationOutbox.rows = before ++ row :: after)
      (unsent : isUnsent kind row) (names : row.Names conditionId)
      (replaced : IsReplacement conditionId row replacements)
      (rows : outbox.rows = before ++ cancelledRow row :: (after ++ replacements)) :
      CancelStep conditionId kind store { store with notificationOutbox := outbox }

/-- A replacement does not name the condition. -/
theorem IsReplacement.not_names {conditionId : String} {row : OutboxRow} {replacements : List OutboxRow}
    (h : IsReplacement conditionId row replacements) :
    ∀ replacement ∈ replacements, ¬replacement.Names conditionId := by
  rcases h with ⟨-, rfl⟩ | ⟨-, uuid, conditions, hc, rfl⟩
  · simp
  · intro replacement hm
    obtain rfl := List.mem_singleton.mp hm
    rintro ⟨member, hm, hid⟩
    rw [hc] at hm
    simp only [survivors, List.mem_filter, decide_eq_true_eq] at hm
    exact hm.2 hid

theorem cancelMessages_eq_ok {uuids : ℕ → String} {conditionId : String} {kind : Option TransitionKind} :
    ∀ {ids : List String} {state state' : StateStore × ℕ},
    ids.foldlM (cancelMessage uuids conditionId) state = .ok state' → ids.Nodup →
    (∀ id, id ∈ ids ↔ ∃ row ∈ state.1.notificationOutbox.rows,
      isUnsent kind row ∧ row.Names conditionId ∧ row.id = id) →
    Relation.ReflTransGen (CancelStep conditionId kind) state.1 state'.1 ∧
      ∀ row ∈ state'.1.notificationOutbox.rows, isUnsent kind row → ¬row.Names conditionId
  | [], state, state', h, _, hids => by
    obtain rfl : state = state' := Except.ok.inj h
    refine ⟨.refl, fun row hm hu hn => ?_⟩
    exact absurd ((hids row.id).mpr ⟨row, hm, hu, hn, rfl⟩) List.not_mem_nil
  | id :: ids, state, state', h, hnodup, hids => by
    rw [List.foldlM_cons, Fallible.bind_eq_ok_iff] at h
    obtain ⟨state₁, h₁, h⟩ := h
    obtain ⟨row, hrow, hu, hn, rfl⟩ := (hids id).mp List.mem_cons_self
    obtain ⟨before, after, replacements, outbox, hsplit, hrep, hrows, hs₁⟩ := cancelMessage_eq_ok h₁ hrow
    have hne := Table.key_ne_of_split hsplit
    obtain ⟨hnot, hnodup⟩ := List.nodup_cons.mp hnodup
    have hids₁ : ∀ id, id ∈ ids ↔ ∃ row ∈ state₁.1.notificationOutbox.rows,
        isUnsent kind row ∧ row.Names conditionId ∧ row.id = id := by
      intro id
      rw [hs₁]
      dsimp only
      rw [hrows]
      constructor
      · intro hid
        obtain ⟨other, hother, ho⟩ := (hids id).mp (List.mem_cons_of_mem _ hid)
        rw [hsplit, List.mem_append, List.mem_cons] at hother
        have : other ≠ row := by
          rintro rfl
          exact hnot (ho.2.2 ▸ hid)
        refine ⟨other, ?_, ho⟩
        simp only [List.mem_append, List.mem_cons]
        tauto
      · rintro ⟨other, hother, hou, hon, rfl⟩
        simp only [List.mem_append, List.mem_cons] at hother
        have hold : other ∈ before ++ after := by
          rcases hother with hb | rfl | ha | hr
          · exact List.mem_append_left _ hb
          · simp [isUnsent, cancelledRow] at hou
          · exact List.mem_append_right _ ha
          · exact absurd hon (hrep.not_names other hr)
        have hmem : other ∈ state.1.notificationOutbox.rows := by
          rw [hsplit]
          simp only [List.mem_append, List.mem_cons] at hold ⊢
          tauto
        have := (hids other.id).mpr ⟨other, hmem, hou, hon, rfl⟩
        exact (List.mem_cons.mp this).resolve_left (hne other hold)
    obtain ⟨hsteps, hnone⟩ := cancelMessages_eq_ok h hnodup hids₁
    refine ⟨.head ?_ hsteps, hnone⟩
    rw [hs₁]
    exact .cancel hsplit hu hn hrep hrows

/-- **What a cancellation leaves.** Its messages are cancelled one after the
other, and no unsent message names the condition any more. -/
theorem cancelUnsentCondition_eq_ok {uuids : ℕ → String} {conditionId : String}
    {kind : Option TransitionKind} {state state' : StateStore × ℕ}
    (h : cancelUnsentCondition uuids conditionId kind state = .ok state') :
    Relation.ReflTransGen (CancelStep conditionId kind) state.1 state'.1 ∧
      ∀ row ∈ state'.1.notificationOutbox.rows, isUnsent kind row → ¬row.Names conditionId :=
  cancelMessages_eq_ok h (nodup_unsentMessages conditionId kind state.1) fun _ => mem_unsentMessages

end StateStore

end Sentinel
