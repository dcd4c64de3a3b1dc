/-
# The ledger of the outbox

An entry is one condition's place in a message: the condition, its episode,
the kind of message and the message's status. The ledger is the multiset of
the entries of the messages that are not cancelled, whatever messages they
are batched in: cancelling a condition's messages removes its unsent entries
and no other, however the batches are split to do so.

Key theorems: `ledger_cancelUnsentCondition`, `ledger_pruneRuns`, `countP_ledger`.
-/
import Sentinel.Store.Commit
import Mathlib.Algebra.BigOperators.Group.List.Basic
import Mathlib.Algebra.Order.Group.Multiset
import Mathlib.Data.Multiset.Filter
import Mathlib.Tactic.Abel

namespace Sentinel

open Collections

/-- One condition's place in a message. -/
structure Entry where
  conditionId : String
  episodeId : String
  kind : TransitionKind
  status : NotificationStatus
  deriving DecidableEq, Repr

/-- The place of a member in a message of this kind and status. -/
def NotificationCondition.entry (kind : TransitionKind) (status : NotificationStatus)
    (member : NotificationCondition) : Entry :=
  ⟨member.conditionId, member.episodeId, kind, status⟩

/-- What a message contributes: its entries, unless it is cancelled. -/
def OutboxRow.live (row : OutboxRow) : Multiset Entry :=
  if row.status = .cancelled then 0 else ↑(row.conditions.rows.map (·.entry row.transition row.status))

/-- The entries of the messages that are not cancelled. -/
def liveEntries (rows : List OutboxRow) : Multiset Entry := (rows.map OutboxRow.live).sum

def StateStore.ledger (store : StateStore) : Multiset Entry := liveEntries store.notificationOutbox.rows

/-! ### The ledger of a list of rows -/

@[simp] theorem liveEntries_nil : liveEntries [] = 0 := rfl

@[simp] theorem liveEntries_cons (row : OutboxRow) (rows : List OutboxRow) :
    liveEntries (row :: rows) = row.live + liveEntries rows := by
  simp [liveEntries]

@[simp] theorem liveEntries_append (rows rows' : List OutboxRow) :
    liveEntries (rows ++ rows') = liveEntries rows + liveEntries rows' := by
  simp [liveEntries]

theorem mem_liveEntries {rows : List OutboxRow} {entry : Entry} :
    entry ∈ liveEntries rows ↔ ∃ row ∈ rows, entry ∈ row.live := by
  induction rows with
  | nil => simp
  | cons row rows ih => simp [ih]

theorem mem_live {row : OutboxRow} {entry : Entry} :
    entry ∈ row.live ↔ row.status ≠ .cancelled ∧
      ∃ member ∈ row.conditions.rows, entry = member.entry row.transition row.status := by
  unfold OutboxRow.live
  split
  case isTrue h => simp [h]
  case isFalse h => simp [h, eq_comm]

/-- A row's entries have its kind and status. -/
theorem kind_of_mem_live {row : OutboxRow} {entry : Entry} (h : entry ∈ row.live) :
    entry.kind = row.transition ∧ entry.status = row.status := by
  obtain ⟨-, member, -, rfl⟩ := mem_live.mp h
  exact ⟨rfl, rfl⟩

/-! ### Cancelling -/

/-- No attempt has claimed the entry. -/
def Entry.isUnsent (entry : Entry) : Bool := entry.status ∈ [.pending, .retryable]

/-- The entry is an unsent one of the condition, of the kind asked for. -/
def Entry.isWithdrawn (conditionId : String) (kind : Option TransitionKind) (entry : Entry) : Bool :=
  entry.conditionId = conditionId ∧ (∀ k ∈ kind, entry.kind = k) ∧ entry.isUnsent

@[simp] theorem live_cancelledRow (row : OutboxRow) : (StateStore.cancelledRow row).live = 0 := by
  simp [OutboxRow.live, StateStore.cancelledRow]

/-- The entries of an unsent message that a replacement takes over. -/
theorem liveEntries_replacements {conditionId : String} {kind : Option TransitionKind} {row : OutboxRow}
    {replacements : List OutboxRow} (hu : StateStore.isUnsent kind row)
    (h : StateStore.IsReplacement conditionId row replacements) :
    liveEntries replacements = row.live.filter fun entry => entry.conditionId ≠ conditionId := by
  have hstatus : row.status ≠ .cancelled := by
    intro hs
    simp [StateStore.isUnsent, hs] at hu
  have hkept : (row.live.filter fun entry => entry.conditionId ≠ conditionId) =
      ↑((StateStore.survivors conditionId row).map (·.entry row.transition row.status)) := by
    rw [OutboxRow.live, if_neg hstatus, Multiset.filter_coe, List.filter_map, Multiset.coe_eq_coe]
    refine List.Perm.map _ (List.Perm.filter _ ?_).symm
    exact perm_orderBy _ _
  rw [hkept]
  rcases h with ⟨hnil, rfl⟩ | ⟨-, uuid, conditions, hc, rfl⟩
  · simp [hnil]
  · simp [OutboxRow.live, StateStore.replacementRow, hc, hstatus]

/-- **One cancelled message takes the condition's entry out of the ledger.**
The other entries of the message stay. -/
theorem ledger_cancelStep {conditionId : String} {kind : Option TransitionKind} {store store' : StateStore}
    (h : StateStore.CancelStep conditionId kind store store') :
    store'.ledger.filter (fun entry => !entry.isWithdrawn conditionId kind) =
        store.ledger.filter (fun entry => !entry.isWithdrawn conditionId kind) ∧
      store'.ledger ≤ store.ledger := by
  obtain ⟨hsplit, hu, hn, hrep, hrows⟩ := h
  rename_i row before after replacements outbox
  have hold : store.ledger = liveEntries before + liveEntries after + row.live := by
    rw [StateStore.ledger, hsplit, liveEntries_append, liveEntries_cons]
    abel
  have hnew : StateStore.ledger { store with notificationOutbox := outbox } =
      liveEntries before + liveEntries after + row.live.filter fun entry => entry.conditionId ≠ conditionId := by
    rw [StateStore.ledger, hrows]
    simp only [liveEntries_append, liveEntries_cons, live_cancelledRow, zero_add,
      liveEntries_replacements hu hrep, add_assoc]
  have hrow : ∀ entry ∈ row.live, entry.isWithdrawn conditionId kind ↔ entry.conditionId = conditionId := by
    intro entry hm
    obtain ⟨hk, hs⟩ := kind_of_mem_live hm
    simp only [StateStore.isUnsent, decide_eq_true_eq] at hu
    simp only [Entry.isWithdrawn, Entry.isUnsent, hk, hs, decide_eq_true_eq]
    exact ⟨fun h => h.1, fun h => ⟨h, hu⟩⟩
  rw [hold, hnew]
  constructor
  · rw [Multiset.filter_add, Multiset.filter_add _ (_ + _) row.live, Multiset.filter_filter]
    congr 1
    refine Multiset.filter_congr fun entry hm => ?_
    have := hrow entry hm
    by_cases hc : entry.conditionId = conditionId <;> simp_all
  · exact add_le_add_right (Multiset.filter_le _ _) _

theorem Entry.isWithdrawn_iff {conditionId : String} {kind : Option TransitionKind} {entry : Entry} :
    entry.isWithdrawn conditionId kind ↔
      entry.conditionId = conditionId ∧ (∀ k ∈ kind, entry.kind = k) ∧ entry.status ∈ [.pending, .retryable] := by
  simp [isWithdrawn, isUnsent]

theorem StateStore.isUnsent_iff {kind : Option TransitionKind} {row : OutboxRow} :
    StateStore.isUnsent kind row ↔
      (∀ k ∈ kind, row.transition = k) ∧ row.status ∈ [.pending, .retryable] := by
  simp [StateStore.isUnsent]

/-- **Cancelling a condition's messages takes exactly its unsent entries out
of the ledger.** -/
theorem ledger_cancelUnsentCondition {uuids : ℕ → String} {conditionId : String}
    {kind : Option TransitionKind} {state state' : StateStore × ℕ}
    (h : StateStore.cancelUnsentCondition uuids conditionId kind state = .ok state') :
    state'.1.ledger = state.1.ledger.filter fun entry => !entry.isWithdrawn conditionId kind := by
  obtain ⟨hsteps, hnone⟩ := StateStore.cancelUnsentCondition_eq_ok h
  have hsame : ∀ {store : StateStore}, Relation.ReflTransGen (StateStore.CancelStep conditionId kind) state.1 store →
      store.ledger.filter (fun entry => !entry.isWithdrawn conditionId kind) =
        state.1.ledger.filter (fun entry => !entry.isWithdrawn conditionId kind) := by
    intro store hs
    induction hs with
    | refl => rfl
    | tail _ hstep ih => exact (ledger_cancelStep hstep).1.trans ih
  rw [← hsame hsteps, Multiset.filter_eq_self.mpr]
  intro entry hm
  obtain ⟨row, hrow, hlive⟩ := mem_liveEntries.mp hm
  obtain ⟨-, member, hmember, rfl⟩ := mem_live.mp hlive
  rw [Bool.not_eq_true', ← Bool.not_eq_true]
  intro hw
  obtain ⟨hc, hk, hu⟩ := Entry.isWithdrawn_iff.mp hw
  exact hnone row hrow (StateStore.isUnsent_iff.mpr ⟨hk, hu⟩) ⟨member, hmember, hc⟩

/-- A cancellation changes nothing but the outbox. -/
theorem StateStore.CancelStep.frame {conditionId : String} {kind : Option TransitionKind}
    {store store' : StateStore} (h : StateStore.CancelStep conditionId kind store store') :
    store' = { store with notificationOutbox := store'.notificationOutbox } := by
  cases h
  rfl

/-! ### Counting messages -/

/-- The message has a member of the condition and episode. -/
def OutboxRow.Holds (conditionId episodeId : String) (row : OutboxRow) : Prop :=
  ∃ member ∈ row.conditions.rows, member.conditionId = conditionId ∧ member.episodeId = episodeId

instance (conditionId episodeId : String) (row : OutboxRow) : Decidable (row.Holds conditionId episodeId) := by
  unfold OutboxRow.Holds; infer_instance

/-- The messages of a kind with a member of the condition and episode, and
such a status. -/
def messagesOf (conditionId episodeId : String) (kind : TransitionKind) (p : NotificationStatus → Bool)
    (store : StateStore) : List OutboxRow :=
  store.notificationOutbox.rows.filter fun row =>
    p row.status && row.transition = kind && row.Holds conditionId episodeId

/-- The entry is of this condition, episode and kind. -/
def Entry.IsOf (conditionId episodeId : String) (kind : TransitionKind) (entry : Entry) : Prop :=
  entry.conditionId = conditionId ∧ entry.episodeId = episodeId ∧ entry.kind = kind

instance (conditionId episodeId : String) (kind : TransitionKind) (entry : Entry) :
    Decidable (entry.IsOf conditionId episodeId kind) := by
  unfold Entry.IsOf; infer_instance

theorem countP_live (conditionId episodeId : String) (kind : TransitionKind) {p : NotificationStatus → Bool}
    (hp : p .cancelled = false) (row : OutboxRow) :
    row.live.countP (fun entry => entry.IsOf conditionId episodeId kind ∧ p entry.status) =
      if p row.status && row.transition = kind && row.Holds conditionId episodeId then 1 else 0 := by
  unfold OutboxRow.live
  by_cases hs : row.status = .cancelled
  · simp [hs, hp]
  have hholds : row.Holds conditionId episodeId ↔
      ∃ member, row.conditions.find? conditionId = some member ∧ member.episodeId = episodeId := by
    simp only [OutboxRow.Holds, Table.find?_eq_some_iff, and_assoc]
  rw [if_neg hs, Multiset.coe_countP, List.countP_map, List.countP_eq_length_filter]
  have hfilter : row.conditions.rows.filter ((fun entry : Entry => decide
        (entry.IsOf conditionId episodeId kind ∧ p entry.status)) ∘ (·.entry row.transition row.status)) =
      (row.conditions.find? conditionId).toList.filter fun member =>
        p row.status && row.transition = kind && member.episodeId = episodeId := by
    rw [← Table.filter_key, List.filter_filter]
    refine List.filter_congr fun member _ => ?_
    rw [Bool.eq_iff_iff]
    rw [Function.comp, decide_eq_true_eq]
    simp only [Entry.IsOf, NotificationCondition.entry, decide_eq_true_eq, Bool.and_eq_true]
    tauto
  rw [hfilter]
  cases hfind : row.conditions.find? conditionId with
  | none => simp [hholds, hfind]
  | some member =>
    by_cases he : member.episodeId = episodeId <;> simp [hholds, hfind, he, List.filter_cons]
    split <;> rfl

/-- **Entries count messages.** -/
theorem countP_ledger (conditionId episodeId : String) (kind : TransitionKind) {p : NotificationStatus → Bool}
    (hp : p .cancelled = false) (store : StateStore) :
    store.ledger.countP (fun entry => entry.IsOf conditionId episodeId kind ∧ p entry.status) =
      (messagesOf conditionId episodeId kind p store).length := by
  unfold StateStore.ledger messagesOf
  induction store.notificationOutbox.rows with
  | nil => rfl
  | cons row rows ih =>
    rw [liveEntries_cons, Multiset.countP_add, ih, countP_live _ _ _ hp, List.filter_cons]
    split
    · rw [List.length_cons]
      omega
    · omega

/-! ### Other writes to the outbox -/

theorem liveEntries_filter_le (p : OutboxRow → Bool) (rows : List OutboxRow) :
    liveEntries (rows.filter p) ≤ liveEntries rows := by
  induction rows with
  | nil => exact le_rfl
  | cons row rows ih =>
    rw [List.filter_cons, liveEntries_cons]
    split
    · rw [liveEntries_cons]
      exact add_le_add_right ih _
    · exact ih.trans (Multiset.le_add_left _ _)

theorem filter_liveEntries_filter {p : OutboxRow → Bool} {q : Entry → Prop} [DecidablePred q] :
    ∀ {rows : List OutboxRow}, (∀ row ∈ rows, p row = false → ∀ entry ∈ row.live, ¬q entry) →
    (liveEntries (rows.filter p)).filter q = (liveEntries rows).filter q
  | [], _ => rfl
  | row :: rows, h => by
    have ih : (liveEntries (rows.filter p)).filter q = (liveEntries rows).filter q :=
      filter_liveEntries_filter fun r hr => h r (List.mem_cons_of_mem _ hr)
    rw [List.filter_cons, liveEntries_cons, Multiset.filter_add, ← ih]
    split
    case isTrue => rw [liveEntries_cons, Multiset.filter_add]
    case isFalse hp =>
      rw [Multiset.filter_eq_nil.mpr (h row List.mem_cons_self (by simpa using hp)), zero_add]

/-- The entry's message keeps its run. -/
def Entry.isUnsettled (entry : Entry) : Bool :=
  entry.status ∈ [.pending, .retryable, .inFlight, .unknown, .failed]

/-- Retention releases runs from before the cutoff only. -/
theorem lt_of_isReleased {cutoff : Timestamp} {store : StateStore} {run : RunRow}
    (h : store.isReleased cutoff run) : run.completedAt < cutoff := by
  simp only [StateStore.isReleased, Bool.and_eq_true, decide_eq_true_eq] at h
  exact h.1.1

/-- Retention deletes no message that is not settled. -/
theorem pruneRuns_keeps {cutoff : Timestamp} {store : StateStore} {row : OutboxRow}
    (hrow : row ∈ store.notificationOutbox.rows) (hu : StateStore.isUnsettled row) :
    row ∈ (store.pruneRuns cutoff).notificationOutbox.rows := by
  simp only [StateStore.pruneRuns, Table.rows_filter, List.mem_filter, hrow, true_and, Bool.not_eq_true',
    List.any_eq_false]
  rintro run ⟨-, hreleased⟩ hid
  simp only [StateStore.isReleased, Bool.and_eq_true, Bool.not_eq_true', List.any_eq_false,
    decide_eq_true_eq] at hreleased hid
  exact hreleased.2 row hrow (by simp [hid, hu])

/-- Retention deletes no message of a run it keeps. -/
theorem pruneRuns_keeps_of_run {cutoff : Timestamp} {store : StateStore} {row : OutboxRow} {run : RunRow}
    (hrow : row ∈ store.notificationOutbox.rows) (hrun : run ∈ (store.pruneRuns cutoff).runs.rows)
    (hid : run.id = row.runId) : row ∈ (store.pruneRuns cutoff).notificationOutbox.rows := by
  obtain ⟨hstored, hunreleased⟩ := List.mem_filter.mp hrun
  simp only [StateStore.pruneRuns, Table.rows_filter, List.mem_filter, hrow, true_and, Bool.not_eq_true',
    List.any_eq_false]
  rintro other ⟨hother, hreleased⟩ hsame
  obtain rfl := store.runs.eq_of_key_eq hother hstored ((of_decide_eq_true hsame).trans hid.symm)
  rw [hreleased] at hunreleased
  cases hunreleased

/-- **Retention takes settled entries out of the ledger, and nothing else.** -/
theorem ledger_pruneRuns (cutoff : Timestamp) (store : StateStore) :
    (store.pruneRuns cutoff).ledger ≤ store.ledger ∧
      (store.pruneRuns cutoff).ledger.filter (fun entry => entry.isUnsettled) =
        store.ledger.filter fun entry => entry.isUnsettled := by
  refine ⟨liveEntries_filter_le _ _, filter_liveEntries_filter fun row hrow hp entry hentry hu => ?_⟩
  have hkept : row ∈ (store.pruneRuns cutoff).notificationOutbox.rows := by
    refine pruneRuns_keeps hrow ?_
    have := (kind_of_mem_live hentry).2
    simpa [StateStore.isUnsettled, Entry.isUnsettled, this] using hu
  have := (List.mem_filter.mp hkept).2
  rw [hp] at this
  cases this

end Sentinel
