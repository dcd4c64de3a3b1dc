/-
# Batches

The messages built from a run's transitions: for each kind, the transitions
are cut into consecutive nonempty batches, in order and without loss, and a
message is the lines of its batch, within the length a notification may have.

Key theorems: `buildKind_eq_pack`, `buildKind_eq`, `buildOutbox_eq`, `buildOutbox_split`.
-/
import Sentinel.Lib.Fallible
import Sentinel.Lib.Greedy
import Sentinel.Store.Outbox

namespace Sentinel

/-! ### Lines -/

theorem notificationLine_length_le (summary : String) : (notificationLine summary).length ≤ notificationLimit := by
  unfold notificationLine
  dsimp only
  split
  · assumption
  · have hsuffix : truncationSuffix.length ≤ notificationLimit := by decide
    rw [String.length_append, truncateChars, String.length_ofList, List.length_take]
    omega

theorem length_intercalate_concat {lines : List String} (h : lines ≠ []) (line : String) :
    ("\n".intercalate (lines ++ [line])).length = ("\n".intercalate lines).length + 1 + line.length := by
  rw [String.intercalate_append_of_ne_nil h (by simp), String.intercalate_singleton, String.length_append,
    String.length_append]
  rfl

/-! ### Batches -/

/-- Every transition is of one kind or the other. -/
theorem perm_kinds (transitions : List ConditionTransition) :
    (transitions.filter (·.kind = .alert) ++ transitions.filter (·.kind = .resolution)).Perm transitions := by
  have hcomp : (transitions.filter fun t => t.kind = .resolution) =
      transitions.filter fun t => !decide (t.kind = .alert) := by
    refine List.filter_congr fun t _ => ?_
    cases t.kind <;> rfl
  rw [hcomp]
  exact List.filter_append_perm _ _

section Build

variable (uuids : ℕ → String) (report : RunReport) (suppressed : Bool)

/-- The message is a batch of these transitions. -/
structure IsBatch (kind : TransitionKind) (batch : List ConditionTransition) (message : OutboxMessage) :
    Prop where
  nonempty : batch ≠ []
  header : ∃ uuid, message = notificationBatch report suppressed uuid kind
    (batch.map fun transition => notificationLine transition.summary) (batch.map (·.conditionId))
  length_le : message.message.length ≤ notificationLimit

/-- The lines of a batch. -/
def batchLines (batch : List ConditionTransition) : List String :=
  batch.map fun transition => notificationLine transition.summary

/-- The characters a transition takes in a message. -/
def lineLength (transition : ConditionTransition) : ℕ := (notificationLine transition.summary).length

theorem length_intercalate_batchLines (batch : List ConditionTransition) :
    ("\n".intercalate (batchLines batch)).length = Greedy.joined lineLength batch := by
  induction batch using List.reverseRecOn with
  | nil => rfl
  | append_singleton batch transition ih =>
    rw [batchLines, List.map_append, List.map_singleton]
    by_cases hnil : batch = []
    · subst hnil
      simp [lineLength]
    · rw [length_intercalate_concat (by simpa using hnil), Greedy.joined_concat lineLength hnil]
      exact congrArg (· + 1 + lineLength transition) ih

/-- The batching whose unfinished batch holds these transitions. -/
def filling (messages : List OutboxMessage) (batch : List ConditionTransition) : Batching :=
  ⟨messages, batchLines batch, batch.map (·.conditionId), Greedy.joined lineLength batch⟩

/-- The message of a batch, by its place. -/
def batchMessage (kind : TransitionKind) (entry : List ConditionTransition × ℕ) : OutboxMessage :=
  notificationBatch report suppressed (uuids entry.2) kind (batchLines entry.1) (entry.1.map (·.conditionId))

theorem batchLines_ne_nil {batch : List ConditionTransition} (h : batch ≠ []) : batchLines batch ≠ [] := by
  simpa [batchLines] using h

/-- A transition joins the batch being filled, or closes it and opens the next. -/
theorem add_filling {kind : TransitionKind} {messages : List OutboxMessage} {batch : List ConditionTransition}
    (hne : batch ≠ []) (transition : ConditionTransition) :
    (filling messages batch).add uuids report suppressed kind transition =
      if notificationLimit < Greedy.joined lineLength batch + 1 + lineLength transition then
        filling (messages ++ [batchMessage uuids report suppressed kind (batch, messages.length)]) [transition]
      else filling messages (batch ++ [transition]) := by
  by_cases hfull : notificationLimit < Greedy.joined lineLength batch + 1 + lineLength transition
  · have hclose : (filling messages batch).lines ≠ [] ∧
        notificationLimit < (filling messages batch).length + 1 + (notificationLine transition.summary).length :=
      ⟨batchLines_ne_nil hne, hfull⟩
    rw [if_pos hfull]
    simp only [Batching.add, if_pos hclose]
    simp [Batching.flush, filling, batchMessage, batchLines, lineLength]
  · have hroom : ¬((filling messages batch).lines ≠ [] ∧
        notificationLimit < (filling messages batch).length + 1 + (notificationLine transition.summary).length) :=
      fun h => hfull h.2
    have hlines : (filling messages batch).lines ≠ [] := batchLines_ne_nil hne
    rw [if_neg hfull]
    simp only [Batching.add, if_neg hroom, if_pos hlines]
    simp [filling, batchLines, lineLength, Greedy.joined_concat _ hne]

/-- **The loop packs greedily** from any batch being filled. -/
theorem foldl_add_filling {kind : TransitionKind} : ∀ {transitions batch : List ConditionTransition}
    {messages : List OutboxMessage}, batch ≠ [] →
    ∃ closed last, transitions.foldl (Batching.add uuids report suppressed kind) (filling messages batch) =
        filling (messages ++ (closed.zipIdx messages.length).map (batchMessage uuids report suppressed kind)) last ∧
      last ≠ [] ∧ Greedy.fill lineLength notificationLimit batch transitions = closed ++ [last]
  | [], batch, messages, hne => ⟨[], batch, by simp, hne, rfl⟩
  | transition :: transitions, batch, messages, hne => by
    rw [List.foldl_cons, add_filling uuids report suppressed hne, Greedy.fill]
    by_cases hfull : notificationLimit < Greedy.joined lineLength batch + 1 + lineLength transition
    · rw [if_pos hfull, if_pos hfull]
      obtain ⟨closed, last, hfold, hlast, hfill⟩ := foldl_add_filling (List.cons_ne_nil transition [])
      refine ⟨batch :: closed, last, ?_, hlast, by rw [hfill, List.cons_append]⟩
      rw [hfold, List.zipIdx_cons, List.map_cons, List.length_append, List.length_singleton, List.append_assoc,
        List.singleton_append]
    · rw [if_neg hfull, if_neg hfull]
      exact foldl_add_filling (by simp)

/-- **The messages of one kind** are those of its transitions, packed. -/
theorem buildKind_eq_pack (transitions : List ConditionTransition) (messages : List OutboxMessage)
    (kind : TransitionKind) :
    buildKind uuids report suppressed transitions messages kind = messages ++
      ((Greedy.pack lineLength notificationLimit (transitions.filter (·.kind = kind))).zipIdx messages.length).map
        (batchMessage uuids report suppressed kind) := by
  unfold buildKind
  cases htransitions : transitions.filter (·.kind = kind) with
  | nil => simp [Greedy.pack]
  | cons transition rest =>
    -- the first transition finds the batch empty and opens it
    have hopen : Batching.add uuids report suppressed kind ⟨messages, [], [], 0⟩ transition =
        filling messages [transition] := by
      simp [Batching.add, filling, batchLines, lineLength]
    obtain ⟨closed, last, hfold, hlast, hfill⟩ := foldl_add_filling uuids report suppressed (List.cons_ne_nil transition [])
    rw [List.foldl_cons, hopen, hfold, Greedy.pack, hfill]
    have hopened : ∀ messages, (filling messages last).lines ≠ [] := fun _ => batchLines_ne_nil hlast
    dsimp only
    rw [if_pos (hopened _)]
    simp [Batching.flush, filling, batchMessage, List.zipIdx_append]

theorem isBatch_of_mem_pack {kind : TransitionKind} {transitions batch : List ConditionTransition}
    (h : batch ∈ Greedy.pack lineLength notificationLimit transitions) (place : ℕ) :
    IsBatch report suppressed kind batch (batchMessage uuids report suppressed kind (batch, place)) where
  nonempty := Greedy.ne_nil_of_mem_pack lineLength notificationLimit batch h
  header := ⟨uuids place, rfl⟩
  length_le := by
    have hjoined := Greedy.joined_le_of_mem_pack lineLength notificationLimit
      (fun transition _ => notificationLine_length_le transition.summary) batch h
    rwa [← length_intercalate_batchLines] at hjoined

/-- The packed transitions are the batches of the messages. -/
theorem forall₂_isBatch_pack (kind : TransitionKind) (transitions : List ConditionTransition) (first : ℕ) :
    List.Forall₂ (IsBatch report suppressed kind) (Greedy.pack lineLength notificationLimit transitions)
      (((Greedy.pack lineLength notificationLimit transitions).zipIdx first).map
        (batchMessage uuids report suppressed kind)) := by
  have hfst := List.zipIdx_map_fst first (Greedy.pack lineLength notificationLimit transitions)
  rw [List.forall₂_map_right_iff]
  conv_lhs => rw [← hfst]
  rw [List.forall₂_map_left_iff, List.forall₂_same]
  intro entry hentry
  have hmem : entry.1 ∈ Greedy.pack lineLength notificationLimit transitions :=
    hfst ▸ List.mem_map_of_mem hentry
  exact isBatch_of_mem_pack uuids report suppressed hmem entry.2

/-- The messages of one kind are batches of its transitions, in order. -/
theorem buildKind_eq (transitions : List ConditionTransition) (messages : List OutboxMessage)
    (kind : TransitionKind) :
    ∃ batches built, buildKind uuids report suppressed transitions messages kind = messages ++ built ∧
      List.Forall₂ (IsBatch report suppressed kind) batches built ∧
      batches.flatten = transitions.filter (·.kind = kind) :=
  ⟨_, _, buildKind_eq_pack uuids report suppressed transitions messages kind,
    forall₂_isBatch_pack uuids report suppressed kind _ _, Greedy.flatten_pack lineLength notificationLimit _⟩

/-- **The outbox of a run**: batches of its alerts, then of its resolutions. -/
theorem buildOutbox_eq (transitions : List ConditionTransition) :
    ∃ alerts resolutions alertMessages resolutionMessages,
      buildOutbox uuids report suppressed transitions = alertMessages ++ resolutionMessages ∧
      List.Forall₂ (IsBatch report suppressed .alert) alerts alertMessages ∧
      List.Forall₂ (IsBatch report suppressed .resolution) resolutions resolutionMessages ∧
      alerts.flatten = transitions.filter (·.kind = .alert) ∧
      resolutions.flatten = transitions.filter (·.kind = .resolution) := by
  obtain ⟨alerts, alertMessages, ha, hall, haf⟩ := buildKind_eq uuids report suppressed transitions [] .alert
  obtain ⟨resolutions, resolutionMessages, hr, hrall, hrf⟩ :=
    buildKind_eq uuids report suppressed transitions alertMessages .resolution
  refine ⟨alerts, resolutions, alertMessages, resolutionMessages, ?_, hall, hrall, haf, hrf⟩
  rw [List.nil_append] at ha
  simp only [buildOutbox, List.foldl_cons, List.foldl_nil, ha, hr]

/-! ### What a reader of the messages finds -/

/-- A transition's line: its summary in full, or cut to the limit. -/
theorem notificationLine_spec (summary : String) :
    (("- " ++ summary).length ≤ notificationLimit → notificationLine summary = "- " ++ summary) ∧
      (notificationLimit < ("- " ++ summary).length → (notificationLine summary).length = notificationLimit ∧
        ∃ start, start.toList <+: ("- " ++ summary).toList ∧
          notificationLine summary = start ++ " [truncated; see report]") := by
  constructor
  · intro hfits
    exact if_pos hfits
  · intro hlong
    have hcut : notificationLine summary =
        truncateChars ("- " ++ summary) (notificationLimit - truncationSuffix.length) ++ truncationSuffix :=
      if_neg (by omega)
    have hsuffix : truncationSuffix.length = 24 := by decide
    rw [hcut]
    refine ⟨?_, _, ?_, rfl⟩
    · rw [← String.length_toList] at hlong
      rw [String.length_append, truncateChars, String.length_ofList, List.length_take, hsuffix]
      simp only [notificationLimit] at hlong ⊢
      omega
    · rw [truncateChars, String.toList_ofList]
      exact List.take_prefix _ _

theorem lineLength_pos (transition : ConditionTransition) : 0 < lineLength transition := by
  obtain ⟨hfits, hlong⟩ := notificationLine_spec transition.summary
  by_cases hlength : ("- " ++ transition.summary).length ≤ notificationLimit
  · rw [lineLength, hfits hlength, String.length_append]
    exact Nat.lt_of_lt_of_le (by decide) (Nat.le_add_right "- ".length _)
  · rw [lineLength, (hlong (by omega)).1]
    decide

/-- The messages of one kind, read against its transitions: batches that lose
nothing, in order, each text the lines of its batch within the limit, each
batch as long as it can be. -/
structure IsSplit (kind : TransitionKind) (transitions : List ConditionTransition)
    (batches : List (List ConditionTransition)) (messages : List OutboxMessage) : Prop where
  complete : batches.flatten = transitions.filter (·.kind = kind)
  ids : messages.flatMap (·.conditionIds) = (transitions.filter (·.kind = kind)).map (·.conditionId)
  each : List.Forall₂ (fun batch message => batch ≠ [] ∧ message.transition = kind ∧
    message.conditionIds = batch.map (·.conditionId) ∧
    message.message = "\n".intercalate (batch.map fun transition => notificationLine transition.summary) ∧
    message.message ≠ "" ∧ message.message.length ≤ notificationLimit) batches messages
  greedy : batches.IsChain fun batch next => ∀ first ∈ next.head?,
    notificationLimit < ("\n".intercalate (batch.map fun transition => notificationLine transition.summary)).length +
      1 + (notificationLine first.summary).length

theorem isSplit_pack (kind : TransitionKind) (transitions : List ConditionTransition) (first : ℕ) :
    IsSplit kind transitions (Greedy.pack lineLength notificationLimit (transitions.filter (·.kind = kind)))
      (((Greedy.pack lineLength notificationLimit (transitions.filter (·.kind = kind))).zipIdx first).map
        (batchMessage uuids report suppressed kind)) := by
  have hall := forall₂_isBatch_pack uuids report suppressed kind (transitions.filter (·.kind = kind)) first
  have hcomplete := Greedy.flatten_pack lineLength notificationLimit (transitions.filter (·.kind = kind))
  refine ⟨hcomplete, ?_, hall.imp fun batch message h => ?_, ?_⟩
  · have hids : List.Forall₂ (fun (batch : List ConditionTransition) (message : OutboxMessage) =>
        batch.map (·.conditionId) = message.conditionIds) _ _ := hall.imp fun batch message h => by
      obtain ⟨uuid, rfl⟩ := h.header
      rfl
    rw [List.flatMap_def, ← Fallible.map_eq_map_of_forall₂ hids, ← List.map_flatten, hcomplete]
  · obtain ⟨hne, ⟨uuid, rfl⟩, hlength⟩ := h
    refine ⟨hne, rfl, rfl, rfl, fun hempty => ?_, hlength⟩
    -- the first line is not empty
    obtain ⟨transition, rest, rfl⟩ := List.exists_cons_of_ne_nil hne
    have hzero : Greedy.joined lineLength (transition :: rest) = 0 := by
      rw [← length_intercalate_batchLines]
      exact congrArg String.length hempty
    have hpos := lineLength_pos transition
    rw [Greedy.joined, List.map_cons, List.sum_cons] at hzero
    omega
  · refine (Greedy.isChain_pack lineLength notificationLimit _).imp fun batch next h transition hfirst => ?_
    have hfits := h transition hfirst
    rwa [← length_intercalate_batchLines] at hfits

/-- **Batching loses nothing and respects the limit**: the messages are those
of the alerts, then those of the resolutions; a line is its summary, cut if
it is too long for a message of its own. -/
theorem buildOutbox_split (transitions : List ConditionTransition) :
    (∃ alerts resolutions alertMessages resolutionMessages,
      buildOutbox uuids report suppressed transitions = alertMessages ++ resolutionMessages ∧
      IsSplit .alert transitions alerts alertMessages ∧
      IsSplit .resolution transitions resolutions resolutionMessages) ∧
    ∀ summary : String,
      (("- " ++ summary).length ≤ notificationLimit → notificationLine summary = "- " ++ summary) ∧
      (notificationLimit < ("- " ++ summary).length → (notificationLine summary).length = notificationLimit ∧
        ∃ start, start.toList <+: ("- " ++ summary).toList ∧
          notificationLine summary = start ++ " [truncated; see report]") := by
  have halerts := isSplit_pack uuids report suppressed .alert transitions 0
  have hresolutions := isSplit_pack uuids report suppressed .resolution transitions
    (Greedy.pack lineLength notificationLimit (transitions.filter (·.kind = .alert))).length
  refine ⟨⟨_, _, _, _, ?_, halerts, hresolutions⟩, notificationLine_spec⟩
  simp only [buildOutbox, List.foldl_cons, List.foldl_nil, buildKind_eq_pack, List.nil_append, List.length_nil,
    List.length_map, List.length_zipIdx]

end Build

end Sentinel
