/-
# The delivery desk

What delivery does, without its tables: a ledger of entries and a view of
every latch. A run moves the latches and queues what they announce; a message
is claimed, and its attempt ends with a result. When run ids are distinct
nothing is announced twice, so every announcement has one entry at most, and
a result other than `retryable` is the last thing that happens to it.

Key theorems: `Sound.commit`, `Sound.settle`, `DeskRun.sound`, `DeskRun.confirmed`.
-/
import Sentinel.Delivery.LatchMove
import Sentinel.Store.Attempt

namespace Sentinel

/-- What a message tells of a condition: that its episode began, or ended. -/
structure Announcement where
  conditionId : String
  episodeId : String
  kind : TransitionKind
  deriving DecidableEq, Repr

def Announcement.entry (status : NotificationStatus) (a : Announcement) : Entry :=
  ⟨a.conditionId, a.episodeId, a.kind, status⟩

def Entry.announcement (entry : Entry) : Announcement := ⟨entry.conditionId, entry.episodeId, entry.kind⟩

@[simp] theorem announcement_entry (status : NotificationStatus) (a : Announcement) :
    (a.entry status).announcement = a := rfl

@[simp] theorem status_entry (status : NotificationStatus) (a : Announcement) : (a.entry status).status = status := rfl

/-! ### Events -/

/-- What happened to a database. -/
inductive Event where
  /-- A run was committed, with what it queued. -/
  | committed (runId : String) (suppressed : Bool) (queued : List Announcement)
  /-- A message was claimed. -/
  | claimed (announcements : List Announcement)
  /-- An attempt ended with this result, recorded or recovered. -/
  | ended (announcements : List Announcement) (status : NotificationStatus)

def runIds (events : List Event) : List String :=
  events.flatMap fun
    | .committed runId _ _ => [runId]
    | _ => []

/-- What was queued, by runs that suppressed notifications or by those that
did not. -/
def queuedBy (suppressed : Bool) (events : List Event) : List Announcement :=
  events.flatMap fun
    | .committed _ s queued => if s = suppressed then queued else []
    | _ => []

/-- What was queued. -/
def created (events : List Event) : List Announcement :=
  events.flatMap fun
    | .committed _ _ queued => queued
    | _ => []

section Events

variable {events : List Event} {a : Announcement}

theorem mem_queuedBy {suppressed : Bool} :
    a ∈ queuedBy suppressed events ↔ ∃ runId queued, .committed runId suppressed queued ∈ events ∧ a ∈ queued := by
  rw [queuedBy, List.mem_flatMap]
  constructor
  · rintro ⟨event, he, ha⟩
    cases event with
    | committed runId s queued =>
      dsimp only at ha
      split at ha
      case isTrue hs => exact ⟨runId, queued, hs ▸ he, ha⟩
      case isFalse => cases ha
    | claimed => cases ha
    | ended => cases ha
  · rintro ⟨runId, queued, he, ha⟩
    exact ⟨_, he, by simpa using ha⟩

theorem mem_created_of_mem_queuedBy {suppressed : Bool} (h : a ∈ queuedBy suppressed events) : a ∈ created events := by
  obtain ⟨runId, queued, he, ha⟩ := mem_queuedBy.mp h
  exact List.mem_flatMap.mpr ⟨_, he, ha⟩

/-- What is queued once is not queued by both kinds of run. -/
theorem not_mem_queuedBy_true (hn : (created events).Nodup) (h : a ∈ queuedBy false events) :
    a ∉ queuedBy true events := by
  induction events with
  | nil => cases h
  | cons event events ih =>
    have hrest : (created events).Nodup := by
      rw [created, List.flatMap_cons] at hn
      exact (List.nodup_append.mp hn).2.1
    cases event with
    | committed runId s queued =>
      have hnew : ∀ b ∈ queued, ∀ c ∈ created events, b ≠ c := (List.nodup_append.mp hn).2.2
      rw [queuedBy, List.flatMap_cons, List.mem_append] at h ⊢
      rintro (ht | ht)
      · rcases h with h | h
        · cases s <;> simp at h ht
        · cases s with
          | false => cases ht
          | true => exact hnew a ht a (mem_created_of_mem_queuedBy h) rfl
      · rcases h with h | h
        · cases s with
          | false => exact hnew a h a (mem_created_of_mem_queuedBy ht) rfl
          | true => cases h
        · exact ih hrest h ht
    | claimed => exact ih hrest h
    | ended => exact ih hrest h

end Events

/-! ### Steps -/

/-- The entries of the outbox, and what delivery sees of every latch. -/
structure Desk where
  ledger : Multiset Entry
  latch : String → LatchView

/-- A latch after a result for these announcements. -/
def settledView (conditionId : String) (announcements : List Announcement) (result : Option AlertDeliveryState)
    (view : LatchView) : LatchView :=
  match result with
  | some state =>
    if ∃ a ∈ announcements, a.conditionId = conditionId ∧ view.episode = some a.episodeId then
      { view with delivery := state }
    else view
  | none => view

/-- A result leaves a latch, or changes its delivery for an announcement of
its episode. -/
theorem settledView_cases (conditionId : String) (announcements : List Announcement)
    (result : Option AlertDeliveryState) (view : LatchView) :
    settledView conditionId announcements result view = view ∨
      ∃ state, result = some state ∧ settledView conditionId announcements result view = { view with delivery := state } ∧
        ∃ a ∈ announcements, a.conditionId = conditionId ∧ view.episode = some a.episodeId := by
  unfold settledView
  split
  case h_1 state =>
    split
    case isTrue hmem => exact .inr ⟨state, rfl, rfl, hmem⟩
    case isFalse => exact .inl rfl
  case h_2 => exact .inl rfl

theorem settledView_frame (conditionId : String) (announcements : List Announcement)
    (result : Option AlertDeliveryState) (view : LatchView) :
    (settledView conditionId announcements result view).lifecycle = view.lifecycle ∧
      (settledView conditionId announcements result view).episode = view.episode := by
  rcases settledView_cases conditionId announcements result view with hsame | ⟨state, -, hnew, -⟩
  · rw [hsame]
    exact ⟨rfl, rfl⟩
  · rw [hnew]
    exact ⟨rfl, rfl⟩

/-- **What a step does to the desk.** A commit may also drop entries: it
withdraws some, and retention deletes some. -/
inductive DeskStep : Desk → Event → Desk → Prop
  | commit {desk desk' : Desk} {runId : String} {suppress : Bool} {queued : List Announcement}
      (moves : ∀ conditionId, ∃ kind withdrawal,
        LatchMove runId suppress (desk.latch conditionId) (desk'.latch conditionId) kind withdrawal ∧
        (queued.filter fun a => a.conditionId = conditionId) =
          kind.toList.map fun k => ⟨conditionId, (desk'.latch conditionId).episode.getD "", k⟩)
      (ledger : desk'.ledger ≤
        desk.ledger + ↑(queued.map (Announcement.entry (if suppress then .suppressed else .pending)))) :
      DeskStep desk (.committed runId suppress queued) desk'
  | claim {desk desk' : Desk} {announcements : List Announcement} {status : NotificationStatus}
      {rest : Multiset Entry} (unsent : status ∈ [.pending, .retryable])
      (before : desk.ledger = rest + ↑(announcements.map (Announcement.entry status)))
      (after : desk'.ledger = rest + ↑(announcements.map (Announcement.entry .inFlight)))
      (latch : desk'.latch = desk.latch) : DeskStep desk (.claimed announcements) desk'
  | settle {desk desk' : Desk} {announcements : List Announcement} {kind : TransitionKind}
      {status : NotificationStatus} {rest : Multiset Entry} (kinds : ∀ a ∈ announcements, a.kind = kind)
      (result : status ∈ [.delivered, .retryable, .failed, .unknown])
      (before : desk.ledger = rest + ↑(announcements.map (Announcement.entry .inFlight)))
      (after : desk'.ledger = rest + ↑(announcements.map (Announcement.entry status)))
      (latch : ∀ conditionId, desk'.latch conditionId =
        settledView conditionId announcements (deliveredState status kind) (desk.latch conditionId)) :
      DeskStep desk (.ended announcements status) desk'

/-- A desk and its past, latest first. -/
inductive DeskRun : List Event → Desk → Prop
  | start : DeskRun [] ⟨0, fun _ => ⟨.clear, .never, none⟩⟩
  | step {events : List Event} {desk desk' : Desk} {event : Event} (h : DeskRun events desk)
      (step : DeskStep desk event desk') : DeskRun (event :: events) desk'

theorem DeskRun.inEpisode {events : List Event} {desk : Desk} (h : DeskRun events desk) (conditionId : String) :
    (desk.latch conditionId).InEpisode := by
  induction h with
  | start => exact fun hne => absurd rfl hne
  | step _ step ih =>
    cases step with
    | commit moves =>
      obtain ⟨_, _, hmove, -⟩ := moves conditionId
      exact hmove.inEpisode ih
    | claim _ _ _ latch => exact latch ▸ ih
    | settle _ _ _ _ latch =>
      rw [latch, LatchView.InEpisode, (settledView_frame ..).1, (settledView_frame ..).2]
      exact ih

/-- A latch's episode is the run that began it. -/
theorem DeskRun.latched {events : List Event} {desk : Desk} (h : DeskRun events desk) (conditionId : String)
    {episode : String} (he : (desk.latch conditionId).episode = some episode) : episode ∈ runIds events := by
  induction h with
  | start => cases he
  | step _ step ih =>
    cases step with
    | commit moves =>
      obtain ⟨_, _, hmove, -⟩ := moves conditionId
      rcases hmove.episode with hsame | hrun
      · exact List.mem_cons_of_mem _ (ih (hsame ▸ he))
      · rw [hrun, Option.some.injEq] at he
        exact he ▸ List.mem_cons_self
    | claim _ _ _ latch => exact ih (latch ▸ he)
    | settle _ _ _ _ latch =>
      rw [latch, (settledView_frame ..).2] at he
      exact ih he

/-! ### What has not been told -/

/-- A latch has yet to announce: a pending one its alert, one that is not
clear its resolution. -/
structure LatchView.Untold (told : String → TransitionKind → Prop) (view : LatchView) : Prop where
  alert : ∀ episode, view.episode = some episode → view.lifecycle = .pending → ¬told episode .alert
  resolution : ∀ episode, view.episode = some episode → view.lifecycle ≠ .clear → ¬told episode .resolution

/-- **A move announces what has not been told**, if its run's id is new. -/
theorem LatchMove.untold {runId : String} {suppress : Bool} {view view' : LatchView} {kind : Option TransitionKind}
    {withdrawal : Withdrawal} {told : String → TransitionKind → Prop}
    (h : LatchMove runId suppress view view' kind withdrawal) (hep : view.InEpisode) (hu : view.Untold told)
    (fresh : ∀ k, ¬told runId k) :
    (∀ k, kind = some k → ¬told (view'.episode.getD "") k) ∧
      view'.Untold fun episode k => told episode k ∨ kind = some k ∧ episode = view'.episode.getD "" := by
  cases h with
  | idle =>
    refine ⟨by simp, ⟨fun episode he hl => ?_, fun episode he hl => ?_⟩⟩
    · simpa using hu.alert episode he hl
    · simpa using hu.resolution episode he hl
  | begins delivery episode =>
    refine ⟨by simp, ⟨fun e he _ => ?_, fun e he _ => ?_⟩⟩
    · obtain rfl := Option.some.inj he
      simpa using fresh .alert
    · obtain rfl := Option.some.inj he
      simpa using fresh .resolution
  | beginsFiring delivery episode =>
    refine ⟨fun k _ => fresh k, ⟨fun e _ hl => (nomatch hl), fun e he _ => ?_⟩⟩
    obtain rfl := Option.some.inj he
    simpa using fresh .resolution
  | fires delivery episode =>
    obtain ⟨e, rfl⟩ := Option.isSome_iff_exists.mp (hep (by simp))
    refine ⟨fun k hk => ?_, ⟨fun _ _ hl => (nomatch hl), fun e' he _ => ?_⟩⟩
    · obtain rfl := Option.some.inj hk
      exact hu.alert e rfl rfl
    · simpa using hu.resolution e' he (by simp)
  | resolves delivery episode confirmed =>
    obtain ⟨e, rfl⟩ := Option.isSome_iff_exists.mp (hep (by simp))
    refine ⟨fun k hk => ?_, ⟨fun _ _ hl => (nomatch hl), fun e' _ hl => absurd rfl hl⟩⟩
    obtain rfl := Option.some.inj hk
    exact hu.resolution e rfl (by simp)
  | recovers lifecycle delivery episode latched unconfirmed =>
    exact ⟨by simp, ⟨fun _ _ hl => (nomatch hl), fun e' _ hl => absurd rfl hl⟩⟩

/-! ### The invariant -/

/-- What holds of a desk and its past when run ids are distinct. -/
structure Sound (events : List Event) (desk : Desk) : Prop where
  announced : ∀ a ∈ created events, a.episodeId ∈ runIds events
  untold : ∀ conditionId, (desk.latch conditionId).Untold fun episode k => ⟨conditionId, episode, k⟩ ∈ created events
  once : (created events).Nodup
  entries : ∀ entry ∈ desk.ledger, entry.announcement ∈ created events
  single : (desk.ledger.map Entry.announcement).Nodup
  /-- Only what was not suppressed is sent. -/
  sent : ∀ entry ∈ desk.ledger, entry.status ≠ .suppressed → entry.announcement ∈ queuedBy false events
  ended : ∀ announcements status, .ended announcements status ∈ events →
    status ∈ [.delivered, .retryable, .failed, .unknown] ∧ ∀ a ∈ announcements, a ∈ queuedBy false events
  /-- A result other than `retryable` stays. -/
  settled : ∀ announcements status, .ended announcements status ∈ events → status ≠ .retryable →
    ∀ entry ∈ desk.ledger, entry.announcement ∈ announcements → entry.status = status
  /-- There is one such result. -/
  unique : ∀ announcements status announcements' status', .ended announcements status ∈ events →
    .ended announcements' status' ∈ events → status ≠ .retryable → status' ≠ .retryable →
    ∀ a ∈ announcements, a ∈ announcements' → status = status'

theorem sound_start : Sound [] ⟨0, fun _ => ⟨.clear, .never, none⟩⟩ where
  announced _ ha := nomatch ha
  untold _ := ⟨fun _ he => (nomatch he), fun _ he => (nomatch he)⟩
  once := List.nodup_nil
  entries _ hm := (Multiset.notMem_zero _ hm).elim
  single := Multiset.nodup_zero
  sent _ hm := (Multiset.notMem_zero _ hm).elim
  ended _ _ hm := nomatch hm
  settled _ _ hm := nomatch hm
  unique _ _ _ _ hm := nomatch hm

namespace Sound

variable {events : List Event} {desk desk' : Desk}

/-- What a run queues for one condition is what its latch's move announces. -/
theorem mem_queued_iff {queued : List Announcement} {conditionId announced : String} {kind : Option TransitionKind}
    (h : (queued.filter fun a => a.conditionId = conditionId) =
      kind.toList.map fun k => ⟨conditionId, announced, k⟩) (episode : String) (k : TransitionKind) :
    (⟨conditionId, episode, k⟩ : Announcement) ∈ queued ↔ kind = some k ∧ episode = announced := by
  have hmem : (⟨conditionId, episode, k⟩ : Announcement) ∈ queued ↔
      ⟨conditionId, episode, k⟩ ∈ queued.filter fun a => a.conditionId = conditionId := by simp
  rw [hmem, h]
  cases kind with
  | none => simp
  | some k' =>
    simp only [Option.toList_some, List.map_singleton, List.mem_singleton, Announcement.mk.injEq, true_and,
      Option.some.injEq]
    rw [and_comm, eq_comm (a := k)]

theorem nodup_queued {queued : List Announcement}
    (h : ∀ conditionId, ∃ (kind : Option TransitionKind) (episode : String),
      (queued.filter fun a => a.conditionId = conditionId) =
        kind.toList.map fun k => ⟨conditionId, episode, k⟩) : queued.Nodup := by
  rw [List.nodup_iff_count_le_one]
  intro a
  obtain ⟨kind, episode, hqueued⟩ := h a.conditionId
  have hcount : (queued.filter fun b => b.conditionId = a.conditionId).count a = queued.count a :=
    List.count_filter (by simp)
  have hle := List.count_le_length (a := a) (l := queued.filter fun b => b.conditionId = a.conditionId)
  rw [hcount, hqueued, List.length_map] at hle
  have hone : kind.toList.length ≤ 1 := by cases kind <;> simp
  omega

theorem commit (h : Sound events desk) {runId : String} {suppress : Bool} {queued : List Announcement}
    (moves : ∀ conditionId, ∃ kind withdrawal,
      LatchMove runId suppress (desk.latch conditionId) (desk'.latch conditionId) kind withdrawal ∧
      (queued.filter fun a => a.conditionId = conditionId) =
        kind.toList.map fun k => ⟨conditionId, (desk'.latch conditionId).episode.getD "", k⟩)
    (ledger : desk'.ledger ≤
      desk.ledger + ↑(queued.map (Announcement.entry (if suppress then .suppressed else .pending))))
    (inEpisode : ∀ conditionId, (desk.latch conditionId).InEpisode)
    (latched : ∀ conditionId episode, (desk'.latch conditionId).episode = some episode →
      episode ∈ runId :: runIds events) (fresh : runId ∉ runIds events) : Sound (.committed runId suppress queued :: events) desk' := by
  have hcreated : created (.committed runId suppress queued :: events) = queued ++ created events := rfl
  have hruns : runIds (.committed runId suppress queued :: events) = runId :: runIds events := rfl
  have hfresh : ∀ c k, (⟨c, runId, k⟩ : Announcement) ∉ created events := fun c k hm => fresh (h.announced _ hm)
  have hnew : ∀ a ∈ queued, a ∉ created events := by
    intro a ha
    obtain ⟨kind, withdrawal, hmove, hqueued⟩ := moves a.conditionId
    obtain ⟨hk, he⟩ := (mem_queued_iff hqueued a.episodeId a.kind).mp ha
    have huntold := (hmove.untold (inEpisode _) (h.untold _) (hfresh _)).1 a.kind hk
    rw [← he] at huntold
    exact huntold
  have hqueued : queued.Nodup := nodup_queued fun c => by
    obtain ⟨kind, withdrawal, -, hqueued⟩ := moves c
    exact ⟨kind, _, hqueued⟩
  have hentry : ∀ entry ∈ desk'.ledger, entry ∈ desk.ledger ∨
      ∃ a ∈ queued, entry = a.entry (if suppress then .suppressed else .pending) := by
    intro entry hm
    rcases Multiset.mem_add.mp (Multiset.mem_of_le ledger hm) with hm | hm
    · exact .inl hm
    · obtain ⟨a, ha, rfl⟩ := List.mem_map.mp (Multiset.mem_coe.mp hm)
      exact .inr ⟨a, ha, rfl⟩
  have hevents : ∀ announcements status,
      Event.ended announcements status ∈ Event.committed runId suppress queued :: events →
        .ended announcements status ∈ events := fun announcements status hm => by simpa using hm
  have hsent : ∀ a ∈ queuedBy false events, a ∈ queuedBy false (.committed runId suppress queued :: events) :=
    fun a ha => List.mem_append_right _ ha
  constructor
  case announced =>
    intro a ha
    rw [hcreated, List.mem_append] at ha
    rcases ha with ha | ha
    · obtain ⟨kind, withdrawal, hmove, hqueued⟩ := moves a.conditionId
      obtain ⟨hk, he⟩ := (mem_queued_iff hqueued a.episodeId a.kind).mp ha
      obtain ⟨e, hsome⟩ := hmove.episode_of_announced (inEpisode _) (by simp [hk])
      rw [he, hsome, hruns]
      exact latched _ e hsome
    · exact List.mem_cons_of_mem _ (h.announced a ha)
  case untold =>
    intro c
    obtain ⟨kind, withdrawal, hmove, hqueued⟩ := moves c
    have huntold := (hmove.untold (inEpisode c) (h.untold c) (hfresh c)).2
    refine ⟨fun e he hl hm => huntold.alert e he hl ?_, fun e he hl hm => huntold.resolution e he hl ?_⟩
    all_goals
      rw [hcreated, List.mem_append, mem_queued_iff hqueued] at hm
      exact hm.symm
  case once =>
    rw [hcreated, List.nodup_append]
    refine ⟨hqueued, h.once, ?_⟩
    rintro a ha b hb rfl
    exact hnew a ha hb
  case entries =>
    intro entry hm
    rw [hcreated, List.mem_append]
    rcases hentry entry hm with hm | ⟨a, ha, rfl⟩
    · exact .inr (h.entries entry hm)
    · exact .inl ha
  case single =>
    refine Multiset.nodup_of_le (Multiset.map_le_map ledger) ?_
    rw [Multiset.map_add, Multiset.nodup_add, Multiset.map_coe, List.map_map]
    have hmap : queued.map (Entry.announcement ∘ Announcement.entry (if suppress then .suppressed else .pending)) =
        queued := List.map_id queued
    rw [hmap]
    refine ⟨h.single, hqueued, Multiset.disjoint_left.mpr fun {a} ha hq => ?_⟩
    obtain ⟨entry, hm, rfl⟩ := Multiset.mem_map.mp ha
    exact hnew _ (Multiset.mem_coe.mp hq) (h.entries entry hm)
  case sent =>
    intro entry hm hs
    rcases hentry entry hm with hm | ⟨a, ha, rfl⟩
    · exact hsent _ (h.sent entry hm hs)
    · cases suppress with
      | false => exact List.mem_append_left _ ha
      | true => exact absurd rfl hs
  case ended =>
    intro announcements status hm
    obtain ⟨hresult, hall⟩ := h.ended announcements status (hevents _ _ hm)
    exact ⟨hresult, fun a ha => hsent a (hall a ha)⟩
  case settled =>
    intro announcements status hm hne entry he ha
    have hm := hevents _ _ hm
    rcases hentry entry he with he | ⟨a, hq, rfl⟩
    · exact h.settled announcements status hm hne entry he ha
    · exact absurd (mem_created_of_mem_queuedBy ((h.ended announcements status hm).2 a ha)) (hnew a hq)
  case unique =>
    intro announcements status announcements' status' hm hm'
    exact h.unique announcements status announcements' status' (hevents _ _ hm) (hevents _ _ hm')

/-- What a change of status leaves of the ledger: the announcements of the
message have the new status, and no other entry is of them. -/
theorem exchange (h : Sound events desk) {announcements : List Announcement} {status status' : NotificationStatus}
    {rest : Multiset Entry} (before : desk.ledger = rest + ↑(announcements.map (Announcement.entry status)))
    (after : desk'.ledger = rest + ↑(announcements.map (Announcement.entry status'))) :
    (desk'.ledger.map Entry.announcement).Nodup ∧ ∀ entry ∈ desk'.ledger,
      (entry ∈ desk.ledger ∧ entry.announcement ∉ announcements) ∨
        ∃ a ∈ announcements, entry = a.entry status' ∧ a.entry status ∈ desk.ledger := by
  have hmap : ∀ s, (↑(announcements.map (Announcement.entry s)) : Multiset Entry).map Entry.announcement =
      ↑announcements := by
    intro s
    rw [Multiset.map_coe, List.map_map]
    exact congrArg _ (List.map_id announcements)
  have hsingle := h.single
  rw [before, Multiset.map_add, hmap] at hsingle
  refine ⟨by rwa [after, Multiset.map_add, hmap], fun entry hm => ?_⟩
  rw [after, Multiset.mem_add] at hm
  rw [before]
  rcases hm with hm | hm
  · refine .inl ⟨Multiset.mem_add.mpr (.inl hm), fun ha => ?_⟩
    exact Multiset.disjoint_left.mp (Multiset.nodup_add.mp hsingle).2.2 (Multiset.mem_map_of_mem _ hm)
      (Multiset.mem_coe.mpr ha)
  · obtain ⟨a, ha, rfl⟩ := List.mem_map.mp (Multiset.mem_coe.mp hm)
    exact .inr ⟨a, ha, rfl, Multiset.mem_add.mpr (.inr (Multiset.mem_coe.mpr (List.mem_map_of_mem ha)))⟩

/-- An announcement whose message may yet be sent, or is being sent, has no
result but `retryable`. -/
theorem not_ended (h : Sound events desk) {a : Announcement} {status : NotificationStatus}
    (ha : a.entry status ∈ desk.ledger) (hs : status ∈ [.pending, .retryable, .inFlight])
    {announcements : List Announcement} {result : NotificationStatus} (hm : .ended announcements result ∈ events)
    (hne : result ≠ .retryable) : a ∉ announcements := by
  intro hmem
  have hsame : status = result := h.settled announcements result hm hne _ ha hmem
  have hresult := (h.ended announcements result hm).1
  subst hsame
  simp only [List.mem_cons, List.not_mem_nil, or_false] at hs hresult
  rcases hs with rfl | rfl | rfl
  · simp at hresult
  · exact hne rfl
  · simp at hresult

theorem claim (h : Sound events desk) {announcements : List Announcement} {status : NotificationStatus}
    {rest : Multiset Entry} (unsent : status ∈ [.pending, .retryable])
    (before : desk.ledger = rest + ↑(announcements.map (Announcement.entry status)))
    (after : desk'.ledger = rest + ↑(announcements.map (Announcement.entry .inFlight)))
    (latch : desk'.latch = desk.latch) : Sound (.claimed announcements :: events) desk' := by
  obtain ⟨hsingle, hentry⟩ := h.exchange before after
  have hunsent : status ≠ .suppressed := by
    rintro rfl
    simp at unsent
  have hevents : ∀ anns result, Event.ended anns result ∈ Event.claimed announcements :: events →
      .ended anns result ∈ events := fun anns result hm => by simpa using hm
  refine
    { announced := h.announced
      untold := latch ▸ h.untold
      once := h.once
      entries := ?entries
      single := hsingle
      sent := ?sent
      ended := ?ended
      settled := ?settled
      unique := ?unique }
  case entries =>
    intro entry hm
    rcases hentry entry hm with ⟨hold, -⟩ | ⟨a, -, rfl, hold⟩
    · exact h.entries entry hold
    · exact h.entries (a.entry status) hold
  case sent =>
    intro entry hm hs
    rcases hentry entry hm with ⟨hold, -⟩ | ⟨a, -, rfl, hold⟩
    · exact h.sent entry hold hs
    · exact h.sent (a.entry status) hold hunsent
  case ended =>
    exact fun anns result hm => h.ended anns result (hevents _ _ hm)
  case settled =>
    intro anns result hm hne entry he ha
    rcases hentry entry he with ⟨hold, -⟩ | ⟨a, -, rfl, hold⟩
    · exact h.settled anns result (hevents _ _ hm) hne entry hold ha
    · have hactive : status ∈ [.pending, .retryable, .inFlight] := by
        simp only [List.mem_cons, List.not_mem_nil, or_false] at unsent ⊢
        tauto
      exact absurd ha (h.not_ended hold hactive (hevents _ _ hm) hne)
  case unique =>
    exact fun anns result anns' result' hm hm' => h.unique anns result anns' result' (hevents _ _ hm) (hevents _ _ hm')

theorem settle (h : Sound events desk) {announcements : List Announcement} {kind : TransitionKind}
    {status : NotificationStatus} {rest : Multiset Entry}
    (result : status ∈ [.delivered, .retryable, .failed, .unknown])
    (before : desk.ledger = rest + ↑(announcements.map (Announcement.entry .inFlight)))
    (after : desk'.ledger = rest + ↑(announcements.map (Announcement.entry status)))
    (latch : ∀ conditionId, desk'.latch conditionId =
      settledView conditionId announcements (deliveredState status kind) (desk.latch conditionId)) :
    Sound (.ended announcements status :: events) desk' := by
  obtain ⟨hsingle, hentry⟩ := h.exchange before after
  have hview : ∀ c, (desk'.latch c).lifecycle = (desk.latch c).lifecycle ∧
      (desk'.latch c).episode = (desk.latch c).episode := by
    intro c
    rw [latch c]
    exact settledView_frame _ _ _ _
  have hsent : ∀ a ∈ announcements, a ∈ queuedBy false events ∧ a.entry .inFlight ∈ desk.ledger := by
    intro a ha
    have hm : a.entry .inFlight ∈ desk.ledger := by
      rw [before]
      exact Multiset.mem_add.mpr (.inr (Multiset.mem_coe.mpr (List.mem_map_of_mem ha)))
    exact ⟨h.sent _ hm (by simp), hm⟩
  have hnone : ∀ a ∈ announcements, ∀ anns status', Event.ended anns status' ∈ events → status' ≠ .retryable →
      a ∉ anns := fun a ha anns status' hm hne => h.not_ended (hsent a ha).2 (by simp) hm hne
  refine
    { announced := h.announced
      untold := ?untold
      once := h.once
      entries := ?entries
      single := hsingle
      sent := ?sent
      ended := ?ended
      settled := ?settled
      unique := ?unique }
  case untold =>
    intro c
    refine ⟨fun e he hl => ?_, fun e he hl => ?_⟩
    · exact (h.untold c).alert e ((hview c).2 ▸ he) ((hview c).1 ▸ hl)
    · exact (h.untold c).resolution e ((hview c).2 ▸ he) ((hview c).1 ▸ hl)
  case entries =>
    intro entry hm
    rcases hentry entry hm with ⟨hold, -⟩ | ⟨a, -, rfl, hold⟩
    · exact h.entries entry hold
    · exact h.entries (a.entry .inFlight) hold
  case sent =>
    intro entry hm hs
    rcases hentry entry hm with ⟨hold, -⟩ | ⟨a, ha, rfl, -⟩
    · exact h.sent entry hold hs
    · exact (hsent a ha).1
  case ended =>
    intro anns status' hm
    rcases List.mem_cons.mp hm with he | hm
    · obtain ⟨rfl, rfl⟩ := Event.ended.inj he
      exact ⟨result, fun a ha => (hsent a ha).1⟩
    · exact h.ended anns status' hm
  case settled =>
    intro anns status' hm hne entry hentry' ha
    rcases List.mem_cons.mp hm with he | hm
    · obtain ⟨rfl, rfl⟩ := Event.ended.inj he
      rcases hentry entry hentry' with ⟨-, hno⟩ | ⟨a, -, rfl, -⟩
      · exact absurd ha hno
      · rfl
    · rcases hentry entry hentry' with ⟨hold, -⟩ | ⟨a, hmem, rfl, -⟩
      · exact h.settled anns status' hm hne entry hold ha
      · exact absurd ha (hnone a hmem anns status' hm hne)
  case unique =>
    intro anns status₁ anns' status₂ hm hm' hne hne' a ha ha'
    rcases List.mem_cons.mp hm with he | hold
    · obtain ⟨rfl, rfl⟩ := Event.ended.inj he
      rcases List.mem_cons.mp hm' with he' | hold'
      · exact (Event.ended.inj he').2.symm
      · exact absurd ha' (hnone a ha anns' status₂ hold' hne')
    · rcases List.mem_cons.mp hm' with he' | hold'
      · obtain ⟨rfl, rfl⟩ := Event.ended.inj he'
        exact absurd ha (hnone a ha' anns status₁ hold hne)
      · exact h.unique anns status₁ anns' status₂ hold hold' hne hne' a ha ha'

end Sound

/-- **The invariant holds of every run of a desk** whose run ids are
distinct. -/
theorem DeskRun.sound {events : List Event} {desk : Desk} (h : DeskRun events desk)
    (distinct : (runIds events).Nodup) : Sound events desk := by
  induction h with
  | start => exact sound_start
  | step h step ih =>
    cases step with
    | commit moves ledger =>
      obtain ⟨fresh, distinct⟩ := List.nodup_cons.mp distinct
      exact (ih distinct).commit moves ledger h.inEpisode (fun c _ he => (h.step (.commit moves ledger)).latched c he) fresh
    | claim unsent before after latch => exact (ih distinct).claim unsent before after latch
    | settle _ result before after latch => exact (ih distinct).settle result before after latch

/-! ### Confirmed alerts -/

/-- An alert of the condition and episode was recorded as delivered. -/
def Confirmed (conditionId episodeId : String) (events : List Event) : Prop :=
  ∃ announcements, .ended announcements .delivered ∈ events ∧
    (⟨conditionId, episodeId, .alert⟩ : Announcement) ∈ announcements

theorem Confirmed.cons {conditionId episodeId : String} {events : List Event} (h : Confirmed conditionId episodeId events)
    (event : Event) : Confirmed conditionId episodeId (event :: events) := by
  obtain ⟨announcements, hm, ha⟩ := h
  exact ⟨announcements, List.mem_cons_of_mem _ hm, ha⟩

/-- **A latch reads `delivered` only for a confirmed episode.** -/
theorem DeskRun.confirmed {events : List Event} {desk : Desk} (h : DeskRun events desk) (conditionId : String)
    {episode : String} (hd : (desk.latch conditionId).delivery = .delivered)
    (he : (desk.latch conditionId).episode = some episode) : Confirmed conditionId episode events := by
  induction h with
  | start => cases hd
  | @step events desk desk' event _ step ih =>
    cases step with
    | commit moves ledger =>
      obtain ⟨kind, withdrawal, hmove, -⟩ := moves conditionId
      obtain ⟨hold, hsame⟩ := hmove.delivered hd
      exact (ih hold (hsame ▸ he)).cons _
    | claim unsent before after latch =>
      rw [latch] at hd he
      exact (ih hd he).cons _
    | @settle _ announcements kind status rest kinds _ _ _ latch =>
      rw [latch] at hd he
      rcases settledView_cases conditionId announcements (deliveredState status kind) (desk.latch conditionId) with
        hsame | ⟨state, hstate, hnew, a, ha, hc, hepisode⟩
      · rw [hsame] at hd he
        exact (ih hd he).cons _
      · rw [hnew] at hd he
        have hde : status = .delivered ∧ kind = .alert := by
          obtain rfl : state = .delivered := hd
          cases status <;> cases kind <;> simp [deliveredState] at hstate ⊢
        have he : (desk.latch conditionId).episode = some episode := he
        rw [hepisode, Option.some.injEq] at he
        refine ⟨announcements, hde.1 ▸ List.mem_cons_self, ?_⟩
        have hk := (kinds a ha).trans hde.2
        rw [← hc, ← he, ← hk]
        exact ha

end Sentinel
